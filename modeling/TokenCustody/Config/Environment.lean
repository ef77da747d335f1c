/-
TokenCustody.Config.Environment — configuration from variables.

All variables start with one mark. An empty variable counts as missing.
They are read in a fixed order and the first error ends the reading; the
store comes last, so a run that cannot be authorized is noticed first.
-/
import TokenCustody.Config.Draft
import TokenCustody.Text.Blank

namespace TokenCustody

open TokenCustody.Text
open TokenCustody.Time

/-- The values of variables. -/
abbrev Variables := String → Option String

namespace Variables

/-- What the names of all variables start with. -/
def mark : String := "TOKEN_KEEPER_"

/-- The value of a variable, unless it is empty. -/
def value (v : Variables) (name : String) : Option String := (v (mark ++ name)).filter (· ≠ "")

/-- The value of a variable that must be there. -/
def need (v : Variables) (name : String) : Except Error String :=
  match v.value name with
  | some s => .ok s
  | none => .error (.configuration (.missing (mark ++ name)))

/-- The whole seconds in a variable, blanks around them allowed. -/
def seconds (v : Variables) (name : String) : Except Error (Option Nat) :=
  match v.value name with
  | none => .ok none
  | some s =>
    match readWord (trim s.toList) with
    | some n => .ok (some n)
    | none =>
      .error (.configuration (.invalid (mark ++ name ++ " must be a whole number of seconds")))

/-- A number of seconds as a span. Numbers from the upper half of the 64 bits count down
from zero. -/
def spanOfSeconds (n : Nat) : Option Span := Span.ofSeconds? ((n : Int).bmod wordCount)

/-- The client configuration. -/
def clientConfig (v : Variables) (timeout : Duration) : Except Error ClientConfig := do
  let clientId ← v.need "CLIENT_ID"
  let clientSecret ← v.need "CLIENT_SECRET"
  let authorizationEndpoint ← v.need "AUTHORIZE_URL"
  let tokenEndpoint ← v.need "TOKEN_URL"
  let redirectUri ← v.need "REDIRECT_URI"
  ClientDraft.complete
    { clientId := some clientId
      clientSecret := some clientSecret
      auth := none
      authorizationEndpoint := some authorizationEndpoint
      tokenEndpoint := some tokenEndpoint
      redirectUri := some redirectUri
      scopes := (words ((v.value "SCOPE").getD "").toList).map String.ofList
      timeout }

/-- The place of the record. -/
def storeConfig (v : Variables) (timeout : Duration) : Except Error StoreConfig := do
  let baseUrl ← v.need "STORE_URL"
  let secretName ← v.need "STORE_SECRET"
  let authToken := v.value "STORE_AUTH_TOKEN"
  return { baseUrl := ← ClientDraft.needUrl baseUrl, secretName, authToken, timeout }

/-- Everything an invocation needs. There is no result, not even an error, when the
threshold is longer than any span. -/
def jobConfig (v : Variables) : Option (Except Error JobConfig) :=
  let client := do
    let timeout := (← v.seconds "HTTP_TIMEOUT_SECS").map Duration.ofSeconds
    v.clientConfig (timeout.getD defaultTimeout)
  match client, v.seconds "REFRESH_THRESHOLD_SECS" with
  | .error e, _ | .ok _, .error e => some (.error e)
  | .ok client, .ok threshold =>
    let span := match threshold with
      | some n => spanOfSeconds n
      | none => some defaultThreshold
    span.map fun refreshThreshold => do
      let budget := (← v.seconds "INVOCATION_BUDGET_SECS").map Duration.ofSeconds
      let store ← v.storeConfig client.timeout
      let settings : Settings :=
        { Settings.default with
          refreshThreshold, budget := budget.getD Settings.default.budget }
      return { client, settings, store }

end Variables

end TokenCustody
