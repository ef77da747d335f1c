/-
TokenCustody.Token.Response — the answer of the token endpoint.

The answer is a JSON object. Its known members are read strictly; all
others are kept, so they have to be representable. Whether it grants
anything is a second question: `Grant.ofResponse` wants a non-empty
access token and a lifetime, and takes an empty refresh token for none.
-/
import TokenCustody.Json.Fields
import TokenCustody.Json.Kept
import TokenCustody.Json.Reader
import TokenCustody.Token.Grant

namespace TokenCustody

open TokenCustody.Json
open TokenCustody.Time

/-- The answer of the token endpoint. -/
structure TokenResponse where
  accessToken : Option String
  tokenType : String
  expiresIn : Option Nat
  refreshToken : Option String
  refreshTokenExpiresIn : Option Nat
  scope : Option String
  /-- The members with other names. -/
  extra : List (String × Value)

namespace TokenResponse

/-- The names of the members that mean something. -/
def names : List String :=
  ["access_token", "token_type", "expires_in", "refresh_token", "refresh_token_expires_in", "scope"]

/-- The members with other names, if they can be kept. -/
def extraOf (members : List (Text × Value)) : Option (List (String × Value)) :=
  let others := members.filter fun m => !(names.any fun n => m.1 = some n)
  if areMembersKept others ∧ Value.depthOfMembers others < maxKeptDepth then
    some ((lastWinsMembers others).filterMap fun m => m.1.map fun k => (k, m.2))
  else none

/-- Reads an answer. -/
def ofJson? : Value → Option TokenResponse
  | .object members => do
    let f ← fieldsOfMembers names members
    some
      { accessToken := ← f.optional "access_token" Value.string?
        tokenType := ← f.orElse "token_type" Value.string? "Bearer"
        expiresIn := ← f.optional "expires_in" Value.word?
        refreshToken := ← f.optional "refresh_token" Value.string?
        refreshTokenExpiresIn := ← f.optional "refresh_token_expires_in" Value.word?
        scope := ← f.optional "scope" Value.string?
        extra := ← extraOf members }
  | _ => none

/-- Reads the text of an answer. -/
def ofString? (s : String) : Option TokenResponse := (Value.ofString? s).bind ofJson?

end TokenResponse

/-- The longest lifetime, a century of years without leap days; longer ones count as
this long. -/
def maxLifetimeSeconds : Nat := 100 * 365 * 24 * 3600

/-- An announced lifetime. -/
def lifetimeOfSeconds (n : Nat) : Span := Span.ofSeconds (min n maxLifetimeSeconds : Nat)

/-- The text, unless it is empty. -/
def nonEmpty (t : Option String) : Option String := t.filter (· ≠ "")

/-- What an answer grants. -/
def Grant.ofResponse (r : TokenResponse) (receivedAt : Instant) : Except Error Grant :=
  match nonEmpty r.accessToken, r.expiresIn with
  | none, _ => .error (.protocol (.missingField "access_token"))
  | some _, none => .error (.protocol (.missingField "expires_in"))
  | some accessToken, some expiresIn =>
    .ok
      { accessToken
        refreshToken := nonEmpty r.refreshToken
        tokenType := r.tokenType
        scope := r.scope
        lifetime := lifetimeOfSeconds expiresIn
        refreshLifetime := r.refreshTokenExpiresIn.map lifetimeOfSeconds
        receivedAt }

end TokenCustody
