/-
TokenCustody.Config.Draft — a client configuration in the making.

A draft is filled in any order, later values replacing earlier ones, and
checked once at the end: `complete` tells the first thing that is wrong,
in a fixed order.
-/
import TokenCustody.Config.Basic
import TokenCustody.Url.Reader

namespace TokenCustody

open TokenCustody.Time

/-- A client configuration in the making. -/
structure ClientDraft where
  clientId : Option String
  clientSecret : Option String
  auth : Option ClientAuth
  authorizationEndpoint : Option String
  tokenEndpoint : Option String
  redirectUri : Option String
  scopes : List String
  timeout : Duration
  deriving DecidableEq

/-- The timeout used when none is configured. -/
def defaultTimeout : Duration := .ofSeconds 10

/-- The shortest timeout that is allowed. -/
def minTimeout : Duration := .ofSeconds 5

/-- The longest timeout that is allowed. -/
def maxTimeout : Duration := .ofSeconds 10

namespace ClientDraft

/-- Nothing is filled in, not even a timeout. -/
def blank : ClientDraft := ⟨none, none, none, none, none, none, [], .zero⟩

/-- Nothing but the timeout is filled in. -/
def new : ClientDraft := { blank with timeout := defaultTimeout }

/-- Adds something to ask for. -/
def addScope (d : ClientDraft) (scope : String) : ClientDraft :=
  { d with scopes := d.scopes ++ [scope] }

/-- A value that must be there. -/
def need (value : Option String) (field : String) : Except Error String :=
  match value with
  | some v => .ok v
  | none => .error (.configuration (.missing field))

/-- A value that must be a URL. -/
def needUrl (value : String) : Except Error String :=
  match Url.ofString value with
  | .ok _ => .ok value
  | .error _ => .error (.configuration (.endpoint value))

/-- A timeout that must be within its bounds. -/
def needTimeout (timeout : Duration) : Except Error Duration :=
  if minTimeout ≤ timeout ∧ timeout ≤ maxTimeout then .ok timeout
  else
    .error (.configuration (.invalid
      ("timeout must be between " ++ toString minTimeout.seconds ++ " and " ++
        toString maxTimeout.seconds ++ " seconds, got " ++ timeout.render)))

/-- The finished configuration. -/
def complete (d : ClientDraft) : Except Error ClientConfig := do
  let clientId ← need d.clientId "client_id"
  let clientSecret ← need d.clientSecret "client_secret"
  let authorization ← needUrl (← need d.authorizationEndpoint "authorization_endpoint")
  let token ← needUrl (← need d.tokenEndpoint "token_endpoint")
  let redirectUri ← needUrl (← need d.redirectUri "redirect_uri")
  let timeout ← needTimeout d.timeout
  return {
    endpoints := ⟨authorization, token⟩
    credentials := ⟨clientId, some clientSecret, d.auth.getD .basic⟩
    redirectUri
    scopes := d.scopes
    timeout }

end ClientDraft

end TokenCustody
