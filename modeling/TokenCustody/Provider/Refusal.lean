/-
TokenCustody.Provider.Refusal — what a token endpoint means when it does
not grant.

The status comes first: a server that is busy or broken says nothing
about the credential, whatever else it writes. Otherwise the body may
name an error of the protocol, and only that can tell that a refresh
token was refused. Without it the status is all there is.
-/
import TokenCustody.Error
import TokenCustody.Http.Message
import TokenCustody.Json.Fields
import TokenCustody.Json.Reader

namespace TokenCustody

open TokenCustody.Json

/-- The body of an answer that grants nothing. -/
structure Refusal where
  error : String
  description : Option String
  uri : Option String
  deriving DecidableEq

namespace Refusal

/-- The members of the body. -/
def names : List String := ["error", "error_description", "error_uri"]

/-- Reads the body. -/
def ofJson? (v : Value) : Option Refusal := do
  let f ← v.fields? names
  some
    { error := ← f.need "error" Value.string?
      description := ← f.optional "error_description" Value.string?
      uri := ← f.optional "error_uri" Value.string? }

/-- Reads the text of the body. -/
def ofString? (s : String) : Option Refusal := (Value.ofString? s).bind ofJson?

/-- What a refusal means. One that is not known counts as a fault of the request. -/
def meaning (r : Refusal) : ProviderError :=
  let orElse (text : String) : String := r.description.getD text
  match r.error with
  | "invalid_client" => .invalidClient r.description
  | "invalid_grant" => .invalidGrant (orElse "Invalid grant")
  | "invalid_token" => .invalidToken (orElse "Invalid token")
  | "invalid_request" => .invalidRequest (orElse "Invalid request")
  | "invalid_scope" => .invalidScope (orElse "")
  | "unauthorized_client" => .unauthorizedClient r.description
  | "unsupported_grant_type" => .unsupportedGrantType (orElse "")
  | "server_error" => .serverError (orElse "Server error")
  | "temporarily_unavailable" => .unavailable none
  | other => .invalidRequest (orElse other)

/-- What a status means when the body says nothing. -/
def ofStatus (status : Nat) : ProviderError :=
  match status with
  | 400 => .invalidRequest "Bad request"
  | 401 => .invalidClient (some "Unauthorized")
  | 403 => .unauthorizedClient (some "Forbidden")
  | _ => .invalidRequest ("HTTP " ++ toString status)

end Refusal

/-- The error of an answer that grants nothing. -/
def Http.Response.refusal (r : Http.Response) : Error :=
  if r.status = 429 then .network (.rateLimited r.headers.retryAfter)
  else if 500 ≤ r.status ∧ r.status < 600 then
    .provider (.serverError ("HTTP " ++ toString r.status))
  else
    match Refusal.ofString? r.body with
    | some refusal => .provider refusal.meaning
    | none => .provider (Refusal.ofStatus r.status)

end TokenCustody
