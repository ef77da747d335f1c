/-
TokenCustody.Token.Shown — grants and records for people, without secrets.

The text names every field and its value, but of a token only whether it
is there.
-/
import TokenCustody.Text.Quoted
import TokenCustody.Time.Rfc3339
import TokenCustody.Token.Grant

namespace TokenCustody

open TokenCustody.Text

/-- What is shown in place of a secret. -/
def redacted : String := Quoted.render "[REDACTED]"

/-- A value that may be missing. -/
def showOption (t : Option String) : String :=
  match t with
  | some t => "Some(" ++ t ++ ")"
  | none => "None"

/-- A name and the fields that belong to it. -/
def showFields (name : String) (fields : List (String × String)) : String :=
  let written := fields.map fun f => f.1 ++ ": " ++ f.2
  name ++ " \x7b " ++ ", ".intercalate written ++ " \x7d"

/-- The name of a kind of fault in texts for people. -/
def FaultKind.shown : FaultKind → String
  | .invalidGrant => "InvalidGrant"
  | .invalidToken => "InvalidToken"
  | .apiRejected => "ApiRejected"

/-- A fault for people. -/
def Fault.shown (f : Fault) : String :=
  showFields "TokenFault"
    [("kind", f.kind.shown), ("message", Quoted.render f.message),
      ("observed_at", f.observedAt.render)]

/-- A version for people. -/
def Version.shown (v : Version) : String := "StoreVersion(" ++ Quoted.render v.tag ++ ")"

/-- A record for people. -/
def Record.shown (r : Record) : String :=
  showFields "TokenRecord"
    [("access_token", redacted), ("refresh_token", redacted),
      ("token_type", Quoted.render r.tokenType),
      ("scope", showOption (r.scope.map Quoted.render)),
      ("issued_at", r.issuedAt.render), ("expires_at", r.expiresAt.render),
      ("refresh_token_expires_at", r.refreshExpiresAt.render),
      ("last_refresh_at", showOption (r.lastRefreshAt.map Time.Instant.render)),
      ("refresh_count", toString r.refreshCount),
      ("last_error", showOption (r.fault.map Fault.shown)),
      ("store_version", showOption (r.version.map Version.shown))]

/-- A grant for people. -/
def Grant.shown (g : Grant) : String :=
  showFields "TokenGrant"
    [("access_token", redacted),
      ("refresh_token", showOption (g.refreshToken.map fun _ => redacted)),
      ("token_type", Quoted.render g.tokenType),
      ("scope", showOption (g.scope.map Quoted.render)),
      ("expires_in", g.lifetime.render), ("received_at", g.receivedAt.render)]

end TokenCustody
