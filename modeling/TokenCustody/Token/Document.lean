/-
TokenCustody.Token.Document — a record as the JSON document that is stored.

The members stand in a fixed order and those without a value are left
out. The version is not written: it belongs to the store. The reader
takes the members in any order, or an array of them in the written
order, and ignores every other member, so a version that somebody wrote
into the document is not believed.
-/
import TokenCustody.Json.Fields
import TokenCustody.Json.Printer
import TokenCustody.Json.Reader
import TokenCustody.Time.Rfc3339
import TokenCustody.Token.Record

namespace TokenCustody

open TokenCustody.Json
open TokenCustody.Time

/-! ## Parts -/

/-- An instant as a value. -/
def instantToJson (t : Instant) : Value := .str t.render

/-- Reads an instant. -/
def instantOfJson? (v : Value) : Option Instant := v.string?.bind Instant.ofString?

/-- The word for a kind of fault. -/
def FaultKind.name : FaultKind → String
  | .invalidGrant => "invalid_grant"
  | .invalidToken => "invalid_token"
  | .apiRejected => "api_rejected"

/-- Reads a kind of fault. -/
def FaultKind.ofJson? : Value → Option FaultKind :=
  Value.choice? [("invalid_grant", .invalidGrant), ("invalid_token", .invalidToken),
    ("api_rejected", .apiRejected)]

namespace Fault

/-- The names of the members of a fault. -/
def names : List String := ["kind", "message", "observed_at"]

/-- The members of a fault, as they are written. -/
def fields (f : Fault) : List (String × Option Value) :=
  [("kind", some (.str f.kind.name)), ("message", some (.str f.message)),
    ("observed_at", some (instantToJson f.observedAt))]

/-- A fault as a value. -/
def toJson (f : Fault) : Value := .sparse f.fields

/-- Reads a fault. -/
def ofJson? (v : Value) : Option Fault := do
  let f ← v.fields? names
  some
    { kind := ← f.need "kind" FaultKind.ofJson?
      message := ← f.need "message" Value.string?
      observedAt := ← f.need "observed_at" instantOfJson? }

end Fault

/-! ## The document -/

namespace Record

/-- The names of the members of a document, in order. -/
def names : List String :=
  ["access_token", "refresh_token", "token_type", "scope", "issued_at", "expires_at",
    "refresh_token_expires_at", "last_refresh_at", "refresh_count", "last_error"]

/-- The members of a document, as they are written. -/
def fields (r : Record) : List (String × Option Value) :=
  [("access_token", some (.str r.accessToken)),
    ("refresh_token", some (.str r.refreshToken)),
    ("token_type", some (.str r.tokenType)),
    ("scope", r.scope.map .str),
    ("issued_at", some (instantToJson r.issuedAt)),
    ("expires_at", some (instantToJson r.expiresAt)),
    ("refresh_token_expires_at", some (instantToJson r.refreshExpiresAt)),
    ("last_refresh_at", r.lastRefreshAt.map instantToJson),
    ("refresh_count", some (.count r.refreshCount)),
    ("last_error", r.fault.map Fault.toJson)]

/-- A record as a value. -/
def toJson (r : Record) : Value := .sparse r.fields

/-- The document of a record. -/
def document (r : Record) : String := r.toJson.render

/-- Reads a record. It has no version yet. -/
def ofJson? (v : Value) : Option Record := do
  let f ← v.fields? names
  some
    { accessToken := ← f.need "access_token" Value.string?
      refreshToken := ← f.need "refresh_token" Value.string?
      tokenType := ← f.need "token_type" Value.string?
      scope := ← f.optional "scope" Value.string?
      issuedAt := ← f.need "issued_at" instantOfJson?
      expiresAt := ← f.need "expires_at" instantOfJson?
      refreshExpiresAt := ← f.need "refresh_token_expires_at" instantOfJson?
      lastRefreshAt := ← f.optional "last_refresh_at" instantOfJson?
      refreshCount := ← f.orElse "refresh_count" Value.word? 0
      fault := ← f.optional "last_error" Fault.ofJson?
      version := none }

/-- Reads the document of a record. -/
def ofDocument? (s : String) : Option Record := (Value.ofString? s).bind ofJson?

end Record

end TokenCustody
