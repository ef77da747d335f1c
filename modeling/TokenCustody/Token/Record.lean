/-
TokenCustody.Token.Record — the credential that is kept.

A record holds the access token in use, the refresh token that brings
the next one, and their three points of time. It is the only thing the
store keeps, and everybody who shares the credential shares it.

`Record.defect?` names what is wrong with a record, first things first.
A sound record has a refresh token, has an access token unless it is
faulted, and was issued no later than its access token expires, which is
no later than its refresh token expires.
-/
import TokenCustody.Error
import TokenCustody.Time.Instant

namespace TokenCustody

open TokenCustody.Time

/-! ## Parts -/

/-- The tag that the store gave to what it holds. -/
structure Version where
  tag : String
  deriving DecidableEq

/-- Who declared a record unusable. -/
inductive FaultKind where
  /-- The token endpoint said `invalid_grant`. -/
  | invalidGrant
  /-- The token endpoint said `invalid_token`. -/
  | invalidToken
  /-- A call with the access token was rejected. -/
  | apiRejected
  deriving DecidableEq

/-- Why a record is unusable for good. -/
structure Fault where
  kind : FaultKind
  message : String
  observedAt : Instant
  deriving DecidableEq

/-- The credential that is kept. -/
structure Record where
  accessToken : String
  refreshToken : String
  tokenType : String
  scope : Option String
  issuedAt : Instant
  expiresAt : Instant
  refreshExpiresAt : Instant
  lastRefreshAt : Option Instant
  /-- How many refreshes led here from the authorization by a human. -/
  refreshCount : Nat
  fault : Option Fault
  /-- The version the record was read or written at. It belongs to the store and is no
  part of the document. -/
  version : Option Version
  deriving DecidableEq

namespace Record

/-! ## Soundness -/

/-- What is wrong with a record, if anything. -/
def defect? (r : Record) : Option String :=
  if r.refreshToken = "" then some "empty refresh token"
  else if r.accessToken = "" ∧ r.fault = none then some "empty access token"
  else if ¬r.issuedAt ≤ r.expiresAt then some "issued_at is after expires_at"
  else if ¬r.expiresAt ≤ r.refreshExpiresAt then
    some "expires_at is after refresh_token_expires_at"
  else none

/-- The record, if nothing is wrong with it. -/
def checked (r : Record) : Except Error Record :=
  match r.defect? with
  | some defect => .error (.protocol (.invalidRecord defect))
  | none => .ok r

/-! ## Small changes -/

/-- The record as it was read or written at a version. -/
def withVersion (r : Record) (v : Version) : Record := { r with version := some v }

/-- The record without its version, as the store holds it. -/
def bare (r : Record) : Record := { r with version := none }

/-- The record declared unusable. The access token is dropped; the refresh token stays,
because it tells which credential was refused. -/
def withFault (r : Record) (f : Fault) : Record :=
  { r with accessToken := "", fault := some f, version := none }

/-- What a call presents. -/
def authorizationHeader (r : Record) : String := r.tokenType ++ " " ++ r.accessToken

end Record

end TokenCustody
