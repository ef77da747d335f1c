/-
TokenCustody.Outcome — what an invocation comes to.

An invocation that does not fail ends in one of two ways: with a record
whose access token can be presented, or with the reason why a human has
to authorize again.
-/
import TokenCustody.Json.Printer
import TokenCustody.Token.Record

namespace TokenCustody

open TokenCustody.Json

/-- Why a human has to authorize again. -/
inductive Reason where
  /-- Nothing was ever stored. -/
  | noRecord
  /-- The refresh token has expired. -/
  | refreshTokenExpired
  /-- The record is faulted. -/
  | invalid (message : String)
  /-- The provider refused the refresh token just now. -/
  | refreshRejected (message : String)
  deriving DecidableEq

namespace Reason

/-- The name of a reason in reports and metrics. -/
def name : Reason → String
  | .noRecord => "no_record"
  | .refreshTokenExpired => "refresh_token_expired"
  | .invalid _ => "invalid"
  | .refreshRejected _ => "refresh_rejected"

/-- What is known beyond the name. -/
def detail? : Reason → Option String
  | .invalid m | .refreshRejected m => some m
  | .noRecord | .refreshTokenExpired => none

/-- The words for a reason. -/
def describe (r : Reason) : String :=
  match r.detail? with
  | some m => r.name ++ ": " ++ m
  | none => r.name

/-- A reason as a value. -/
def toJson (r : Reason) : Value :=
  .sparse [("reason", some (.str r.name)), ("message", r.detail?.map .str)]

/-- The reason that a faulted record gives. -/
def ofFault (r : Record) : Reason := .invalid ((r.fault.map Fault.message).getD "")

end Reason

/-- What an invocation comes to. -/
inductive Outcome where
  /-- The record that was stored is still good; nothing was written. -/
  | unchanged (r : Record)
  /-- This invocation refreshed the record and stored it. -/
  | refreshed (r : Record)
  /-- Another invocation was faster; its record is used. -/
  | refreshedByPeer (r : Record)
  /-- A human has to authorize again. -/
  | needsAuthorization (why : Reason)
  deriving DecidableEq

namespace Outcome

/-- The record to use. -/
def record? : Outcome → Option Record
  | .unchanged r | .refreshed r | .refreshedByPeer r => some r
  | .needsAuthorization _ => none

/-- The reason to call a human. -/
def reason? : Outcome → Option Reason
  | .needsAuthorization why => some why
  | _ => none

end Outcome

end TokenCustody
