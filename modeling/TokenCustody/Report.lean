/-
TokenCustody.Report — what an invocation tells those who started it.

A report is one JSON object on one line. It tells whether data calls may
go on, and if not, who has to act: nobody yet (try again), a human, or
whoever maintains the configuration. It never holds a token.
-/
import TokenCustody.Coordination
import TokenCustody.Token.Document

namespace TokenCustody

open TokenCustody.Json
open TokenCustody.Time

/-! ## One invocation -/

/-- What an invocation came to. -/
inductive ReportStatus where
  | noAction
  | refreshed
  | needsAuthorization
  | failed
  deriving DecidableEq

namespace ReportStatus

/-- The name of a status. -/
def name : ReportStatus → String
  | .noAction => "token_valid_no_action"
  | .refreshed => "refreshed"
  | .needsAuthorization => "requires_reauthorization"
  | .failed => "retryable_failure"

/-- Whether data calls may go on. -/
def canProceed (s : ReportStatus) : Bool := s = .noAction ∨ s = .refreshed

end ReportStatus

/-- What an invocation tells. -/
structure Report where
  status : ReportStatus
  refreshCount : Option Nat
  expiresAt : Option Instant
  /-- The calls that were made, store reads and refreshes. -/
  attempts : Nat
  reason : Option Reason
  errorCode : Option String
  errorClass : Option ErrorClass
  /-- The next invocation would fail the same way. -/
  fatal : Bool
  message : Option String
  deriving DecidableEq

namespace Report

/-- The report on an invocation that did not fail. -/
def ofOutcome (o : Outcome) (attempts : Nat) : Report :=
  { status := match o with
      | .unchanged _ | .refreshedByPeer _ => .noAction
      | .refreshed _ => .refreshed
      | .needsAuthorization _ => .needsAuthorization
    refreshCount := o.record?.map Record.refreshCount
    expiresAt := o.record?.map Record.expiresAt
    attempts
    reason := o.reason?
    errorCode := none
    errorClass := none
    fatal := false
    message := none }

/-- The report on an invocation that failed. -/
def ofError (e : Error) (attempts : Nat) : Report :=
  { status := if e.needsHuman then .needsAuthorization else .failed
    refreshCount := none
    expiresAt := none
    attempts
    reason := none
    errorCode := some e.code
    errorClass := some e.classify
    fatal := e.isFatal
    message := some e.message }

/-- The report on an invocation. -/
def ofResult (result : Except Error Outcome) (attempts : Nat) : Report :=
  match result with
  | .ok o => ofOutcome o attempts
  | .error e => ofError e attempts

/-- A report as a value. -/
def toJson (r : Report) : Value :=
  .sparse
    [("status", some (.str r.status.name)),
      ("refresh_count", r.refreshCount.map .count),
      ("expires_at", r.expiresAt.map instantToJson),
      ("attempts", some (.count r.attempts)),
      ("reauthorization", r.reason.map Reason.toJson),
      ("error_code", r.errorCode.map .str),
      ("error_class", r.errorClass.map fun c => .str c.name),
      ("fatal", if r.fatal then some (.bool true) else none),
      ("message", r.message.map .str)]

/-- The line of a report. -/
def render (r : Report) : String := r.toJson.render

/-- The exit code of an invocation: 0 when data calls may go on, 1 when the next
invocation may succeed, 2 when a human is needed, 3 when trying again is no use. -/
def exitCode (r : Report) : Nat :=
  match r.status with
  | .noAction | .refreshed => 0
  | .needsAuthorization => 2
  | .failed => if r.fatal then 3 else 1

end Report

/-- One invocation: obtains a usable access token within the budget, and reports. -/
def invoke (cfg : Settings) : Program Custody Report := do
  let deadline ← Deadline.after cfg.budget
  let (result, stats) ← (Coordination.obtainBy cfg deadline).counting .zero
  let result ← Program.orHalt result
  return .ofResult result stats.attempts.toNat

/-! ## A look at the store -/

/-- What the store holds, without secrets. -/
structure StatusReport where
  state : TokenState
  record : Option Record
  deriving DecidableEq

namespace StatusReport

/-- A status report as a value. -/
def toJson (s : StatusReport) : Value :=
  .sparse
    [("state", some (.str s.state.name)),
      ("refresh_count", s.record.map fun r => .count r.refreshCount),
      ("expires_at", s.record.map fun r => instantToJson r.expiresAt),
      ("refresh_token_expires_at", s.record.map fun r => instantToJson r.refreshExpiresAt),
      ("last_refresh_at", (s.record.bind Record.lastRefreshAt).map instantToJson),
      ("last_error", (s.record.bind Record.fault).map Fault.toJson)]

/-- The line of a status report. -/
def render (s : StatusReport) : String := s.toJson.render

end StatusReport

/-- Looks at the store without asking the provider. -/
def lookAt (cfg : Settings) : Program Custody (Except Error StatusReport) := do
  match ← Coordination.inspect cfg with
  | .ok (record, state) => return .ok { state, record }
  | .error e => return .error e

end TokenCustody
