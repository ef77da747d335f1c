/-
TokenCustody.Metric — what is counted, and a log of it.

Every metric counts one occurrence. It has a name and at most one label
that tells occurrences apart. No label is ever made of a token: states,
reasons and error codes come from short fixed lists.
-/
import TokenCustody.Time.Instant

namespace TokenCustody

open TokenCustody.Time

/-- One occurrence that is counted. -/
inductive Metric where
  /-- The first read of an invocation found this state. -/
  | state (name : String)
  /-- A refresh is about to be asked for. -/
  | refreshAttempt
  /-- A refresh came to an end. -/
  | refresh (success : Bool)
  /-- A conditional write came too late. -/
  | conflict
  /-- A human is needed. -/
  | authorizationNeeded (reason : String)
  /-- A human has authorized and the record is stored. -/
  | authorizationStored
  /-- An error with this code. -/
  | error (code : String)
  deriving DecidableEq

/-- The name under which an occurrence is counted. -/
def Metric.name : Metric → String
  | .state _ => "token_state_observed_total"
  | .refreshAttempt => "token_refresh_attempts_total"
  | .refresh _ => "token_refreshes_total"
  | .conflict => "token_version_conflicts_total"
  | .authorizationNeeded _ => "token_reauthorization_required_total"
  | .authorizationStored => "token_reauthorizations_total"
  | .error _ => "token_errors_total"

/-- What tells occurrences of one name apart. -/
def Metric.labels : Metric → List (String × String)
  | .state name => [("state", name)]
  | .refresh success => [("success", if success then "true" else "false")]
  | .authorizationNeeded reason => [("reason", reason)]
  | .error code => [("error_code", code)]
  | .refreshAttempt | .conflict | .authorizationStored => []

/-! ## The log -/

/-- An occurrence and the milliseconds since 1970 when it was counted. -/
structure MetricEntry where
  metric : Metric
  at_ : Nat
  deriving DecidableEq

/-- The occurrences of a program run, oldest first. -/
abbrev MetricLog := List MetricEntry

namespace MetricLog

/-- The log with one more occurrence. -/
def record (log : MetricLog) (m : Metric) (now : Instant) : MetricLog :=
  log ++ [⟨m, now.unixMillis⟩]

/-- The occurrences of one name. -/
def named (log : MetricLog) (name : String) : MetricLog := log.filter fun e => e.metric.name = name

/-- How often a name was counted. -/
def count (log : MetricLog) (name : String) : Nat := (log.named name).length

end MetricLog

end TokenCustody
