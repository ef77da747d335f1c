/-
TokenCustody.Deadline — the end of an invocation's time.

A deadline is a point of the monotonic clock. Setting the calendar
neither prolongs nor shortens an invocation.
-/
import TokenCustody.Program

namespace TokenCustody

open TokenCustody.Time

/-- The point of the monotonic clock at which an invocation has to end. -/
structure Deadline where
  at_ : Duration
  deriving DecidableEq

namespace Deadline

/-- The last second of the monotonic clock, which counts them in 64 bits with sign. -/
def lastSecond : Nat := 9223372036854775807

/-- The deadline a budget after a point of the clock, if the clock goes so far. -/
def afterAt (t budget : Duration) : Option Deadline :=
  if (t + budget).seconds ≤ lastSecond then some ⟨t + budget⟩ else none

/-- The time left at a point of the clock; none once the deadline has passed. -/
def remainingAt (d : Deadline) (t : Duration) : Duration := d.at_ - t

variable {S : Service}

/-- The deadline a budget from now. -/
def after (budget : Duration) : Program S Deadline := do
  Program.orHalt (afterAt (← Program.timer) budget)

/-- The time left. -/
def remaining (d : Deadline) : Program S Duration := do
  return d.remainingAt (← Program.timer)

/-- Whether at least so much time is left. -/
def hasAtLeast (d : Deadline) (needed : Duration) : Program S Bool := do
  return decide (needed ≤ (← d.remaining))

end Deadline

end TokenCustody
