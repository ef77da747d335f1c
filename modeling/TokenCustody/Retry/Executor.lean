/-
TokenCustody.Retry.Executor — trying an operation again.

An operation is tried until it succeeds, fails in a way that trying
again would not change, has been tried often enough, or until the next
delay would end after the deadline. The first attempt is always made,
even when no time is left. Whatever ends the attempts, the result is that of
the last one.
-/
import TokenCustody.Deadline
import TokenCustody.Error
import TokenCustody.Retry.Backoff

namespace TokenCustody

open TokenCustody.Time

variable {S : Service} {α : Type}

/-- Counts an operation as given up. -/
def givenUp (e : Error) : Program S (Except Error α) := do
  Program.tally .failure
  return .error e

/-- One attempt, and at most `left` more. -/
def attemptWith (deadline : Deadline) (operation : Program S (Except Error α)) :
    (left : Nat) → Backoff → Program S (Except Error α)
  | left, b => do
    let b := b.start
    Program.tally .attempt
    match ← operation with
    | .ok a =>
      if 1 < b.attempts then Program.tally .lateSuccess
      return .ok a
    | .error e =>
      match left with
      | 0 => givenUp e
      | left + 1 =>
        if e.isRetryable then
          let delay := b.nextDelay (← Program.draw) e.retryAfter
          if ← deadline.hasAtLeast delay then
            Program.sleep delay
            attemptWith deadline operation left b
          else givenUp e
        else givenUp e

/-- Tries an operation as often as a policy and a deadline allow. -/
def withRetries (p : RetryPolicy) (deadline : Deadline) (operation : Program S (Except Error α)) :
    Program S (Except Error α) :=
  attemptWith deadline operation (p.attemptLimit - 1) (.new p)

end TokenCustody
