/-
TokenCustody.Retry.Backoff — how long to wait before trying again.

Delays grow by a constant factor from attempt to attempt up to a limit,
and are spread by a random share so that runs which failed together do
not come back together. A server that asks to wait longer is obeyed, up
to the same limit.

Factor and share are doubles, so a delay is computed in doubles and cut
to whole milliseconds, none if it is negative or no number.
-/
import TokenCustody.Time.Duration

namespace TokenCustody

open TokenCustody.Time

/-! ## Doubles -/

/-- The lesser of two doubles; one that is no number does not count. -/
def lesser (x y : Float) : Float := if x.isNaN then y else if y < x then y else x

/-- The greater of two doubles; one that is no number does not count. -/
def greater (x y : Float) : Float := if x.isNaN then y else if x < y then y else x

/-- A double limited to the range from 0 to 1. -/
def clampToUnit (x : Float) : Float := if x < 0.0 then 0.0 else if 1.0 < x then 1.0 else x

/-- Goes through the binary digits of an exponent, lowest first: multiplies the digits
that are 1 into `product` while `square` runs through the repeated squares. -/
def powerStep (product square : Float) (n : Nat) : Float :=
  let product := if n % 2 = 1 then product * square else product
  if h : n / 2 = 0 then product else powerStep product (square * square) (n / 2)
termination_by n
decreasing_by exact Nat.div_lt_self (by omega) (by decide)

/-- A whole power, by repeated squaring. The power of a negative exponent is the
reciprocal of the positive one. -/
def power (x : Float) (n : Int) : Float :=
  let p := powerStep 1.0 x n.natAbs
  if n < 0 then 1.0 / p else p

/-- The whole milliseconds in a double: none below zero, at most 64 bits of them. -/
def durationOfMillis (x : Float) : Duration := .ofMillis x.toUInt64.toNat

/-- The whole milliseconds of a duration as a double. -/
def Time.Duration.millisDouble (d : Duration) : Float := Float.ofNat d.millis

/-! ## The policy -/

/-- How often and after which delays an operation is tried. -/
structure RetryPolicy where
  /-- How often an operation is tried at most, the first time included. -/
  maxAttempts : Nat
  /-- The delay before the second attempt. -/
  initialDelay : Duration
  /-- The limit of all delays. -/
  maxDelay : Duration
  /-- The factor from one delay to the next. -/
  multiplier : Float
  /-- The share of a delay that is left to chance, from 0 to 1. -/
  jitter : Float

/-- The policy used when none is configured. -/
def RetryPolicy.default : RetryPolicy :=
  { maxAttempts := 3
    initialDelay := .ofMillis 500
    maxDelay := .ofSeconds 8
    multiplier := 2.0
    jitter := 0.2 }

/-- However a policy is set, no operation is tried more often. -/
def mostAttempts : Nat := 3

namespace RetryPolicy

/-- How often an operation is tried: at least once. -/
def attemptLimit (p : RetryPolicy) : Nat := max 1 (min p.maxAttempts mostAttempts)

/-- The delay before a retry, the first one having number 0, without chance. The number
is taken in 32 bits with sign. -/
def baseDelay (p : RetryPolicy) (retry : Nat) : Duration :=
  let millis := p.initialDelay.millisDouble * power p.multiplier ((retry : Int).bmod 4294967296)
  durationOfMillis (lesser millis p.maxDelay.millisDouble)

/-- A delay spread by chance: `draw` lies between 0 and 1, and one half changes nothing. -/
def spread (p : RetryPolicy) (delay : Duration) (draw : Float) : Duration :=
  let base := delay.millisDouble
  let range := base * clampToUnit p.jitter
  durationOfMillis (greater (base + (draw - 0.5) * 2.0 * range) 0.0)

end RetryPolicy

/-! ## The attempts of one operation -/

/-- How far the attempts of one operation have come. -/
structure Backoff where
  policy : RetryPolicy
  /-- The attempts started so far. -/
  attempts : Nat

namespace Backoff

/-- No attempt has been started. -/
def new (p : RetryPolicy) : Backoff := ⟨p, 0⟩

/-- One more attempt has been started. -/
def start (b : Backoff) : Backoff := { b with attempts := b.attempts + 1 }

/-- Whether one more attempt is allowed. -/
def canRetry (b : Backoff) : Bool := b.attempts < b.policy.attemptLimit

/-- The delay after the attempt started last, given a random draw and what the server
asked for. -/
def nextDelay (b : Backoff) (draw : Float) (hint : Option Duration) : Duration :=
  let delay := b.policy.spread (b.policy.baseDelay (b.attempts - 1)) draw
  match hint with
  | some h => min (max delay h) b.policy.maxDelay
  | none => delay

end Backoff

end TokenCustody
