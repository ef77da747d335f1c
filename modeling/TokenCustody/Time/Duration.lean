/-
TokenCustody.Time.Duration — lengths of time.

Two types, because two questions are asked. A `Duration` is how long
something takes or may take: timeouts, delays, budgets. It is never
negative. A `Span` is how far two points of the calendar are apart:
lifetimes and thresholds. It may be negative, and then points backwards.

Both count nanoseconds.
-/
import TokenCustody.Text.Decimal

namespace TokenCustody.Time

/-- Nanoseconds in a second. -/
def nanosPerSecond : Nat := 1000000000

/-- Nanoseconds in a millisecond. -/
def nanosPerMilli : Nat := 1000000

/-! ## Durations -/

/-- How long something takes. -/
structure Duration where
  /-- The length in nanoseconds. -/
  nanos : Nat
  deriving DecidableEq

namespace Duration

/-- No time at all. -/
def zero : Duration := ⟨0⟩

/-- This many seconds. -/
def ofSeconds (n : Nat) : Duration := ⟨n * nanosPerSecond⟩

/-- This many milliseconds. -/
def ofMillis (n : Nat) : Duration := ⟨n * nanosPerMilli⟩

/-- The whole seconds. -/
def seconds (d : Duration) : Nat := d.nanos / nanosPerSecond

/-- The nanoseconds that the whole seconds leave over. -/
def subsecond (d : Duration) : Nat := d.nanos % nanosPerSecond

/-- The whole milliseconds. -/
def millis (d : Duration) : Nat := d.nanos / nanosPerMilli

instance : LE Duration := ⟨fun a b => a.nanos ≤ b.nanos⟩

instance : LT Duration := ⟨fun a b => a.nanos < b.nanos⟩

instance (a b : Duration) : Decidable (a ≤ b) := inferInstanceAs (Decidable (a.nanos ≤ b.nanos))

instance (a b : Duration) : Decidable (a < b) := inferInstanceAs (Decidable (a.nanos < b.nanos))

instance : Add Duration := ⟨fun a b => ⟨a.nanos + b.nanos⟩⟩

/-- What is left of `a` after `b`: nothing, if `b` is longer. -/
instance : Sub Duration := ⟨fun a b => ⟨a.nanos - b.nanos⟩⟩

instance : Max Duration := maxOfLe

instance : Min Duration := minOfLe

/-- The number of nanoseconds decides. -/
theorem le_def {a b : Duration} : a ≤ b ↔ a.nanos ≤ b.nanos := Iff.rfl

/-- The number of nanoseconds decides. -/
theorem lt_def {a b : Duration} : a < b ↔ a.nanos < b.nanos := Iff.rfl

/-! ### For people -/

/-- The digits of a fraction behind a point, padded to a width, without the zeros it ends
in; nothing at all if it is zero. -/
def fractionText (width parts : Nat) : List Char :=
  let digits := (Text.paddedDecimal width parts).reverse.dropWhile (· == '0')
  if digits.isEmpty then [] else '.' :: digits.reverse

/-- The duration in the largest of seconds, milliseconds, microseconds and nanoseconds
that it reaches. -/
def render (d : Duration) : String :=
  let n := d.nanos
  let inUnit (size digits : Nat) (unit : String) : String :=
    String.ofList (Text.decimal (n / size) ++ fractionText digits (n % size)) ++ unit
  if 1000000000 ≤ n then inUnit 1000000000 9 "s"
  else if 1000000 ≤ n then inUnit 1000000 6 "ms"
  else if 1000 ≤ n then inUnit 1000 3 "µs"
  else inUnit 1 0 "ns"

/-- The same for a duration that may be missing. -/
def renderOption : Option Duration → String
  | some d => "Some(" ++ d.render ++ ")"
  | none => "None"

end Duration

/-! ## Spans -/

/-- How far a point of the calendar lies after another. -/
structure Span where
  /-- The distance in nanoseconds. -/
  nanos : Int
  deriving DecidableEq

namespace Span

/-- The most seconds that a span reaches in either direction: its milliseconds are
counted in 64 bits with sign. -/
def maxSeconds : Nat := 9223372036854775

/-- This many seconds, without asking whether a span reaches so far. -/
def ofSeconds (n : Int) : Span := ⟨n * nanosPerSecond⟩

/-- This many seconds, if a span reaches so far. -/
def ofSeconds? (n : Int) : Option Span :=
  if n.natAbs ≤ maxSeconds then some (ofSeconds n) else none

/-- This many milliseconds. -/
def ofMillis (n : Int) : Span := ⟨n * nanosPerMilli⟩

/-- This many days. -/
def ofDays (n : Int) : Span := ofSeconds (n * 86400)

/-- The whole seconds, rounded towards the past. -/
def seconds (s : Span) : Int := s.nanos / nanosPerSecond

/-- The nanoseconds to add to `seconds`. -/
def subsecond (s : Span) : Nat := (s.nanos % nanosPerSecond).toNat

/-- The span as its two parts. -/
def render (s : Span) : String :=
  "TimeDelta \x7b secs: " ++ toString s.seconds ++ ", nanos: " ++ toString s.subsecond ++ " \x7d"

end Span

end TokenCustody.Time
