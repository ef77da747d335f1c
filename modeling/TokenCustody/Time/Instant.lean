/-
TokenCustody.Time.Instant — points of the calendar, to the nanosecond.

An instant is a second since the start of 1970 and the nanoseconds that
have passed since. Normally those are fewer than a second's worth. In a
leap second they are more: the second before it simply goes on, which
can happen only at the end of a minute. So the order of instants is the
order of their seconds, then of their nanoseconds.

The calendar ends. Years run from -262143 to 262142, and arithmetic that
would leave them has no result.
-/
import TokenCustody.Time.Calendar
import TokenCustody.Time.Duration

namespace TokenCustody.Time

/-! ## The range -/

/-- The first second of the calendar. -/
def firstSecond : Int := (Date.mk (-262143) 1 1).toDays * 86400

/-- The last second of the calendar. -/
def lastSecond : Int := (Date.mk 262143 1 1).toDays * 86400 - 1

/-- A point of the calendar. -/
structure Instant where
  /-- Seconds since the start of 1970. -/
  second : Int
  /-- Nanoseconds since that second. -/
  nano : Nat
  /-- The second lies in the calendar. -/
  inRange : firstSecond ≤ second ∧ second ≤ lastSecond
  /-- At most one leap second is inserted. -/
  nano_lt : nano < 2 * nanosPerSecond
  /-- A leap second ends a minute. -/
  leap : nanosPerSecond ≤ nano → second % 60 = 59
  deriving DecidableEq

namespace Instant

/-- The instant with this second and nanosecond, if the calendar has it. -/
def ofParts? (second : Int) (nano : Nat) : Option Instant :=
  if h : (firstSecond ≤ second ∧ second ≤ lastSecond) ∧ nano < 2 * nanosPerSecond ∧
      (nanosPerSecond ≤ nano → second % 60 = 59) then
    some ⟨second, nano, h.1, h.2.1, h.2.2⟩
  else none

/-- The start of 1970. -/
def epoch : Instant := ⟨0, 0, by decide, by decide, by decide⟩

/-- Whether the instant lies in a leap second. -/
def isLeap (t : Instant) : Bool := nanosPerSecond ≤ t.nano

/-! ## Order -/

/-- Not later: an earlier second, or the same second and no later nanosecond. -/
def Before (a b : Instant) : Prop :=
  a.second < b.second ∨ (a.second = b.second ∧ a.nano ≤ b.nano)

instance : LE Instant := ⟨Before⟩

instance (a b : Instant) : Decidable (a ≤ b) :=
  inferInstanceAs (Decidable (a.second < b.second ∨ (a.second = b.second ∧ a.nano ≤ b.nano)))

instance : LT Instant := ⟨fun a b => ¬b ≤ a⟩

instance (a b : Instant) : Decidable (a < b) := inferInstanceAs (Decidable (¬b ≤ a))

instance : Min Instant := minOfLe

/-- An instant is not later than itself. -/
protected theorem le_refl (t : Instant) : t ≤ t := Or.inr ⟨rfl, Nat.le_refl _⟩

/-- What is not later than something not later is not later. -/
protected theorem le_trans {a b c : Instant} (hab : a ≤ b) (hbc : b ≤ c) : a ≤ c := by
  have hab' : Before a b := hab
  have hbc' : Before b c := hbc
  show Before a c
  unfold Before at *
  omega

/-- Of two instants one is not later than the other. -/
protected theorem le_total (a b : Instant) : a ≤ b ∨ b ≤ a := by
  show Before a b ∨ Before b a
  unfold Before
  omega

/-- Instants that are not later than each other are the same. -/
protected theorem le_antisymm {a b : Instant} (hab : a ≤ b) (hba : b ≤ a) : a = b := by
  have hab' : Before a b := hab
  have hba' : Before b a := hba
  unfold Before at hab' hba'
  obtain ⟨second, nano, _, _, _⟩ := a
  obtain ⟨second', nano', _, _, _⟩ := b
  have hs : second = second' := by simp only at hab' hba'; omega
  have hn : nano = nano' := by simp only at hab' hba'; omega
  subst hs hn
  rfl

/-! ## Arithmetic -/

/-- The instant that lies `nanos` after the start of a second, leap seconds left out. -/
def ofNanos? (second nanos : Int) : Option Instant :=
  ofParts? (second + nanos / nanosPerSecond) (nanos % nanosPerSecond).toNat

/-- The instant that lies a span after this one, if the calendar reaches so far.

A span that does not leave a leap second stays in it. One that leaves it forwards
starts from the second that the leap second prolongs, and one that leaves it
backwards by a second or more starts from the second after. -/
def add (t : Instant) (d : Span) : Option Instant :=
  if t.isLeap then
    let whole := Int.tdiv d.nanos nanosPerSecond
    let part := Int.tmod d.nanos nanosPerSecond
    let inLeap : Int := t.nano - nanosPerSecond
    if 0 < whole ∨ (0 < part ∧ (nanosPerSecond : Int) ≤ inLeap + part) then
      ofNanos? t.second (inLeap + d.nanos)
    else if whole < 0 then ofNanos? (t.second + 1) (inLeap + d.nanos)
    else ofParts? t.second ((t.nano : Int) + part).toNat
  else ofNanos? t.second (t.nano + d.nanos)

/-- The instant that lies a span before this one. -/
def sub (t : Instant) (d : Span) : Option Instant := t.add ⟨-d.nanos⟩

/-- The instant after some time has passed. -/
def after (t : Instant) (d : Duration) : Option Instant := t.add ⟨d.nanos⟩

/-- The whole milliseconds since the start of 1970, none before it. -/
def unixMillis (t : Instant) : Nat := (t.second * 1000 + t.nano / nanosPerMilli).toNat

end Instant

end TokenCustody.Time
