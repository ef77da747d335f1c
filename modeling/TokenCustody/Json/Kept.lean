/-
TokenCustody.Json.Kept — values that are kept as they came.

A value that is kept, rather than skipped, must be representable: its
texts have values, its numbers are finite in double precision, it is not
too deep, and of several members with one name the last one counts.

A number too long for 64 bits, or written with a point or an exponent,
becomes a double. The conversion is the quick one: as many leading
digits before the point as fit into 64 bits are taken, as many behind it
as fit behind those, and the number they make is rounded to a double,
which is then multiplied or divided by a power of ten, in steps where
the power itself would not fit. The result can differ from the nearest
double.
-/
import TokenCustody.Json.Basic

namespace TokenCustody.Json

/-! ## Numbers -/

/-- The longest run of leading digits whose value fits into 64 bits, and how many
digits it leaves out. -/
def leadingDigits (n : Nat) : Nat × Nat :=
  if h : n < TokenCustody.Text.wordCount then (n, 0)
  else
    let rest := leadingDigits (n / 10)
    (rest.1, rest.2 + 1)
termination_by n
decreasing_by
  have : 0 < n := Nat.lt_of_lt_of_le (by decide) (Nat.le_of_not_lt h)
  exact Nat.div_lt_self this (by decide)

/-- A number with more digits behind it, as long as it fits into 64 bits, and how many
they are. The digits are the last `places` ones of `digits`. -/
def withPlaces (n digits : Nat) : Nat → Nat × Nat
  | 0 => (n, 0)
  | places + 1 =>
    let longer := 10 * n + digits / Nat.pow 10 places % 10
    if longer < TokenCustody.Text.wordCount then
      let rest := withPlaces longer digits places
      (rest.1, rest.2 + 1)
    else (n, 0)

/-- A double multiplied by a power of ten. The power is taken off in steps of at most
308; the first argument bounds the number of steps. -/
def scaleDouble : Nat → Float → Int → Float
  | 0, x, _ => x
  | steps + 1, x, e =>
    if x == 0.0 then x
    else if e > 308 then 1.0 / 0.0
    else if 0 ≤ e then x * Float.ofScientific 1 false e.toNat
    else if -308 ≤ e then x / Float.ofScientific 1 false (-e).toNat
    else scaleDouble steps (x / Float.ofScientific 1 false 308) (e + 308)

/-- The double that a number becomes, if it is finite. -/
def Number.double? (n : Number) : Option Float :=
  let leading := leadingDigits (n.digits / Nat.pow 10 n.places)
  let taken := withPlaces leading.1 n.digits n.places
  let magnitude :=
    scaleDouble 4 (UInt64.ofNat taken.1).toFloat (n.exponent + leading.2 - taken.2)
  if magnitude.isFinite then some (if n.negative then -magnitude else magnitude) else none

/-- The number that is kept as a whole number: one of 64 bits, with or without sign. -/
def Number.whole? (n : Number) : Option Int :=
  if !n.isWhole then none
  else if !n.negative then (if n.digits < TokenCustody.Text.wordCount then some n.digits else none)
  else if 0 < n.digits ∧ 2 * n.digits ≤ TokenCustody.Text.wordCount then some (-n.digits)
  else none

/-- Whether a number can be kept. -/
def Number.isKept (n : Number) : Bool := n.whole?.isSome || n.double?.isSome

/-- The double with exactly this value, as a number. -/
def Number.ofDouble (x : Float) : Number :=
  let bits : Nat := x.toBits.toNat
  let fraction : Nat := bits % 4503599627370496
  let exponent : Nat := bits / 4503599627370496 % 2048
  let significand : Nat := if exponent = 0 then fraction else fraction + 4503599627370496
  let power : Int := if exponent = 0 then -1074 else (exponent : Int) - 1075
  { negative := bits / 4503599627370496 / 2048 == 1
    digits := if 0 ≤ power then significand * Nat.pow 2 power.toNat
      else significand * Nat.pow 5 (-power).toNat
    places := 0
    exponent := if 0 ≤ power then 0 else power
    isWhole := false }

/-- The number as it is kept. -/
def Number.kept (n : Number) : Number :=
  if n.whole?.isSome then n else ((n.double?).map Number.ofDouble).getD n

/-! ## Values -/

/-- The deepest nesting that is kept, counted from the object that holds the value. -/
def maxKeptDepth : Nat := 127

mutual

/-- Whether the texts and numbers of a value can be kept. -/
def Value.isKept : Value → Bool
  | .number n => n.isKept
  | .text t => t.isSome
  | .array items => areItemsKept items
  | .object members => areMembersKept members
  | _ => true

/-- Whether all items can be kept. -/
def areItemsKept : List Value → Bool
  | [] => true
  | v :: vs => v.isKept && areItemsKept vs

/-- Whether all members can be kept, names included. -/
def areMembersKept : List (Text × Value) → Bool
  | [] => true
  | (k, v) :: ms => k.isSome && v.isKept && areMembersKept ms

end

mutual

/-- A value as it is kept: its numbers are those that are kept, and each name stands
once, with its last value. -/
def Value.lastWins : Value → Value
  | .number n => .number n.kept
  | .array items => .array (lastWinsItems items)
  | .object members => .object (lastWinsMembers members)
  | v => v

/-- The same for each item. -/
def lastWinsItems : List Value → List Value
  | [] => []
  | v :: vs => v.lastWins :: lastWinsItems vs

/-- The same for each member; a member is dropped if its name comes again. -/
def lastWinsMembers : List (Text × Value) → List (Text × Value)
  | [] => []
  | (k, v) :: ms =>
    let rest := lastWinsMembers ms
    if rest.any (fun m => m.1 == k) then rest else (k, v.lastWins) :: rest

end

end TokenCustody.Json
