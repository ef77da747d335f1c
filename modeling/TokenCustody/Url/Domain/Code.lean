/-
TokenCustody.Url.Domain.Code — labels in ASCII code.

A label that has characters outside ASCII is written as its ASCII
characters and a code that tells where the others stand: they are taken
in the order of their code points, and each is told by the number of
places to move on from the one before, in a number system whose digits
have varying weights.

Both ways are quick only for labels of ordinary length, so longer ones
are not taken.
-/
import TokenCustody.Text.Split

namespace TokenCustody.Url

open TokenCustody.Text

/-! ## Digits and weights -/

/-- The letter or figure for a number below 36. -/
def placeDigit (d : Nat) : Char :=
  if d < 26 then Char.ofNat (0x61 + d) else Char.ofNat (0x30 + (d - 26))

/-- The number that a letter or figure stands for. -/
def placeValue (c : Char) : Option Nat :=
  let n := c.toNat
  if 0x61 ≤ n ∧ n ≤ 0x7A then some (n - 0x61)
  else if 0x41 ≤ n ∧ n ≤ 0x5A then some (n - 0x41)
  else if 0x30 ≤ n ∧ n ≤ 0x39 then some (n - 0x30 + 26)
  else none

/-- The least digit that says that more digits follow, at a position counted in steps
of 36. -/
def threshold (position bias : Nat) : Nat := max 1 (min 26 (position - bias))

/-- Divides a number by 35 until it is small; counts in steps of 36. -/
def shrink (delta steps : Nat) : Nat × Nat :=
  if 455 < delta then shrink (delta / 35) (steps + 36) else (delta, steps)
termination_by delta
decreasing_by exact Nat.div_lt_self (by omega) (by decide)

/-- The bias after a number was written. `count` is how many characters are placed. -/
def nextBias (delta count : Nat) (first : Bool) : Nat :=
  let scaled := if first then delta / 700 else delta / 2
  let small := shrink (scaled + scaled / count) 0
  small.2 + 36 * small.1 / (small.1 + 38)

/-! ## Writing -/

/-- The digits of a number. -/
def placeDigits (bias position n : Nat) : List Char :=
  let t := threshold position bias
  if n < t then [placeDigit n]
  else placeDigit (t + (n - t) % (36 - t)) :: placeDigits bias (position + 36) ((n - t) / (36 - t))
termination_by n
decreasing_by
  have ht : 1 ≤ threshold position bias := Nat.le_max_left _ _
  exact Nat.lt_of_le_of_lt (Nat.div_le_self _ _) (by omega)

/-- How far the writing of a label has come. -/
structure Placing where
  digits : List Char
  /-- The places passed since the last character that was written. -/
  delta : Nat
  bias : Nat
  count : Nat
  isFirst : Bool

/-- Passes one character of the label while those with code point `n` are written. -/
def Placing.pass (n : Nat) (p : Placing) (c : Char) : Placing :=
  if c.toNat < n then { p with delta := p.delta + 1 }
  else if c.toNat = n then
    { digits := p.digits ++ placeDigits p.bias 36 p.delta
      delta := 0
      bias := nextBias p.delta (p.count + 1) p.isFirst
      count := p.count + 1
      isFirst := false }
  else p

/-- Writes the characters with one code point, coming from the code point `previous`. -/
def Placing.place (label : List Char) (p : Placing) (previous n : Nat) : Placing :=
  let p := label.foldl (Placing.pass n) { p with delta := p.delta + (n - previous) * (p.count + 1) }
  { p with delta := p.delta + 1 }

/-- Writes the characters of all these code points, which go up. -/
def Placing.placeAll (label : List Char) : Placing → Nat → List Nat → Placing
  | p, _, [] => p
  | p, previous, n :: ns => Placing.placeAll label (p.place label previous n) (n + 1) ns

/-- Puts a number into a list that goes up, unless it is there. -/
def insertUp (n : Nat) : List Nat → List Nat
  | [] => [n]
  | m :: ms => if n < m then n :: m :: ms else if n = m then m :: ms else m :: insertUp n ms

/-- Whether a character is in ASCII. -/
def isAscii (c : Char) : Bool := c.toNat < 0x80

/-- A label behind its `xn--`. -/
def encodeLabel (label : List Char) : List Char :=
  let ascii := label.filter isAscii
  let others := ((label.filter fun c => !isAscii c).map Char.toNat).foldr insertUp []
  let start : Placing := ⟨[], 0, 72, ascii.length, true⟩
  ascii ++ (if ascii = [] then [] else ['-']) ++ (start.placeAll label 0x80 others).digits

/-! ## Reading -/

/-- Numbers and weights stay below this bound. -/
def placeBound : Nat := 4294967296

/-- How far the reading of a label has come. -/
structure Placed where
  label : List Char
  /-- The code point of the last character. -/
  point : Nat
  /-- The place behind it. -/
  place : Nat
  bias : Nat
  /-- The number that is being read, counted from the beginning of the label. -/
  number : Nat
  /-- The weight of its next digit. -/
  weight : Nat
  position : Nat

/-- The label with the character that a finished number tells. -/
def Placed.finish (p : Placed) : Option Placed :=
  let size := p.label.length + 1
  let point := p.point + p.number / size
  let place := p.number % size
  if point < 0x110000 ∧ ¬(0xD800 ≤ point ∧ point < 0xE000) then
    some
      { label := p.label.take place ++ Char.ofNat point :: p.label.drop place
        point
        place := place + 1
        bias := nextBias (p.number - p.place) size (p.place = 0)
        number := place + 1
        weight := 1
        position := 36 }
  else none

/-- Reads digits to the end, which must end a number. -/
def Placed.readAll : Placed → List Char → Option (List Char)
  | p, [] => if p.position = 36 then some p.label else none
  | p, c :: cs =>
    match placeValue c with
    | none => none
    | some d =>
      let t := threshold p.position p.bias
      let number := p.number + d * p.weight
      if placeBound ≤ number then none
      else if d < t then
        match { p with number }.finish with
        | some p => p.readAll cs
        | none => none
      else if placeBound ≤ p.weight * (36 - t) then none
      else
        Placed.readAll
          { p with number, weight := p.weight * (36 - t), position := p.position + 36 } cs

/-- The longest code that is read. -/
def maxCodeLength : Nat := 2000

/-- Reads a label from its code, which is in ASCII. The ASCII characters of the label, if
there are any, end at the last hyphen, and some other character follows. -/
def decodeLabel (cs : List Char) : Option (List Char) :=
  if maxCodeLength < cs.length ∨ !cs.all isAscii then none
  else
    match cutLast (· == '-') cs with
    | (_, []) | (some [], _) => none
    | (ascii, digits) => Placed.readAll ⟨ascii.getD [], 0x80, 0, 72, 0, 1, 36⟩ digits

end TokenCustody.Url
