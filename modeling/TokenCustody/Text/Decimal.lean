/-
TokenCustody.Text.Decimal — whole numbers written in digits.

Settings, headers and version tags hold unsigned numbers of 64 bits. The
written form is a non-empty run of ASCII digits, leading zeros allowed,
one plus sign allowed in front; a number that does not fit is no number.
-/

namespace TokenCustody.Text

/-- How many unsigned numbers of 64 bits there are. -/
def wordCount : Nat := 18446744073709551616

/-- The value of an ASCII digit. -/
def digitValue (c : Char) : Nat := c.toNat - '0'.toNat

/-- The number that a run of digits writes. -/
def digitsValue (cs : List Char) : Nat := cs.foldl (fun n c => 10 * n + digitValue c) 0

/-- Reads a non-empty run of digits and nothing else. -/
def readDigits (cs : List Char) : Option Nat :=
  if cs ≠ [] ∧ cs.all Char.isDigit then some (digitsValue cs) else none

/-- Reads an unsigned number of 64 bits. -/
def readWord (cs : List Char) : Option Nat :=
  let digits := match cs with
    | '+' :: rest => rest
    | _ => cs
  (readDigits digits).bind fun n => if n < wordCount then some n else none

/-- A number in decimal digits, without leading zeros. -/
def decimal (n : Nat) : List Char := Nat.toDigits 10 n

/-- A number in at least `width` decimal digits. -/
def paddedDecimal (width n : Nat) : List Char :=
  let digits := decimal n
  List.replicate (width - digits.length) '0' ++ digits

end TokenCustody.Text
