/-
TokenCustody.Text.Percent — bytes written as a percent sign and two
hexadecimal digits.

Which ASCII characters must be written that way depends on where the
text stands, so an `encode` takes the set as an argument. A character
outside ASCII is always written byte by byte.
-/
import TokenCustody.Text.Utf8

namespace TokenCustody.Text.Percent

/-! ## Writing -/

/-- A hexadecimal digit, in upper case. -/
def digit (n : Nat) : Char :=
  if n < 10 then Char.ofNat (0x30 + n) else Char.ofNat (0x37 + n)

/-- A byte as a percent sign and two digits. -/
def encodeByte (b : UInt8) : List Char := ['%', digit (b.toNat / 16), digit (b.toNat % 16)]

/-- A character, byte by byte if it is in the set or outside ASCII. -/
def encodeChar (set : Char → Bool) (c : Char) : List Char :=
  if c.toNat < 0x80 && !set c then [c] else (Utf8.encodeChar c).flatMap encodeByte

/-- A text in which the characters of the set are written byte by byte. -/
def encode (set : Char → Bool) (cs : List Char) : List Char := cs.flatMap (encodeChar set)

/-! ## Reading -/

/-- The value of a hexadecimal digit of either case. -/
def digitValue (c : Char) : Option Nat :=
  let n := c.toNat
  if 0x30 ≤ n ∧ n ≤ 0x39 then some (n - 0x30)
  else if 0x41 ≤ n ∧ n ≤ 0x46 then some (n - 0x37)
  else if 0x61 ≤ n ∧ n ≤ 0x66 then some (n - 0x57)
  else none

/-- The byte that two digits write. -/
def byteOf (high low : Char) : Option UInt8 :=
  match digitValue high, digitValue low with
  | some h, some l => some (UInt8.ofNat (16 * h + l))
  | _, _ => none

/-- The bytes of a text. A percent sign without two digits stands for itself. -/
def decode : List Char → List UInt8
  | '%' :: high :: low :: rest =>
    match byteOf high low with
    | some b => b :: decode rest
    | none => Utf8.encodeChar '%' ++ decode (high :: low :: rest)
  | c :: rest => Utf8.encodeChar c ++ decode rest
  | [] => []
termination_by cs => cs.length

end TokenCustody.Text.Percent
