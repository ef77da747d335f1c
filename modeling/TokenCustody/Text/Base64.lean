/-
TokenCustody.Text.Base64 — bytes as letters, digits and two marks.

Three bytes become four characters of six bits each; one or two bytes
left over become two or three characters. The alphabets differ in the
last two characters, and the padded form fills the last group up with
equals signs.
-/

namespace TokenCustody.Text.Base64

/-- Where the sixty-third and sixty-fourth character and the padding come from. -/
structure Alphabet where
  /-- The character of value 62. -/
  plus : Char
  /-- The character of value 63. -/
  slash : Char
  /-- Whether the last group is filled up with equals signs. -/
  padded : Bool

/-- The alphabet of HTTP credentials. -/
def Alphabet.standard : Alphabet := ⟨'+', '/', true⟩

/-- The alphabet whose texts stand in a URL as they are. -/
def Alphabet.urlSafe : Alphabet := ⟨'-', '_', false⟩

/-! ## Writing -/

/-- The character for a value below 64. -/
def Alphabet.char (a : Alphabet) (n : Nat) : Char :=
  if n < 26 then Char.ofNat (0x41 + n)
  else if n < 52 then Char.ofNat (0x61 + (n - 26))
  else if n < 62 then Char.ofNat (0x30 + (n - 52))
  else if n = 62 then a.plus
  else a.slash

/-- The equals signs that fill a group up. -/
def Alphabet.filler (a : Alphabet) (n : Nat) : List Char :=
  if a.padded then List.replicate n '=' else []

/-- Bytes as characters. -/
def encode (a : Alphabet) : List UInt8 → List Char
  | x :: y :: z :: rest =>
    let n := 65536 * x.toNat + 256 * y.toNat + z.toNat
    a.char (n / 262144) :: a.char (n / 4096 % 64) :: a.char (n / 64 % 64) :: a.char (n % 64) ::
      encode a rest
  | [x, y] =>
    let n := 65536 * x.toNat + 256 * y.toNat
    [a.char (n / 262144), a.char (n / 4096 % 64), a.char (n / 64 % 64)] ++ a.filler 1
  | [x] =>
    let n := 65536 * x.toNat
    [a.char (n / 262144), a.char (n / 4096 % 64)] ++ a.filler 2
  | [] => []

/-! ## Reading -/

/-- The value of a character. -/
def Alphabet.value (a : Alphabet) (c : Char) : Option Nat :=
  let n := c.toNat
  if 0x41 ≤ n ∧ n ≤ 0x5A then some (n - 0x41)
  else if 0x61 ≤ n ∧ n ≤ 0x7A then some (n - 0x61 + 26)
  else if 0x30 ≤ n ∧ n ≤ 0x39 then some (n - 0x30 + 52)
  else if c = a.plus then some 62
  else if c = a.slash then some 63
  else none

/-- The bytes of characters that carry no padding. -/
def decodeBare (a : Alphabet) : List Char → Option (List UInt8)
  | p :: q :: r :: s :: rest => do
    let n := 262144 * (← a.value p) + 4096 * (← a.value q) + 64 * (← a.value r) + (← a.value s)
    let bytes ← decodeBare a rest
    some (UInt8.ofNat (n / 65536) :: UInt8.ofNat (n / 256 % 256) :: UInt8.ofNat (n % 256) :: bytes)
  | [p, q, r] => do
    let n := 262144 * (← a.value p) + 4096 * (← a.value q) + 64 * (← a.value r)
    some [UInt8.ofNat (n / 65536), UInt8.ofNat (n / 256 % 256)]
  | [p, q] => do
    let n := 262144 * (← a.value p) + 4096 * (← a.value q)
    some [UInt8.ofNat (n / 65536)]
  | [_] => none
  | [] => some []

/-- The bytes of a text, whose padding carries nothing. -/
def decode (a : Alphabet) (cs : List Char) : Option (List UInt8) :=
  decodeBare a (if a.padded then cs.filter (· ≠ '=') else cs)

end TokenCustody.Text.Base64
