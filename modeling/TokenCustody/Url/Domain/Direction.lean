/-
TokenCustody.Url.Domain.Direction — labels that are read from right to left.

A name in which some character is read from right to left must be so
written that nobody can take its labels for others: each label has one
direction, shown by its first character, and ends in a character that
cannot be drawn on the other side of its neighbours.

Directions are given for the characters that domain names may have.
-/
import TokenCustody.Text.Mark

namespace TokenCustody.Url

open TokenCustody.Text

/-! ## Characters -/

/-- How a character takes part in the direction of a text. -/
inductive Direction where
  /-- It is read from left to right. -/
  | left
  /-- It is read from right to left. -/
  | right
  /-- A digit of Europe. -/
  | european
  /-- A digit of Arabic, which stands among letters read from right to left. -/
  | arabic
  /-- It goes along with its neighbours. -/
  | neutral
  /-- It goes along with the character before it. -/
  | mark
  deriving DecidableEq

/-- The directions of all characters that are no marks without room. Each holds up to
the next code point in the list. -/
def directions : List (Nat × Direction) := [
  (0x21, .neutral), (0x30, .european), (0x3B, .neutral), (0x61, .left), (0x7B, .neutral),
  (0xDF, .left), (0xF7, .neutral), (0xF8, .left), (0x2B9, .neutral), (0x2BB, .left),
  (0x2C2, .neutral), (0x2D0, .left), (0x2D2, .neutral), (0x2EE, .left), (0x2EF, .neutral),
  (0x371, .left), (0x375, .neutral), (0x377, .left), (0x3F6, .neutral), (0x3F8, .left),
  (0x58A, .neutral), (0x5BE, .right), (0x606, .neutral), (0x608, .right), (0x609, .neutral),
  (0x60B, .right), (0x60C, .neutral), (0x60D, .right), (0x60E, .neutral), (0x61B, .right),
  (0x660, .arabic), (0x66A, .neutral), (0x66B, .arabic), (0x66D, .right), (0x6DE, .neutral),
  (0x6E5, .right), (0x6E9, .neutral), (0x6EE, .right), (0x6F0, .european), (0x6FA, .right),
  (0x7F6, .neutral), (0x7FA, .right), (0x903, .left), (0x9F2, .neutral), (0x9F4, .left),
  (0x9FB, .neutral), (0x9FC, .left), (0xAF1, .neutral), (0xAF9, .left), (0xBF3, .neutral),
  (0xC01, .left), (0xC78, .neutral), (0xC7F, .left), (0xE3F, .neutral), (0xE40, .left),
  (0xF3A, .neutral), (0xF3E, .left), (0x1390, .neutral), (0x13A0, .left), (0x1400, .neutral),
  (0x1401, .left), (0x169B, .neutral), (0x16A0, .left), (0x17DB, .neutral), (0x17DC, .left),
  (0x17F0, .neutral), (0x1810, .left), (0x1940, .neutral), (0x1946, .left), (0x19DE, .neutral),
  (0x1A00, .left), (0x200C, .neutral), (0x214E, .left), (0x218A, .neutral), (0x2336, .left),
  (0x237B, .neutral), (0x2395, .left), (0x2396, .neutral), (0x26AC, .left), (0x26AD, .neutral),
  (0x2800, .left), (0x2900, .neutral), (0x2C30, .left), (0x2CE5, .neutral), (0x2CEC, .left),
  (0x2CF9, .neutral), (0x2D00, .left), (0x2E00, .neutral), (0x3005, .left), (0x3008, .neutral),
  (0x3021, .left), (0x3030, .neutral), (0x3031, .left), (0x3037, .neutral), (0x303B, .left),
  (0x303D, .neutral), (0x3041, .left), (0x30A0, .neutral), (0x30A1, .left), (0x30FB, .neutral),
  (0x30FC, .left), (0x31C0, .neutral), (0x31F0, .left), (0x4DC0, .neutral), (0x4E00, .left),
  (0xA490, .neutral), (0xA4D0, .left), (0xA60D, .neutral), (0xA610, .left), (0xA673, .neutral),
  (0xA681, .left), (0xA700, .neutral), (0xA723, .left), (0xA788, .neutral), (0xA789, .left),
  (0xA828, .neutral), (0xA830, .left), (0xA838, .neutral), (0xA840, .left), (0xA874, .neutral),
  (0xA880, .left), (0xAB6A, .neutral), (0xABC0, .left), (0xFBB2, .right), (0xFBC3, .neutral),
  (0xFE73, .right), (0x10000, .left), (0x10101, .neutral), (0x10102, .left), (0x10140, .neutral),
  (0x1018D, .left), (0x10190, .neutral), (0x101D0, .left), (0x102E1, .european), (0x10300, .left),
  (0x10800, .right), (0x1091F, .neutral), (0x10920, .right), (0x10B39, .neutral),
  (0x10B40, .right), (0x10D30, .arabic), (0x10D4A, .right), (0x10D6E, .neutral),
  (0x10D6F, .right), (0x10E60, .arabic), (0x10E80, .right), (0x10ED0, .neutral),
  (0x10F00, .right), (0x11000, .left), (0x11052, .neutral), (0x11066, .left), (0x11660, .neutral),
  (0x11680, .left), (0x11FD5, .neutral), (0x11FFF, .left), (0x16FE2, .neutral), (0x16FE3, .left),
  (0x1CC00, .neutral), (0x1CF50, .left), (0x1D1E9, .neutral), (0x1D2C0, .left),
  (0x1D300, .neutral), (0x1D360, .left), (0x1E2FF, .neutral), (0x1E4D0, .left), (0x1E800, .right),
  (0x1EEF0, .neutral), (0x1F150, .left), (0x1F16D, .neutral), (0x1F170, .left),
  (0x1F1AD, .neutral), (0x1F1E6, .left), (0x1F260, .neutral), (0x20000, .left)]

/-- The marks without room that are read from left to right on their own. -/
def leftMarks : List Nat := [0xCBF, 0xCC6, 0x11A07, 0x11A08, 0x11C3F]

/-- The direction in a list that holds at a code point, coming from the one before. -/
def directionAt (n : Nat) (current : Direction) : List (Nat × Direction) → Direction
  | [] => current
  | (first, d) :: rest => if first ≤ n then directionAt n d rest else current

/-- The direction of a character. -/
def direction (c : Char) : Direction :=
  if leftMarks.contains c.toNat then .left
  else if isNonspacing c then .mark
  else directionAt c.toNat .neutral directions

/-! ## Labels -/

/-- Whether a character turns the whole name into one with directions. -/
def turnsName (c : Char) : Bool := direction c = .right ∨ direction c = .arabic

/-- Whether the directions of a label that is read from left to right are in order:
those behind its first character, the last one first, without the marks at the end. -/
def isLeftInOrder : List Direction → Bool
  | [] => true
  | last :: middle =>
    (last = .left ∨ last = .european) && middle.all fun d => d ≠ .right ∧ d ≠ .arabic

/-- The same for a label that is read from right to left. It has digits of one kind. -/
def isRightInOrder : List Direction → Bool
  | [] => true
  | last :: middle =>
    (last = .right ∨ last = .european ∨ last = .arabic) && middle.all (· ≠ .left) &&
      !((last :: middle).contains .european && (last :: middle).contains .arabic)

/-- Whether the directions of a label are in order. -/
def isInOrder (label : List Char) : Bool :=
  match label.map direction with
  | [] => true
  | first :: others =>
    let others := others.reverse.dropWhile (· = .mark)
    match first with
    | .left => isLeftInOrder others
    | .right => isRightInOrder others
    | _ => false

end TokenCustody.Url
