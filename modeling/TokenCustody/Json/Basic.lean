/-
TokenCustody.Json.Basic — the values that a JSON text can write.

The type keeps two things that most readers throw away, because which
documents are accepted depends on them:

* a text may hold an escape for one half of a surrogate pair without the
  other half. Such a text is well formed and has no value; `Text` is
  `none` for it. It is harmless in a member that nobody reads.
* a number remembers whether it was written without point and exponent.
  A count is such a number; `1.0` and `1e0` are not counts.
-/
import TokenCustody.Text.Decimal

namespace TokenCustody.Json

/-- What a quoted text means: nothing, when it holds half a surrogate pair. -/
abbrev Text := Option String

/-- A number as written: the sign, all digits with the point left out, how many of them
stand behind the point, the exponent, and whether neither point nor exponent was there. -/
structure Number where
  /-- Whether a minus sign was written. -/
  negative : Bool
  /-- The digits, read as one number. -/
  digits : Nat
  /-- How many digits stand behind the point. -/
  places : Nat
  /-- The exponent; 0 if none was written. -/
  exponent : Int
  /-- Whether the number was written without point and exponent. -/
  isWhole : Bool
  deriving DecidableEq

/-- The power of ten to multiply the digits by. -/
def Number.scale (n : Number) : Int := n.exponent - n.places

/-- The number that counts `n` things. -/
def Number.ofNat (n : Nat) : Number := ⟨false, n, 0, 0, true⟩

/-- A value. The members of an object stand in the order in which they were written. -/
inductive Value where
  | null
  | bool (b : Bool)
  | number (n : Number)
  | text (t : Text)
  | array (items : List Value)
  | object (members : List (Text × Value))

namespace Value

/-- The value that holds a text. -/
def str (s : String) : Value := .text (some s)

/-- The value that holds a count. -/
def count (n : Nat) : Value := .number (Number.ofNat n)

/-- The object with these members. -/
def record (members : List (String × Value)) : Value :=
  .object (members.map fun m => (some m.1, m.2))

/-- The object with those of these members that are there. -/
def sparse (members : List (String × Option Value)) : Value :=
  .record (members.filterMap fun m => m.2.map fun v => (m.1, v))

/-- The text that a value holds. -/
def string? : Value → Option String
  | .text t => t
  | _ => none

/-- The unsigned number of 64 bits that a value holds. It is written without sign,
point and exponent. -/
def word? : Value → Option Nat
  | .number n =>
    if n.isWhole ∧ !n.negative ∧ n.digits < TokenCustody.Text.wordCount then some n.digits
    else none
  | _ => none

/-- A value that may be null: null reads as nothing. -/
def optional? {α : Type} (read : Value → Option α) : Value → Option (Option α)
  | .null => some none
  | v => (read v).map some

/-- Reads one of the words of a list. A word may also stand as the only member of an
object, with the value null. -/
def choice? {α : Type} (words : List (String × α)) : Value → Option α
  | .text (some s) => words.lookup s
  | .object [(some s, .null)] => words.lookup s
  | _ => none

mutual

/-- How many objects and arrays stand inside each other at most. -/
def depth : Value → Nat
  | .array items => depthOfItems items + 1
  | .object members => depthOfMembers members + 1
  | _ => 0

/-- The greatest depth among items. -/
def depthOfItems : List Value → Nat
  | [] => 0
  | v :: vs => max (depth v) (depthOfItems vs)

/-- The greatest depth among members. -/
def depthOfMembers : List (Text × Value) → Nat
  | [] => 0
  | (_, v) :: ms => max (depth v) (depthOfMembers ms)

end

end Value

end TokenCustody.Json
