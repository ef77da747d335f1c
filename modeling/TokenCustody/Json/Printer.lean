/-
TokenCustody.Json.Printer — values as JSON text.

The text is compact: no blank stands between its parts, and members
stand in the order of the list. Only what must be escaped is escaped:
quotation marks, backslashes and control characters.
-/
import TokenCustody.Json.Basic
import TokenCustody.Text.Decimal

namespace TokenCustody.Json

/-! ## Texts -/

/-- A hexadecimal digit, in lower case. -/
def hexDigit (n : Nat) : Char :=
  if n < 10 then Char.ofNat (0x30 + n) else Char.ofNat (0x57 + n)

/-- One character between quotation marks. -/
def escapeChar (c : Char) : List Char :=
  if c = '"' then ['\\', '"']
  else if c = '\\' then ['\\', '\\']
  else if c = '\x08' then ['\\', 'b']
  else if c = '\x0c' then ['\\', 'f']
  else if c = '\n' then ['\\', 'n']
  else if c = '\r' then ['\\', 'r']
  else if c = '\t' then ['\\', 't']
  else if c.toNat < 0x20 then
    ['\\', 'u', '0', '0', hexDigit (c.toNat / 16), hexDigit (c.toNat % 16)]
  else [c]

/-- A text between quotation marks. -/
def printString (s : String) : List Char := '"' :: s.toList.flatMap escapeChar ++ ['"']

/-- A text between quotation marks; one without a value is printed as one half of a
surrogate pair. -/
def printText : Text → List Char
  | some s => printString s
  | none => "\"\\ud800\"".toList

/-! ## Numbers -/

/-- A whole number with its sign. -/
def printInt : Int → List Char
  | .ofNat n => TokenCustody.Text.decimal n
  | .negSucc n => '-' :: TokenCustody.Text.decimal (n + 1)

/-- A number: its digits, and its power of ten unless it is whole. -/
def Number.print (n : Number) : List Char :=
  (if n.negative then ['-'] else []) ++ TokenCustody.Text.decimal n.digits ++
    (if n.isWhole then [] else 'e' :: printInt n.scale)

/-! ## Values -/

mutual

/-- A value as text. -/
def Value.print : Value → List Char
  | .null => "null".toList
  | .bool true => "true".toList
  | .bool false => "false".toList
  | .number n => n.print
  | .text t => printText t
  | .array items => '[' :: printItems items ++ [']']
  | .object members => '\x7b' :: printMembers members ++ ['\x7d']

/-- Items with commas between them. -/
def printItems : List Value → List Char
  | [] => []
  | [v] => v.print
  | v :: vs => v.print ++ ',' :: printItems vs

/-- Members with commas between them. -/
def printMembers : List (Text × Value) → List Char
  | [] => []
  | [(k, v)] => printText k ++ ':' :: v.print
  | (k, v) :: ms => printText k ++ ':' :: v.print ++ ',' :: printMembers ms

end

/-- A value as a string. -/
def Value.render (v : Value) : String := String.ofList v.print

end TokenCustody.Json
