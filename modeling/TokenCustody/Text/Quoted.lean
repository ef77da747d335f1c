/-
TokenCustody.Text.Quoted — a text between quotation marks, for people.

Diagnostic output shows texts so that no two differ only in what cannot
be seen. Quotation marks, backslashes and the common controls have short
escapes; every other concealed character is written by its code point.
-/
import TokenCustody.Text.Concealed

namespace TokenCustody.Text.Quoted

/-- A number in lower-case hexadecimal digits. -/
def hexadecimal (n : Nat) : List Char := Nat.toDigits 16 n

/-- One character as it stands between quotation marks. -/
def encodeChar (c : Char) : List Char :=
  if c = '\x00' then ['\\', '0']
  else if c = '\t' then ['\\', 't']
  else if c = '\r' then ['\\', 'r']
  else if c = '\n' then ['\\', 'n']
  else if c = '"' then ['\\', '"']
  else if c = '\\' then ['\\', '\\']
  else if isConcealed c then
    ['\\', 'u', '\x7b'] ++ hexadecimal c.toNat ++ ['\x7d']
  else [c]

/-- A text between quotation marks. -/
def render (s : String) : String :=
  String.ofList ('"' :: s.toList.flatMap encodeChar ++ ['"'])

end TokenCustody.Text.Quoted
