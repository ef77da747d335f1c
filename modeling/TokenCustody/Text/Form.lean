/-
TokenCustody.Text.Form — lists of names and values as
`application/x-www-form-urlencoded`.

This is the body of a token request and the query of a URL. The writer
keeps letters, digits and four marks, turns a space into a plus sign and
writes every other byte as a percent sign and two digits. The reader
undoes that and accepts much more: empty stretches between ampersands
are skipped, a name without an equals sign has the empty value, and a
percent sign without digits stands for itself.
-/
import TokenCustody.Text.Percent
import TokenCustody.Text.Split

namespace TokenCustody.Text.Form

/-! ## Writing -/

/-- The characters that stand for themselves. -/
def isPlain (c : Char) : Bool :=
  c.isAlphanum || c == '*' || c == '-' || c == '.' || c == '_'

/-- One character of a name or value. -/
def encodeChar (c : Char) : List Char :=
  if c = ' ' then ['+'] else Percent.encodeChar (fun d => !isPlain d) c

/-- A name or a value. -/
def encodeText (s : String) : List Char := s.toList.flatMap encodeChar

/-- A name and its value. -/
def encodePair (pair : String × String) : List Char :=
  encodeText pair.1 ++ '=' :: encodeText pair.2

/-- A list of names and values. -/
def encode (pairs : List (String × String)) : List Char :=
  join ['&'] (pairs.map encodePair)

/-! ## Reading -/

/-- A name or a value, read. -/
def decodeText (cs : List Char) : String :=
  let spaced := cs.map fun c => if c = '+' then ' ' else c
  String.ofList (Utf8.decode (Percent.decode spaced))

/-- A name and its value, read: the name ends at the first equals sign. -/
def decodePair (cs : List Char) : String × String :=
  let parts := cut (· == '=') cs
  (decodeText parts.1, decodeText (parts.2.getD []))

/-- A list of names and values, read. -/
def decode (cs : List Char) : List (String × String) :=
  ((split (· == '&') cs).filter (· ≠ [])).map decodePair

end TokenCustody.Text.Form
