/-
TokenCustody.Url.Domain — domain names in ASCII.

A domain name is a row of labels with points between them. It is folded
and brought into normal form, so that two names that nobody could tell
apart are one. A label that then has characters outside ASCII is written
in code behind `xn--`, and a label that was already written so must read
as one that would be written so.

A name is refused when it has a character that no name may have, when a
label starts with a mark or has a joiner out of place, and when labels
that are read from right to left are not in order.
-/
import TokenCustody.Text.Normal.Form
import TokenCustody.Url.Domain.Allowed
import TokenCustody.Url.Domain.Code
import TokenCustody.Url.Domain.Direction
import TokenCustody.Url.Domain.Folding
import TokenCustody.Url.Domain.Joining

namespace TokenCustody.Url

open TokenCustody.Text

/-! ## Texts -/

/-- The characters that no domain name has: those that mean something in a URL, the
space and the controls. -/
def isForbidden (c : Char) : Bool :=
  c.toNat ≤ 0x20 || c.toNat == 0x7F || c == '%' || c == '#' || c == '/' || c == ':' ||
    c == '<' || c == '>' || c == '?' || c == '@' || c == '[' || c == '\\' || c == ']' ||
    c == '^' || c == '|'

/-- The one spelling of a text, if a domain name may be written so. -/
def canonical? (cs : List Char) : Option (List Char) :=
  let parts := cs.flatMap Normal.takenApart
  if parts.all isAllowed then
    let spelled := Normal.normalForm (parts.flatMap fold)
    if spelled.any isForbidden then none else some spelled
  else none

/-! ## Labels -/

/-- A label of a name, with the characters it has and those it is written with. -/
structure Label where
  meaning : List Char
  written : List Char

/-- What a label in code starts with. -/
def codeMark : List Char := "xn--".toList

/-- The longest label that is put into code. -/
def maxCodedLength : Nat := 1000

/-- A label in its one spelling. A label that has a code must be written in its one
spelling behind the code, too. -/
def Label.of? (cs : List Char) : Option Label :=
  if codeMark.isPrefixOf cs then
    match decodeLabel (cs.drop codeMark.length) with
    | some meaning => if canonical? meaning = some meaning then some ⟨meaning, cs⟩ else none
    | none => none
  else if cs.all isAscii then some ⟨cs, cs⟩
  else if cs.length ≤ maxCodedLength then some ⟨cs, codeMark ++ encodeLabel cs⟩
  else none

/-- Whether a label can stand in a name on its own. -/
def Label.isSound (l : Label) : Bool :=
  !l.meaning.head?.any isMark && joinersFit [] l.meaning &&
    (l.meaning.all isAscii || l.meaning.length ≤ maxCodedLength)

/-! ## Names -/

/-- Whether labels can stand in one name. -/
def areInOrder (labels : List Label) : Bool :=
  !labels.any (fun l => l.meaning.any turnsName) || labels.all fun l => isInOrder l.meaning

/-- A domain name in ASCII, if it is one. -/
def domainToAscii (cs : List Char) : Option (List Char) :=
  match (canonical? cs).bind fun name => (split (· == '.') name).mapM Label.of? with
  | some labels =>
    if labels.all Label.isSound ∧ areInOrder labels then
      some (join ['.'] (labels.map Label.written))
    else none
  | none => none

end TokenCustody.Url
