/-
TokenCustody.Proofs.Url.Reading — how a text is cut into the parts of a URL.

Two marks cut a URL, and any reader of URLs can find them without knowing
what stands between: the first `#`, which the fragment follows, and the
first `?` before it, which the query follows. What is left is the scheme
and the place.

`Url.parse_ok` is the inversion of the reader: where each part of a URL
that was read comes from.
-/
import TokenCustody.Url.Edit

namespace TokenCustody

open TokenCustody.Text

/-- A result that was made in two steps has one of the first step. -/
theorem exists_ok_of_bind {α β ε : Type} {x : Except ε α} {f : α → Except ε β} {b : β}
    (h : x >>= f = .ok b) : ∃ a, x = .ok a ∧ f a = .ok b := by
  cases x with
  | error e => cases h
  | ok a => exact ⟨a, rfl, h⟩

namespace Url

/-! ## The three parts of a text -/

/-- What stands before the query and the fragment. -/
def placeText (cs : List Char) : List Char := (cut (· == '?') (cut (· == '#') cs).1).1

/-- What follows the first question mark before the fragment. -/
def queryText (cs : List Char) : Option (List Char) := (cut (· == '?') (cut (· == '#') cs).1).2

/-- What follows the first number sign. -/
def fragmentText (cs : List Char) : Option (List Char) := (cut (· == '#') cs).2

/-- The part of a text that holds the scheme and the place of a URL. -/
def front (cs : List Char) : List Char := (cut (· == '?') (cut (· == '#') (significant cs)).1).1

theorem front_eq (cs : List Char) : front cs = placeText (significant cs) := rfl

/-! ## Where the parts of a URL come from -/

/-- A scheme is what stands before the first colon, in small letters. -/
theorem written_of_readScheme {cs scheme rest : List Char}
    (h : readScheme cs = .ok (scheme, rest)) : ∃ written, cs = written ++ ':' :: rest ∧
      ':' ∉ written ∧ scheme = written.map Char.toLower := by
  unfold readScheme at h
  split at h
  · next c cs' rest' hcut =>
    split at h
    · cases h
      obtain ⟨s, hs, rfl, hfree⟩ := cut_eq_some_iff.mp hcut
      cases eq_of_beq hs
      exact ⟨c :: cs', rfl, fun hmem => by simpa using hfree _ hmem, rfl⟩
    · cases h
  · cases h

/-- The scheme, the place, the query and the fragment of a URL are read from the parts of its
text. -/
theorem parse_ok {cs : List Char} {u : Url} (h : parse cs = .ok u) :
    (∃ rest, readScheme (front cs) = .ok (u.scheme, rest) ∧
      readPlace u.scheme rest = .ok (u.authority, u.path)) ∧
    u.guarded = (u.authority.isNone && u.path.startsEmpty) ∧
    u.query = (queryText (significant cs)).map (Percent.encode (inQuerySet u.kind.isSpecial)) ∧
    u.fragment = (fragmentText (significant cs)).map (Percent.encode inFragmentSet) := by
  obtain ⟨url, hfront, hurl⟩ := exists_ok_of_bind (x := parseFront (front cs)) h
  obtain ⟨⟨scheme, rest⟩, hscheme, hrest⟩ := exists_ok_of_bind hfront
  obtain ⟨⟨authority, path⟩, hplace, hpath⟩ := exists_ok_of_bind hrest
  cases hpath
  cases hurl
  exact ⟨⟨rest, hscheme, hplace⟩, rfl, rfl, rfl⟩

end Url

end TokenCustody
