/-
TokenCustody.Text.Normal.Form — one way of writing for equal texts.

A text can be written in many ways that make no difference to it. The
normal form is reached in three steps: all characters are taken apart,
the marks behind each letter are sorted by rank, and then as much as
possible is put together again.

Sorting never moves a character past one of rank 0, and never changes
the order of two marks of one rank. A mark is put together with its
letter only if no mark in between has its rank or a higher one, because
such a mark stands closer to the letter.
-/
import TokenCustody.Text.Normal.Parts
import TokenCustody.Text.Normal.Rank

namespace TokenCustody.Text.Normal

/-! ## Sorting -/

/-- Puts a character in front of a sorted text, behind the marks that come before it. -/
def insertMark (c : Char) : List Char → List Char
  | [] => [c]
  | d :: ds => if 0 < rank d ∧ rank d < rank c then d :: insertMark c ds else c :: d :: ds

/-- Sorts the marks of a text. -/
def sortMarks (cs : List Char) : List Char := cs.foldr insertMark []

/-! ## Putting together -/

/-- Puts a letter together with what follows it. `passed` are the marks behind the letter
that stay on their own, the last one first. -/
def joinFrom (letter : Char) (passed : List Char) : List Char → List Char
  | [] => letter :: passed.reverse
  | c :: cs =>
    match if passed.head?.all (fun m => rank m < rank c) then joined? letter c else none with
    | some whole => joinFrom whole passed cs
    | none =>
      if rank c = 0 then letter :: passed.reverse ++ joinFrom c [] cs
      else joinFrom letter (c :: passed) cs

/-- Puts together what can be. -/
def joinParts : List Char → List Char
  | [] => []
  | c :: cs => if rank c = 0 then joinFrom c [] cs else c :: joinParts cs

/-! ## The form -/

/-- The normal form of a text. -/
def normalForm (cs : List Char) : List Char := joinParts (sortMarks (cs.flatMap takenApart))

end TokenCustody.Text.Normal
