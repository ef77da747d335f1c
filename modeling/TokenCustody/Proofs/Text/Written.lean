/-
TokenCustody.Proofs.Text.Written — numbers as people write them.

A setting or a header holds a number as people write it: blanks around
it, perhaps a plus sign in front, zeros that do not count. What is read
after the blanks are trimmed is the number that is written, if it fits
into 64 bits (`readWord_trim_eq_some_iff`); and a text writes at most one
number, of whatever size.
-/
import Mathlib.Data.List.TakeWhile
import TokenCustody.Proofs.Time.Rfc3339

namespace TokenCustody.Text

open TokenCustody.Time (isBlank_of_isDigit)

/-! ## Trimming -/

section Trimming

variable {drop : Char → Bool} {before core after : List Char}

/-- Of a text that starts and ends with what is not dropped, all is left. -/
theorem trimBoth_surrounded (hbefore : ∀ c ∈ before, drop c = true)
    (hafter : ∀ c ∈ after, drop c = true) (hne : core ≠ [])
    (hhead : ∀ c ∈ core.head?, drop c = false) (hlast : ∀ c ∈ core.getLast?, drop c = false) :
    trimBoth drop (before ++ (core ++ after)) = core := by
  have hfront : (before ++ (core ++ after)).dropWhile drop = core ++ after := by
    refine dropWhile_run hbefore ?_
    rwa [List.head?_append, Option.or_of_isSome (List.isSome_head?.mpr hne)]
  have hback : (core ++ after).reverse.dropWhile drop = core.reverse := by
    rw [List.reverse_append]
    refine dropWhile_run (fun c hc => hafter c (List.mem_reverse.mp hc)) ?_
    rwa [List.head?_reverse]
  rw [trimBoth, hfront, hback, List.reverse_reverse]

theorem trimBoth_eq_self (hne : core ≠ []) (hhead : ∀ c ∈ core.head?, drop c = false)
    (hlast : ∀ c ∈ core.getLast?, drop c = false) : trimBoth drop core = core := by
  have hnothing : ∀ c ∈ ([] : List Char), drop c = true := nofun
  simpa using trimBoth_surrounded hnothing hnothing hne hhead hlast

/-- What is dropped stands before and after what is left. -/
theorem exists_surrounded (drop : Char → Bool) (cs : List Char) : ∃ before after,
    cs = before ++ (trimBoth drop cs ++ after) ∧ (∀ c ∈ before, drop c = true) ∧
      (∀ c ∈ after, drop c = true) := by
  refine ⟨cs.takeWhile drop, ((cs.dropWhile drop).reverse.takeWhile drop).reverse, ?_,
    fun c hc => ?_, fun c hc => ?_⟩
  · rw [trimBoth, ← List.reverse_append, List.takeWhile_append_dropWhile, List.reverse_reverse,
      List.takeWhile_append_dropWhile]
  · exact List.mem_takeWhile_imp hc
  · exact List.mem_takeWhile_imp (List.mem_reverse.mp hc)

/-- What is left does not end with what is dropped. -/
theorem last_trimBoth {cs : List Char} {c : Char} (h : c ∈ (trimBoth drop cs).getLast?) :
    drop c = false := by
  have hhead := List.head?_dropWhile_not drop (cs.dropWhile drop).reverse
  rw [trimBoth, List.getLast?_reverse] at h
  rw [Option.mem_def.mp h] at hhead
  exact hhead

end Trimming

/-! ## Written numbers -/

/-- The text is digits that write the number, behind a plus sign or not. -/
def Denotes (cs : List Char) (n : Nat) : Prop :=
  ∃ sign digits, cs = sign ++ digits ∧ (sign = [] ∨ sign = ['+']) ∧ digits ≠ [] ∧
    (∀ c ∈ digits, c.isDigit = true) ∧ Nat.ofDigitChars 10 digits 0 = n

/-- The text is a written number with blanks around it. -/
def Writes (cs : List Char) (n : Nat) : Prop :=
  ∃ before core after, cs = before ++ (core ++ after) ∧ (∀ c ∈ before, isBlank c = true) ∧
    (∀ c ∈ after, isBlank c = true) ∧ Denotes core n

theorem readDigits_eq_some_iff {cs : List Char} {n : Nat} : readDigits cs = some n ↔
    cs ≠ [] ∧ (∀ c ∈ cs, c.isDigit = true) ∧ Nat.ofDigitChars 10 cs 0 = n := by
  have hvalue : Nat.ofDigitChars 10 cs 0 = digitsValue cs := rfl
  unfold readDigits
  rw [hvalue]
  by_cases h : cs ≠ [] ∧ cs.all Char.isDigit
  · rw [if_pos h]
    simp only [Option.some.injEq]
    exact ⟨fun hn => ⟨h.1, List.all_eq_true.mp h.2, hn⟩, fun hn => hn.2.2⟩
  · rw [if_neg h]
    exact iff_of_false nofun fun hn => h ⟨hn.1, List.all_eq_true.mpr hn.2.1⟩

/-- A text that denotes a number denotes the one that its digits are read as. -/
theorem denotes_iff {cs : List Char} {n : Nat} : Denotes cs n ↔
    readDigits (match cs with | '+' :: rest => rest | _ => cs) = some n := by
  constructor
  · rintro ⟨sign, digits, rfl, rfl | rfl, hdigits⟩
    · have hread := readDigits_eq_some_iff.mpr hdigits
      split
      · next rest heq =>
        -- A plus sign is no digit.
        have hplus := hdigits.2.1 '+' (by rw [← List.nil_append digits, heq]; simp)
        cases hplus
      · exact hread
    · exact readDigits_eq_some_iff.mpr hdigits
  · intro h
    split at h
    · next rest => exact ⟨['+'], rest, rfl, Or.inr rfl, readDigits_eq_some_iff.mp h⟩
    · exact ⟨[], cs, rfl, Or.inl rfl, readDigits_eq_some_iff.mp h⟩

theorem Denotes.solid {cs : List Char} {n : Nat} (h : Denotes cs n) :
    cs ≠ [] ∧ ∀ c ∈ cs, isBlank c = false := by
  obtain ⟨sign, digits, rfl, hsign, hne, hdigits, -⟩ := h
  refine ⟨List.append_ne_nil_of_right_ne_nil _ hne, fun c hc => ?_⟩
  rcases List.mem_append.mp hc with hc | hc
  · rcases hsign with rfl | rfl
    · cases hc
    · rw [List.mem_singleton.mp hc]
      decide
  · exact isBlank_of_isDigit (hdigits c hc)

/-- Blanks around a number do not count. -/
theorem writes_iff {cs : List Char} {n : Nat} : Writes cs n ↔ Denotes (trim cs) n := by
  constructor
  · rintro ⟨before, core, after, rfl, hbefore, hafter, hcore⟩
    obtain ⟨hne, hsolid⟩ := hcore.solid
    have htrim : trim (before ++ (core ++ after)) = core :=
      trimBoth_surrounded hbefore hafter hne (fun c hc => hsolid c (List.mem_of_head? hc))
        fun c hc => hsolid c (List.mem_of_getLast? hc)
    rwa [htrim]
  · intro h
    obtain ⟨before, after, heq, hbefore, hafter⟩ := exists_surrounded isBlank cs
    exact ⟨before, trim cs, after, heq, hbefore, hafter, h⟩

theorem Writes.unique {cs : List Char} {m n : Nat} (hm : Writes cs m) (hn : Writes cs n) :
    m = n := by
  rw [writes_iff, denotes_iff] at hm hn
  exact Option.some.inj (hm.symm.trans hn)

theorem not_writes_nil (n : Nat) : ¬Writes [] n := by
  rw [writes_iff, denotes_iff]
  exact nofun

/-- The numbers that are read are those that are written and fit into 64 bits. -/
theorem readWord_trim_eq_some_iff {cs : List Char} {n : Nat} :
    readWord (trim cs) = some n ↔ Writes cs n ∧ n < wordCount := by
  unfold readWord
  rw [writes_iff, denotes_iff, Option.bind_eq_some_iff]
  constructor
  · rintro ⟨m, hm, h⟩
    obtain ⟨hlt, heq⟩ := Option.ite_none_right_eq_some.mp h
    cases heq
    exact ⟨hm, hlt⟩
  · rintro ⟨hn, hlt⟩
    exact ⟨n, hn, if_pos hlt⟩

end TokenCustody.Text
