/-
TokenCustody.Proofs.Text.Decimal — numbers written in digits are read back.

The digits of a number have its value, with or without zeros in front.
What follows a run of digits does not matter to a reader that takes the
longest run, as long as it does not go on with a digit (`NoDigit`).
-/
import Mathlib.Algebra.Group.Nat.Defs
import TokenCustody.Text.Decimal

namespace TokenCustody.Text

/-! ## Digits -/

/-- The digits of a number have its value. -/
theorem digitsValue_decimal (n : Nat) : digitsValue (decimal n) = n :=
  Nat.ofDigitChars_ten_toDigits

theorem decimal_ne_nil (n : Nat) : decimal n ≠ [] := Nat.toDigits_ne_nil

theorem isDigit_of_mem_decimal {n : Nat} {c : Char} (h : c ∈ decimal n) : c.isDigit = true :=
  Nat.isDigit_of_mem_toDigits (by decide) (by decide) h

/-- A number starts with a digit. -/
theorem decimal_eq_cons (n : Nat) : ∃ d ds, decimal n = d :: ds ∧ d.isDigit = true := by
  obtain ⟨d, ds, hds⟩ := List.exists_cons_of_ne_nil (decimal_ne_nil n)
  refine ⟨d, ds, hds, isDigit_of_mem_decimal (n := n) ?_⟩
  rw [hds]
  exact List.mem_cons_self

/-- Digits start with a zero only if the number is zero. -/
theorem decimal_eq_zero_cons {n : Nat} {cs : List Char} (h : decimal n = '0' :: cs) :
    n = 0 ∧ cs = [] := by
  induction n using Nat.strongRecOn generalizing cs with
  | _ n ih =>
    have hif : decimal n = if n < 10 then [n.digitChar]
        else decimal (n / 10) ++ [(n % 10).digitChar] := Nat.toDigits_eq_if (by decide)
    rw [hif] at h
    split at h
    · next hlt =>
      obtain ⟨hd, rfl⟩ := List.cons.inj h
      have hv := digitsValue_decimal n
      rw [hif, if_pos hlt, hd] at hv
      exact ⟨hv.symm, rfl⟩
    · next hge =>
      obtain ⟨d, ds, hds⟩ := List.exists_cons_of_ne_nil (decimal_ne_nil (n / 10))
      rw [hds, List.cons_append] at h
      obtain ⟨rfl, -⟩ := List.cons.inj h
      have := (ih (n / 10) (by omega) hds).1
      omega

/-! ## Zeros in front -/

/-- Zeros in front do not change the value. -/
theorem digitsValue_paddedDecimal (width n : Nat) : digitsValue (paddedDecimal width n) = n := by
  have hzeros (k : Nat) :
      (List.replicate k '0').foldl (fun n c => 10 * n + digitValue c) 0 = 0 := by
    induction k with
    | zero => rfl
    | succ k ih => rw [List.replicate_succ', List.foldl_append, ih]; rfl
  unfold digitsValue paddedDecimal
  rw [List.foldl_append, hzeros]
  exact digitsValue_decimal n

theorem isDigit_of_mem_paddedDecimal {width n : Nat} {c : Char} (h : c ∈ paddedDecimal width n) :
    c.isDigit = true := by
  rcases List.mem_append.mp h with h | h
  · rw [List.eq_of_mem_replicate h]
    rfl
  · exact isDigit_of_mem_decimal h

theorem paddedDecimal_ne_nil (width n : Nat) : paddedDecimal width n ≠ [] :=
  List.append_ne_nil_of_right_ne_nil _ (decimal_ne_nil n)

/-- A number that fits into the width is written with just as many digits. -/
theorem length_paddedDecimal {width n : Nat} (hw : 0 < width) (hn : n < 10 ^ width) :
    (paddedDecimal width n).length = width := by
  have hlen : (decimal n).length ≤ width :=
    (Nat.length_toDigits_le_iff (by decide) hw).mpr hn
  simp only [paddedDecimal, List.length_append, List.length_replicate]
  omega

/-! ## The end of a run -/

/-- The text does not go on with a digit. -/
def NoDigit (cs : List Char) : Prop := ∀ c ∈ cs.head?, c.isDigit = false

theorem noDigit_nil : NoDigit [] := by
  intro c h
  cases h

theorem noDigit_cons {c : Char} (h : c.isDigit = false) (cs : List Char) : NoDigit (c :: cs) := by
  intro d hd
  cases hd
  exact h

/-- Digits are read up to where they end. -/
theorem takeWhile_digits {ds rest : List Char} (h : ∀ c ∈ ds, c.isDigit = true)
    (hrest : NoDigit rest) : (ds ++ rest).takeWhile Char.isDigit = ds := by
  rw [List.takeWhile_append_of_pos h]
  cases rest with
  | nil => simp
  | cons c rest => rw [List.takeWhile_cons_of_neg (by simp [hrest c rfl]), List.append_nil]

/-- A run is dropped up to where it ends. -/
theorem dropWhile_run {p : Char → Bool} {run rest : List Char} (h : ∀ c ∈ run, p c = true)
    (hrest : ∀ c ∈ rest.head?, p c = false) : (run ++ rest).dropWhile p = rest := by
  rw [List.dropWhile_append_of_pos h]
  cases rest with
  | nil => rfl
  | cons c rest => exact List.dropWhile_cons_of_neg (by simp [hrest c rfl])

/-- What follows the digits is left. -/
theorem dropWhile_digits {ds rest : List Char} (h : ∀ c ∈ ds, c.isDigit = true)
    (hrest : NoDigit rest) : (ds ++ rest).dropWhile Char.isDigit = rest := dropWhile_run h hrest

end TokenCustody.Text
