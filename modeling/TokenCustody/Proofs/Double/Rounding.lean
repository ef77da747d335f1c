/-
TokenCustody.Proofs.Double.Rounding — what rounding does to a number.

A double stands for a rational number of at most 53 binary digits. Sums
and products are computed exactly and then rounded. All that is asked of
the rounding here is that it does not step over a double: a number below
some double is not rounded to one above it, nor the other way round
(`Rounded`). That is how bounds go through a computation, and why a
result that is a double itself is kept as it is.

The last digit of a rounded number is worth `2 ^ last`. A double either
is a multiple of that, and then shifting the digits out and rounding up
or down does not step over it, or it is too small to be stepped over
(`Representable.multiple`).
-/
import Mathlib.Algebra.Order.Field.Power
import Mathlib.Data.Rat.Floor
import Mathlib.Tactic.Linarith
import Mathlib.Tactic.Positivity
import Mathlib.Tactic.Ring

namespace TokenCustody.Double

open Float.Model
open Float.Model.UnpackedFloat

/-! ## Numbers -/

/-- The number that an unpacked double stands for, and 0 for infinities and what is no number. -/
def read : UnpackedFloat → ℚ
  | .finite s m e _ => s.apply m * 2 ^ e
  | _ => 0

@[simp]
theorem read_zero (s : Sign) : read (.zero s) = 0 := rfl

@[simp]
theorem read_positive (m : ℕ) (e : ℤ) (hm : 0 < m) :
    read (.finite .positive m e hm) = m * 2 ^ e := rfl

@[simp]
theorem read_negative (m : ℕ) (e : ℤ) (hm : 0 < m) :
    read (.finite .negative m e hm) = -(m * 2 ^ e) := by
  change ((-(m : ℤ) : ℤ) : ℚ) * 2 ^ e = -(m * 2 ^ e)
  rw [Int.cast_neg, Int.cast_natCast, neg_mul]

/-- The sign does not count for the magnitude. -/
theorem abs_read (s : Sign) (m : ℕ) (e : ℤ) (hm : 0 < m) :
    |read (.finite s m e hm)| = m * 2 ^ e := by
  have hpos : (0 : ℚ) ≤ m * 2 ^ e := by positivity
  cases s with
  | positive => rw [read_positive, abs_of_nonneg hpos]
  | negative => rw [read_negative, abs_neg, abs_of_nonneg hpos]

/-- A number with as many binary digits as a double has. -/
def Representable (q : ℚ) : Prop := ∃ m e : ℤ, |m| ≤ 2 ^ 53 ∧ -1074 ≤ e ∧ q = m * 2 ^ e

theorem Representable.neg {q : ℚ} (h : Representable q) : Representable (-q) := by
  obtain ⟨m, e, hm, he, rfl⟩ := h
  exact ⟨-m, e, by rwa [abs_neg], he, by push_cast; ring⟩

/-- Natural numbers up to `2 ^ 53` are doubles. -/
theorem representable_natCast {n : ℕ} (h : n ≤ 2 ^ 53) : Representable n := by
  refine ⟨n, 0, ?_, by decide, by rw [zpow_zero, mul_one, Int.cast_natCast]⟩
  rw [Nat.abs_cast]
  exact_mod_cast h

theorem representable_zero : Representable 0 := by
  exact_mod_cast representable_natCast (Nat.zero_le _)

/-- Twice a double is a double. -/
theorem Representable.double {q : ℚ} (h : Representable q) : Representable (2 * q) := by
  obtain ⟨m, e, hm, he, rfl⟩ := h
  refine ⟨m, e + 1, hm, by omega, ?_⟩
  rw [zpow_add_one₀ two_ne_zero]
  ring

/-- A number with digits before the point only is its own whole part, and any other one has a
short one. -/
theorem Representable.floor {q : ℚ} (h : Representable q) : Representable (⌊q⌋₊ : ℕ) := by
  obtain hneg | hpos := lt_or_ge q 0
  · rw [Nat.floor_of_nonpos hneg.le]
    exact representable_natCast (Nat.zero_le _)
  obtain ⟨m, e, hm, he, rfl⟩ := h
  obtain ⟨k, rfl | rfl⟩ := e.eq_nat_or_neg
  · have hm0 : 0 ≤ m := by
      have htwo : (0 : ℚ) < 2 ^ (k : ℤ) := by positivity
      exact_mod_cast nonneg_of_mul_nonneg_left hpos htwo
    obtain ⟨n, rfl⟩ := Int.eq_ofNat_of_zero_le hm0
    refine ⟨n, k, hm, by omega, ?_⟩
    rw [zpow_natCast]
    exact_mod_cast congrArg (Nat.cast (R := ℚ)) (Nat.floor_natCast (R := ℚ) (n * 2 ^ k))
  · have hsmall : (m : ℚ) * 2 ^ (-(k : ℤ)) ≤ (2 ^ 53 : ℕ) := by
      have hm' : (m : ℚ) ≤ 2 ^ 53 := by exact_mod_cast (le_abs_self m).trans hm
      have hpow : (2 : ℚ) ^ (-(k : ℤ)) ≤ 1 := zpow_le_one_of_nonpos₀ one_le_two (by omega)
      push_cast
      calc (m : ℚ) * 2 ^ (-(k : ℤ)) ≤ 2 ^ 53 * 1 := by gcongr
        _ = 2 ^ 53 := mul_one _
    exact representable_natCast (Nat.floor_le_of_le hsmall)

/-- The mantissa is as long as it can be, or the exponent as small. -/
def Canonical : UnpackedFloat → Prop
  | .zero _ => True
  | .finite _ m e _ => m < 2 ^ 53 ∧ -1074 ≤ e ∧ (2 ^ 52 ≤ m ∨ e = -1074)
  | _ => False

/-- What a canonical form stands for is a double. -/
theorem Canonical.representable {u : UnpackedFloat} (h : Canonical u) : Representable (read u) := by
  cases u with
  | zero s => exact representable_zero
  | finite s m e hm =>
    refine ⟨s.apply m, e, ?_, h.2.1, rfl⟩
    have habs : |s.apply m| = m := by
      cases s with
      | positive => exact Nat.abs_cast m
      | negative => exact (abs_neg (m : ℤ)).trans (Nat.abs_cast m)
    rw [habs]
    exact_mod_cast h.1.le
  | _ => exact h.elim

/-- Rounding has made a double of a number without stepping over another one. -/
structure Rounded (u : UnpackedFloat) (q : ℚ) : Prop where
  canonical : Canonical u
  le : ∀ d, Representable d → q ≤ d → read u ≤ d
  ge : ∀ d, Representable d → d ≤ q → d ≤ read u

/-- A double is not rounded any further. -/
theorem Canonical.rounded {u : UnpackedFloat} (h : Canonical u) : Rounded u (read u) :=
  ⟨h, fun _ _ hd => hd, fun _ _ hd => hd⟩

/-! ## Shifting digits out -/

/-- Shifting by `k` digits divides the mantissa, and rounds it down. -/
theorem mantissa_shift (em : ExtendedMantissa) (k : ℕ) :
    (em >>> k).mantissa = em.mantissa / 2 ^ k := by
  induction k with
  | zero => exact (Nat.div_one _).symm
  | succ k ih =>
    change (em >>> k).mantissa / 2 = _
    rw [ih, Nat.div_div_eq_div_mul, ← pow_succ]

/-- A mantissa without its last digits, rounded. -/
def shifted (m k : ℕ) : ℕ :=
  (ExtendedMantissa.ofMantissaAndAccuracy m .exact >>> k).roundedMantissa

/-- Whichever way the digits shifted out decide, rounding adds one at most. -/
theorem roundedMantissa_bounds (em : ExtendedMantissa) :
    em.mantissa ≤ em.roundedMantissa ∧ em.roundedMantissa ≤ em.mantissa + 1 := by
  obtain ⟨m, roundBit, stickyBit⟩ := em
  unfold ExtendedMantissa.roundedMantissa
  cases roundBit <;> cases stickyBit <;>
    simp only [ExtendedMantissa.accuracy, Accuracy.roundToNearestEven] <;> omega

/-- What is shifted out and rounded lies at the quotient or one above it. -/
theorem shifted_bounds (m k : ℕ) : m / 2 ^ k ≤ shifted m k ∧ shifted m k ≤ m / 2 ^ k + 1 := by
  have h := roundedMantissa_bounds (ExtendedMantissa.ofMantissaAndAccuracy m .exact >>> k)
  rwa [mantissa_shift] at h

/-- Nothing is rounded where only zeros are shifted out. -/
theorem shift_mul (n k : ℕ) : ExtendedMantissa.ofMantissaAndAccuracy (n * 2 ^ k) .exact >>> k =
    ExtendedMantissa.ofMantissaAndAccuracy n .exact := by
  induction k generalizing n with
  | zero => rw [pow_zero, mul_one]; rfl
  | succ k ih =>
    have heven : n * 2 % 2 = 0 := Nat.mul_mod_left n 2
    have hhalf : n * 2 / 2 = n := Nat.mul_div_cancel n two_pos
    change (ExtendedMantissa.ofMantissaAndAccuracy (n * 2 ^ (k + 1)) .exact >>> k).shiftRightOne = _
    rw [pow_succ', ← mul_assoc, ih]
    simp only [ExtendedMantissa.ofMantissaAndAccuracy, ExtendedMantissa.shiftRightOne, heven, hhalf]
    rfl

/-- Zeros are shifted out without any rounding. -/
theorem shifted_mul (n k : ℕ) : shifted (n * 2 ^ k) k = n := by
  unfold shifted
  rw [shift_mul]
  rfl

/-- A number below a multiple of the digit that is kept is not rounded above it. -/
theorem shifted_le {m n k : ℕ} (h : m ≤ n * 2 ^ k) : shifted m k ≤ n := by
  obtain rfl | hlt := h.eq_or_lt
  · exact (shifted_mul n k).le
  · have hfloor : m / 2 ^ k < n := Nat.div_lt_of_lt_mul (by rwa [mul_comm])
    exact (shifted_bounds m k).2.trans hfloor

/-- A number above such a multiple is not rounded below it. -/
theorem le_shifted {m n k : ℕ} (h : n * 2 ^ k ≤ m) : n ≤ shifted m k :=
  ((Nat.le_div_iff_mul_le (Nat.two_pow_pos k)).mpr h).trans (shifted_bounds m k).1

/-! ## The exponent of the result -/

/-- The exponent of the last digit that is kept. -/
def last (m : ℕ) (e : ℤ) : ℤ := Format.binary64.targetExponent (totalExponent m e)

/-- The last digit is the 53rd one, but never worth less than the least double. -/
theorem last_eq (m : ℕ) (e : ℤ) : last m e = max (m.log2 + e - 52) (-1074) := by
  change max ((m.log2 : ℤ) + 1 + e - (53 : ℕ)) (-1074) = _
  omega

theorem neg_le_last (m : ℕ) (e : ℤ) : -1074 ≤ last m e :=
  (le_max_right _ _).trans_eq (last_eq m e).symm

/-- After the shift 53 digits are left at most. -/
theorem lt_two_pow {m : ℕ} {e : ℤ} {k : ℕ} (hk : e + k = last m e) : m < 2 ^ 53 * 2 ^ k := by
  have hlog : m.log2 + 1 ≤ 53 + k := by
    have := last_eq m e
    omega
  rw [← pow_add]
  exact Nat.lt_log2_self.trans_le (Nat.pow_le_pow_right two_pos hlog)

/-- A number whose last digits are not the last ones there are has 53 of them. -/
theorem two_pow_le {m : ℕ} {e : ℤ} {k : ℕ} (hm : 0 < m) (hk : e + k = last m e)
    (hlast : -1074 < last m e) : 2 ^ 52 * 2 ^ k ≤ m := by
  have hlog : 52 + k = m.log2 := by
    have := last_eq m e
    omega
  rw [← pow_add, hlog]
  exact Nat.log2_self_le hm.ne'

/-- A mantissa that is long enough is shifted until its last digit is worth `2 ^ last`. -/
theorem shiftToTargetExponent_eq {m : ℕ} {e : ℤ} {k : ℕ} (hk : e + k = last m e) :
    shiftToTargetExponent .binary64 m e .exact =
      (ExtendedMantissa.ofMantissaAndAccuracy m .exact >>> k, last m e) := by
  have htarget : Format.binary64.targetExponent (totalExponent m e) = last m e := rfl
  have hshift : (last m e - e).toNat = k := by omega
  simp only [shiftToTargetExponent, shiftToExponent, htarget, hshift, hk]

/-- A mantissa that is short enough is not shifted any further. -/
theorem last_of_lt {n : ℕ} {t : ℤ} (hn : n < 2 ^ 53) (ht : -1074 ≤ t) : last n t ≤ t := by
  have hlog : n.log2 ≤ 52 := by
    obtain rfl | hpos := Nat.eq_zero_or_pos n
    · simp
    · exact Nat.lt_succ_iff.mp ((Nat.log2_lt hpos.ne').mpr hn)
  rw [last_eq]
  omega

/-- A mantissa that fits already is not shifted. -/
theorem shiftToTargetExponent_of_lt {n : ℕ} {t : ℤ} (hn : n < 2 ^ 53) (ht : -1074 ≤ t) :
    shiftToTargetExponent .binary64 n t .exact =
      (ExtendedMantissa.ofMantissaAndAccuracy n .exact, t) := by
  have htarget : Format.binary64.targetExponent (totalExponent n t) = last n t := rfl
  have hshift : (last n t - t).toNat = 0 := by
    have := last_of_lt hn ht
    omega
  simp only [shiftToTargetExponent, shiftToExponent, htarget, hshift, Nat.cast_zero, add_zero]
  rfl

/-- A mantissa that was rounded up to one digit too many is shifted once more. -/
theorem shiftToTargetExponent_two_pow {t : ℤ} (ht : -1074 ≤ t) :
    shiftToTargetExponent .binary64 (2 ^ 53) t .exact =
      (ExtendedMantissa.ofMantissaAndAccuracy (2 ^ 52) .exact, t + 1) := by
  have hlast : t + (1 : ℕ) = last (2 ^ 53) t := by
    rw [last_eq, Nat.log2_two_pow]
    omega
  rw [shiftToTargetExponent_eq hlast, ← hlast]
  exact congrArg (·, _) (shift_mul (2 ^ 52) 1)

/-- What comes out of the rounding: the shifted mantissa, and the one that got too long by
being rounded up is shifted once more. -/
theorem roundWithAccuracy_eq (s : Sign) {m : ℕ} {e : ℤ} {k : ℕ} (hk : e + k = last m e) :
    roundWithAccuracy .binary64 s m e .exact =
      if h : shifted m k = 0 then .zero s
      else if shifted m k < 2 ^ 53 then
        .finite s (shifted m k) (last m e) (Nat.pos_of_ne_zero h)
      else .finite s (2 ^ 52) (last m e + 1) (by decide) := by
  have hlast := neg_le_last m e
  have hle : shifted m k ≤ 2 ^ 53 := shifted_le (lt_two_pow hk).le
  have hresult {p : ExtendedMantissa × ℤ}
      (hp : shiftToTargetExponent .binary64 (shifted m k) (last m e) .exact = p) :
      roundWithAccuracy .binary64 s m e .exact = if h : p.1.mantissa = 0 then .zero s
        else .finite s p.1.mantissa p.2 (Nat.pos_of_ne_zero h) := by
    subst hp
    unfold roundWithAccuracy
    rw [shiftToTargetExponent_eq hk]
    rfl
  by_cases hlt : shifted m k < 2 ^ 53
  -- the mantissa goes through the same shift again, which has nothing to do unless rounding up
  -- has carried into a new digit
  · rw [hresult (shiftToTargetExponent_of_lt hlt hlast)]
    by_cases hz : shifted m k = 0
    · rw [dif_pos hz]
      exact dif_pos hz
    · rw [dif_neg hz, if_pos hlt]
      exact dif_neg hz
  · have htop : shifted m k = 2 ^ 53 := by omega
    have hz : shifted m k ≠ 0 := by omega
    have hfull : ¬2 ^ 52 = 0 := by decide
    rw [hresult (htop ▸ shiftToTargetExponent_two_pow hlast), dif_neg hz, if_neg hlt]
    exact dif_neg hfull

/-- A rounded number is the shifted mantissa, with the sign, times the worth of the last digit. -/
theorem read_roundWithAccuracy (s : Sign) {m : ℕ} {e : ℤ} {k : ℕ} (hk : e + k = last m e) :
    read (roundWithAccuracy .binary64 s m e .exact) = s.apply (shifted m k) * 2 ^ last m e := by
  have hle : shifted m k ≤ 2 ^ 53 := shifted_le (lt_two_pow hk).le
  rw [roundWithAccuracy_eq s hk]
  by_cases hz : shifted m k = 0
  · have happly : s.apply (0 : ℕ) = 0 := by cases s <;> rfl
    rw [dif_pos hz, hz, happly, read_zero, Int.cast_zero, zero_mul]
  by_cases hlt : shifted m k < 2 ^ 53
  · rw [dif_neg hz, if_pos hlt]
    rfl
  · have htop : shifted m k = 2 ^ 53 := by omega
    rw [dif_neg hz, if_neg hlt, htop]
    cases s with
    | positive =>
      rw [read_positive, zpow_add_one₀ two_ne_zero]
      simp only [Sign.apply]
      push_cast
      ring
    | negative =>
      rw [read_negative, zpow_add_one₀ two_ne_zero]
      simp only [Sign.apply]
      push_cast
      ring

/-- What comes out of the rounding is in canonical form. -/
theorem canonical_roundWithAccuracy (s : Sign) {m : ℕ} {e : ℤ} {k : ℕ} (hm : 0 < m)
    (hk : e + k = last m e) : Canonical (roundWithAccuracy .binary64 s m e .exact) := by
  have hlast := neg_le_last m e
  rw [roundWithAccuracy_eq s hk]
  by_cases hz : shifted m k = 0
  · rw [dif_pos hz]
    trivial
  by_cases hlt : shifted m k < 2 ^ 53
  · rw [dif_neg hz, if_pos hlt]
    refine ⟨hlt, hlast, ?_⟩
    obtain h | h := hlast.eq_or_lt
    · exact Or.inr h.symm
    · exact Or.inl (le_shifted (two_pow_le hm hk h))
  · rw [dif_neg hz, if_neg hlt]
    exact ⟨by decide, by omega, Or.inl le_rfl⟩

/-! ## Doubles that are not stepped over -/

/-- A double that is not negative is a multiple of the last digit, or it is too small to have
as many digits as that one is the last of. -/
theorem Representable.multiple {d : ℚ} (h : Representable d) (hd : 0 ≤ d) (t : ℤ) :
    (∃ n : ℕ, d = n * 2 ^ t) ∨ (-1074 < t ∧ d ≤ 2 ^ 52 * 2 ^ t) := by
  obtain ⟨m, e, hm, he, rfl⟩ := h
  have hpos : (0 : ℚ) < 2 ^ e := by positivity
  have hm0 : 0 ≤ m := by exact_mod_cast nonneg_of_mul_nonneg_left hd hpos
  obtain hte | het := le_or_gt t e
  · obtain ⟨k, hk⟩ := Int.eq_ofNat_of_zero_le (sub_nonneg.mpr hte)
    obtain ⟨n, rfl⟩ := Int.eq_ofNat_of_zero_le hm0
    refine Or.inl ⟨n * 2 ^ k, ?_⟩
    have he' : e = k + t := by omega
    rw [he', zpow_add₀ two_ne_zero, zpow_natCast]
    push_cast
    ring
  · refine Or.inr ⟨by omega, ?_⟩
    have hm' : (m : ℚ) ≤ 2 ^ 53 := by exact_mod_cast (le_abs_self m).trans hm
    have hpow : (2 : ℚ) ^ e ≤ 2 ^ (t - 1) := zpow_le_zpow_right₀ one_le_two (by omega)
    calc (m : ℚ) * 2 ^ e ≤ 2 ^ 53 * 2 ^ (t - 1) := by gcongr
      _ = 2 ^ 52 * 2 ^ t := by rw [zpow_sub_one₀ two_ne_zero]; ring

/-- Numbers of different exponents are compared with the digits between them written out, here with
the greater exponent above. -/
theorem mul_zpow_le_iff {m n : ℕ} {e : ℤ} {k : ℕ} :
    (m : ℚ) * 2 ^ e ≤ n * 2 ^ (e + k) ↔ m ≤ n * 2 ^ k := by
  have hpos : (0 : ℚ) < 2 ^ e := by positivity
  rw [zpow_add₀ two_ne_zero, zpow_natCast, mul_comm ((2 : ℚ) ^ e), ← mul_assoc,
    mul_le_mul_iff_left₀ hpos]
  exact_mod_cast Iff.rfl

/-- The same with the greater exponent below. -/
theorem le_mul_zpow_iff {m n : ℕ} {e : ℤ} {k : ℕ} :
    (n : ℚ) * 2 ^ (e + k) ≤ m * 2 ^ e ↔ n * 2 ^ k ≤ m := by
  have hpos : (0 : ℚ) < 2 ^ e := by positivity
  rw [zpow_add₀ two_ne_zero, zpow_natCast, mul_comm ((2 : ℚ) ^ e), ← mul_assoc,
    mul_le_mul_iff_left₀ hpos]
  exact_mod_cast Iff.rfl

/-- Rounding does not step over a double that lies above. -/
theorem shifted_le_double {m : ℕ} {e : ℤ} {k : ℕ} {d : ℚ} (hm : 0 < m) (hk : e + k = last m e)
    (hd : Representable d) (h : m * 2 ^ e ≤ d) : shifted m k * 2 ^ last m e ≤ d := by
  have hd0 : 0 ≤ d := le_trans (by positivity) h
  have hstep {n : ℕ} (hn : (m : ℚ) * 2 ^ e ≤ n * 2 ^ last m e) :
      (shifted m k : ℚ) * 2 ^ last m e ≤ n * 2 ^ last m e := by
    rw [← hk] at hn
    have hle : (shifted m k : ℚ) ≤ n := by exact_mod_cast shifted_le (mul_zpow_le_iff.mp hn)
    gcongr
  obtain ⟨n, rfl⟩ | ⟨hlast, hsmall⟩ := hd.multiple hd0 (last m e)
  · exact hstep h
  · have hfull := le_mul_zpow_iff (e := e).mpr (two_pow_le hm hk hlast)
    rw [hk] at hfull
    have htop : (m : ℚ) * 2 ^ e ≤ (2 ^ 52 : ℕ) * 2 ^ last m e := by
      push_cast
      exact h.trans hsmall
    exact ((hstep htop).trans hfull).trans h

/-- Rounding does not step over a double that lies below. -/
theorem double_le_shifted {m : ℕ} {e : ℤ} {k : ℕ} {d : ℚ} (hm : 0 < m) (hk : e + k = last m e)
    (hd : Representable d) (h : d ≤ m * 2 ^ e) : d ≤ shifted m k * 2 ^ last m e := by
  obtain hneg | hd0 := lt_or_ge d 0
  · exact hneg.le.trans (by positivity)
  have hstep {n : ℕ} (hn : n * 2 ^ k ≤ m) :
      (n : ℚ) * 2 ^ last m e ≤ shifted m k * 2 ^ last m e := by
    have hle : (n : ℚ) ≤ shifted m k := by exact_mod_cast le_shifted hn
    gcongr
  obtain ⟨n, rfl⟩ | ⟨hlast, hsmall⟩ := hd.multiple hd0 (last m e)
  · rw [← hk] at h
    exact hstep (le_mul_zpow_iff.mp h)
  · have hfull := hstep (two_pow_le hm hk hlast)
    push_cast at hfull
    exact hsmall.trans hfull

/-! ## Rounding with a sign -/

/-- A number with enough digits is rounded to a double. -/
theorem rounded_roundWithAccuracy (s : Sign) {m : ℕ} {e : ℤ} (hm : 0 < m) (he : e ≤ last m e) :
    Rounded (roundWithAccuracy .binary64 s m e .exact) (s.apply m * 2 ^ e) := by
  obtain ⟨k, hk⟩ := Int.eq_ofNat_of_zero_le (sub_nonneg.mpr he)
  have hk' : e + k = last m e := by omega
  have hread := read_roundWithAccuracy s hk'
  refine ⟨canonical_roundWithAccuracy s hm hk', fun d hd h => ?_, fun d hd h => ?_⟩
  all_goals rw [hread]
  -- with a negative sign, the two bounds of the digits change places
  · cases s with
    | positive => exact shifted_le_double hm hk' hd h
    | negative =>
      simp only [Sign.apply, Int.cast_neg, Int.cast_natCast, neg_mul] at h ⊢
      exact neg_le.mp (double_le_shifted hm hk' hd.neg (neg_le.mp h))
  · cases s with
    | positive => exact double_le_shifted hm hk' hd h
    | negative =>
      simp only [Sign.apply, Int.cast_neg, Int.cast_natCast, neg_mul] at h ⊢
      exact le_neg.mp (shifted_le_double hm hk' hd.neg (le_neg.mp h))

/-- Digits added at the end of a mantissa do not change the number. -/
theorem apply_shiftLeft (s : Sign) (m k : ℕ) (e : ℤ) :
    (s.apply ((m <<< k : ℕ) : ℤ) : ℚ) * 2 ^ (e - k) = s.apply m * 2 ^ e := by
  have hpow : (2 : ℚ) ^ e = 2 ^ k * 2 ^ (e - k) := by
    rw [← zpow_natCast, ← zpow_add₀ two_ne_zero, add_sub_cancel]
  rw [Nat.shiftLeft_eq, hpow]
  cases s <;> simp only [Sign.apply] <;> push_cast <;> ring

/-- Digits added at the end do not move the last digit that a double keeps. -/
theorem last_shiftLeft {m : ℕ} (hm : 0 < m) (k : ℕ) (e : ℤ) : last (m <<< k) (e - k) = last m e := by
  have hpos : m * 2 ^ k ≠ 0 := by positivity
  have hlog : (m * 2 ^ k).log2 = m.log2 + k := by
    refine (Nat.log2_eq_iff hpos).mpr ⟨?_, ?_⟩
    · rw [pow_add]
      exact Nat.mul_le_mul_right _ (Nat.log2_self_le hm.ne')
    · rw [add_right_comm, pow_add]
      exact Nat.mul_lt_mul_of_pos_right Nat.lt_log2_self (Nat.two_pow_pos k)
  rw [last_eq, last_eq, Nat.shiftLeft_eq, hlog]
  omega

/-- A number is rounded to a double, with digits added where it has too few. -/
theorem rounded_round (s : Sign) {m : ℕ} (hm : 0 < m) (e : ℤ) :
    Rounded (UnpackedFloat.round .binary64 s m e) (s.apply m * 2 ^ e) := by
  have hpos : 0 < m <<< (e - last m e).toNat := by
    rw [Nat.shiftLeft_eq]
    positivity
  have hlast : e - ((e - last m e).toNat : ℤ) ≤
      last (m <<< (e - last m e).toNat) (e - (e - last m e).toNat) := by
    rw [last_shiftLeft hm]
    omega
  rw [← apply_shiftLeft s m (e - last m e).toNat]
  exact rounded_roundWithAccuracy s hpos hlast

/-- A whole mantissa, of any sign or zero, is rounded to a double. -/
theorem rounded_normalize (m e : ℤ) (zero : Sign) :
    Rounded (UnpackedFloat.normalize .binary64 m e zero) (m * 2 ^ e) := by
  unfold UnpackedFloat.normalize
  obtain hneg | rfl | hpos := lt_trichotomy m 0
  · have hm : Sign.negative.apply ((-m).toNat : ℤ) = m := by
      simp only [Sign.apply]
      omega
    rw [Int.compare_eq_lt.mpr hneg]
    have h := rounded_round .negative (show 0 < (-m).toNat by omega) e
    rwa [hm] at h
  · rw [Int.cast_zero, zero_mul]
    exact Canonical.rounded (u := .zero zero) trivial
  · have hm : Sign.positive.apply (m.toNat : ℤ) = m := by
      simp only [Sign.apply]
      omega
    rw [Int.compare_eq_gt.mpr hpos]
    have h := rounded_round .positive (show 0 < m.toNat by omega) e
    rwa [hm] at h

end TokenCustody.Double
