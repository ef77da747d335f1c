/-
TokenCustody.Proofs.Double.Value — doubles as rational numbers.

A finite double has a value. Sums, differences and products of doubles
and the doubles of natural numbers have the exact value up to rounding,
which does not step over a double (`Rounds`), as long as they stay away
from the greatest doubles; 2 to the power of 128 is far enough here.
Comparing doubles is comparing their values, and cutting a double to 64
bits is rounding its value down.
-/
import Mathlib.Algebra.Order.Floor.Semifield
import TokenCustody.Proofs.Double.Arithmetic

namespace TokenCustody.Double

open Float.Model
open Float.Model.UnpackedFloat (Sign)

/-- The number that a double stands for, and 0 for infinities and what is no number. -/
def value (x : Float) : ℚ := read x.toModel.unpack

/-- A finite double is unpacked into its canonical form. -/
theorem canonical_of_isFinite {x : Float} (hx : x.isFinite = true) : Canonical x.toModel.unpack :=
  canonical_unpack hx

/-- The value of a finite double has no more digits than a double has. -/
theorem representable_value {x : Float} (hx : x.isFinite = true) : Representable (value x) :=
  (canonical_of_isFinite hx).representable

/-- A double is what rounding makes of a number, without stepping over another double. -/
structure Rounds (x : Float) (q : ℚ) : Prop where
  finite : x.isFinite = true
  le : ∀ d, Representable d → q ≤ d → value x ≤ d
  ge : ∀ d, Representable d → d ≤ q → d ≤ value x

/-- A number that a double can stand for is kept. -/
theorem Rounds.value_eq {x : Float} {q : ℚ} (h : Rounds x q) (hq : Representable q) :
    value x = q :=
  le_antisymm (h.le q hq le_rfl) (h.ge q hq le_rfl)

theorem Rounds.nonpos {x : Float} {q : ℚ} (h : Rounds x q) (hq : q ≤ 0) : value x ≤ 0 :=
  h.le 0 representable_zero hq

/-- Rounding keeps the sign: zero is a double, so it is not stepped over. -/
theorem Rounds.nonneg {x : Float} {q : ℚ} (h : Rounds x q) (hq : 0 ≤ q) : 0 ≤ value x :=
  h.ge 0 representable_zero hq

/-- A bound that is a double itself goes through the rounding on both sides. -/
theorem Rounds.abs_value_le {x : Float} {q d : ℚ} (h : Rounds x q) (hd : Representable d)
    (hq : |q| ≤ d) : |value x| ≤ d :=
  abs_le.mpr ⟨h.ge _ hd.neg (abs_le.mp hq).1, h.le _ hd (abs_le.mp hq).2⟩

/-! ## Arithmetic -/

/-- What the arithmetic gives is still that after it was packed into 64 bits, away from the greatest
doubles. -/
theorem rounds_of_rounded {u : UnpackedFloat} {q : ℚ} (h : Rounded u q) (hq : |q| ≤ 2 ^ 128) :
    Rounds (.ofModel (.pack u)) q := by
  have hlimit : Representable (2 ^ 128) := ⟨1, 128, by decide, by decide, by norm_num⟩
  have hbound : |read u| ≤ 2 ^ 128 := abs_le.mpr
    ⟨h.ge _ hlimit.neg (abs_le.mp hq).1, h.le _ hlimit (abs_le.mp hq).2⟩
  have hpow : (2 : ℚ) ^ 128 ≤ 2 ^ 1023 := pow_le_pow_right₀ one_le_two (by decide)
  have hunpack : (Float.Model.pack u).unpack = u := unpack_pack h.canonical (hbound.trans hpow)
  have hvalue : value (.ofModel (.pack u)) = read u := congrArg read hunpack
  refine ⟨?_, fun d hd hle => hvalue ▸ h.le d hd hle, fun d hd hge => hvalue ▸ h.ge d hd hge⟩
  change (Float.Model.pack u).unpack.isFinite = true
  rw [hunpack]
  have hcanonical := h.canonical
  cases u with
  | zero | finite => rfl
  | _ => exact hcanonical.elim

variable {x y : Float}

/-- A sum of doubles is the exact sum up to rounding. -/
theorem rounds_add (hx : x.isFinite = true) (hy : y.isFinite = true)
    (h : |value x + value y| ≤ 2 ^ 128) : Rounds (x + y) (value x + value y) :=
  rounds_of_rounded (rounded_add (canonical_of_isFinite hx) (canonical_of_isFinite hy)) h

/-- A difference of doubles is the exact difference up to rounding. -/
theorem rounds_sub (hx : x.isFinite = true) (hy : y.isFinite = true)
    (h : |value x - value y| ≤ 2 ^ 128) : Rounds (x - y) (value x - value y) :=
  rounds_of_rounded (rounded_sub (canonical_of_isFinite hx) (canonical_of_isFinite hy)) h

/-- A product of doubles is the exact product up to rounding. -/
theorem rounds_mul (hx : x.isFinite = true) (hy : y.isFinite = true)
    (h : |value x * value y| ≤ 2 ^ 128) : Rounds (x * y) (value x * value y) :=
  rounds_of_rounded (rounded_mul (canonical_of_isFinite hx) (canonical_of_isFinite hy)) h

/-! ## Natural numbers -/

/-- Numbers of 64 bits stay away from the greatest doubles. -/
theorem abs_natCast_le {n : ℕ} (hn : n ≤ 2 ^ 64) : |(n : ℚ)| ≤ 2 ^ 128 := by
  have hn' : (n : ℚ) ≤ 2 ^ 64 := by exact_mod_cast hn
  rw [Nat.abs_cast]
  exact hn'.trans (by norm_num)

/-- A number of 64 bits is converted up to rounding. -/
theorem rounds_toFloat (n : UInt64) : Rounds n.toFloat n.toNat := by
  have hexact := rounded_normalize n.toNat 0 .positive
  rw [zpow_zero, mul_one] at hexact
  exact rounds_of_rounded hexact (abs_natCast_le n.toNat_lt.le)

/-- A short number is converted and multiplied by one. -/
theorem rounds_ofScientific_of_lt {n : ℕ} (hn : n < 2 ^ 53) :
    Rounds (Float.ofScientific n false 0) n := by
  have hone : (Float.ofBits 0x3FF0000000000000).isFinite = true := by decide +kernel
  have hvalue : value (Float.ofBits 0x3FF0000000000000) = 1 := by decide +kernel
  have hrounds := rounds_toFloat n.toUInt64
  have hnat : n.toUInt64.toNat = n := Nat.mod_eq_of_lt (by omega)
  rw [hnat] at hrounds
  have hmul := rounds_mul hrounds.finite hone
  rw [hrounds.value_eq (representable_natCast hn.le), hvalue, mul_one] at hmul
  unfold Float.ofScientific
  rw [dif_pos ⟨hn, by decide⟩]
  exact hmul (abs_natCast_le (by omega))

/-- A long number is rounded with digits added. -/
theorem rounds_ofScientific_of_ge {n : ℕ} (hlong : 2 ^ 53 ≤ n) (hn : n ≤ 2 ^ 64) :
    Rounds (Float.ofScientific n false 0) n := by
  have hpos : 0 < n <<< 53 * 1 := by
    rw [Nat.shiftLeft_eq]
    positivity
  have hlast : (-53 : ℤ) ≤ last (n <<< 53 * 1) (-53) := by
    have hlog : 53 ≤ (n <<< 53 * 1).log2 := by
      rw [Nat.le_log2 hpos.ne', Nat.shiftLeft_eq]
      omega
    rw [last_eq]
    omega
  have hvalue : (Sign.positive.apply ((n <<< 53 * 1 : ℕ) : ℤ) : ℚ) * 2 ^ (-53 : ℤ) = n := by
    have hshift := apply_shiftLeft .positive n 53 0
    have hexponent : (0 : ℤ) - (53 : ℕ) = -53 := rfl
    rw [hexponent, zpow_zero, mul_one] at hshift
    rw [mul_one, hshift]
    rfl
  have hrounded := rounded_roundWithAccuracy .positive hpos hlast
  rw [hvalue] at hrounded
  -- the power of ten is 1, but 53 digits are added all the same before the rounding
  have hresult : UnpackedFloat.ofScientific .binary64 n 0 =
      UnpackedFloat.roundWithAccuracy .binary64 .positive (n <<< 53 * 1) (-53) .exact := by
    have hsmall : ¬(0 : ℤ) < -((2 : ℤ) ^ 11 + n.log2) := by omega
    unfold UnpackedFloat.ofScientific
    rw [dif_neg (by omega), if_neg (by decide), if_neg hsmall, if_pos le_rfl]
    rfl
  unfold Float.ofScientific
  rw [dif_neg (fun h => by omega)]
  change Rounds (.ofModel (.pack (UnpackedFloat.ofScientific .binary64 n 0))) n
  rw [hresult]
  exact rounds_of_rounded hrounded (abs_natCast_le hn)

/-- A literal of up to 64 bits stands for its number up to rounding. -/
theorem rounds_ofNat {n : ℕ} (hn : n ≤ 2 ^ 64) : Rounds (Float.ofNat n) n := by
  obtain hshort | hlong := lt_or_ge n (2 ^ 53)
  · exact rounds_ofScientific_of_lt hshort
  · exact rounds_ofScientific_of_ge hlong hn

/-! ## Comparing -/

/-- Of two positive doubles the one with the greater exponent is greater. -/
theorem mul_zpow_lt_of_exponent_lt {m m' : ℕ} {e e' : ℤ} (hm : m < 2 ^ 53)
    (hm' : 2 ^ 52 ≤ m' ∨ e' = -1074) (hmin : -1074 ≤ e) (he : e < e') :
    (m : ℚ) * 2 ^ e < m' * 2 ^ e' := by
  have hlong : (2 : ℚ) ^ 52 ≤ m' := by exact_mod_cast hm'.resolve_right (by omega)
  have hshort : (m : ℚ) < 2 ^ 53 := by exact_mod_cast hm
  have hpow : (2 : ℚ) ^ (e + 1) ≤ 2 ^ e' := zpow_le_zpow_right₀ one_le_two (by omega)
  calc (m : ℚ) * 2 ^ e < 2 ^ 53 * 2 ^ e := by gcongr
    _ = 2 ^ 52 * 2 ^ (e + 1) := by rw [zpow_add_one₀ two_ne_zero]; ring
    _ ≤ m' * 2 ^ e' := by gcongr

/-- Canonical forms are compared as numbers by their exponents, and by their mantissas only where
the exponents are the same. -/
theorem compare_eq_lt_iff {s s' : Sign} {m m' : ℕ} {e e' : ℤ} {hm : 0 < m} {hm' : 0 < m'}
    (h : Canonical (.finite s m e hm)) (h' : Canonical (.finite s' m' e' hm')) :
    (compare e e').then (compare m m') = .lt ↔ (m : ℚ) * 2 ^ e < m' * 2 ^ e' := by
  obtain hlt | rfl | hgt := lt_trichotomy e e'
  · rw [Int.compare_eq_lt.mpr hlt]
    exact iff_of_true rfl (mul_zpow_lt_of_exponent_lt h.1 h'.2.2 h.2.1 hlt)
  · have hpos : (0 : ℚ) < 2 ^ e := by positivity
    rw [Int.compare_eq_eq.mpr rfl, mul_lt_mul_iff_left₀ hpos]
    exact_mod_cast Nat.compare_eq_lt
  · rw [Int.compare_eq_gt.mpr hgt]
    exact iff_of_false nofun (mul_zpow_lt_of_exponent_lt h'.1 h.2.2 h'.2.1 hgt).not_gt

theorem swap_then_compare (e e' : ℤ) (m m' : ℕ) :
    ((compare e e').then (compare m m')).swap = (compare e' e).then (compare m' m) := by
  rw [Ordering.swap_then, ← Std.OrientedCmp.eq_swap, ← Std.OrientedCmp.eq_swap]

/-- In canonical form the comparison by sign, exponent and mantissa is the one of the numbers. -/
theorem lt_iff_read {u v : UnpackedFloat} (hu : Canonical u) (hv : Canonical v) :
    u.lt v = true ↔ read u < read v := by
  have hpos {m : ℕ} (e : ℤ) (hm : 0 < m) : (0 : ℚ) < m * 2 ^ e := by positivity
  unfold UnpackedFloat.lt
  rw [beq_iff_eq]
  cases u with
  | zero s =>
    cases v with
    | zero s' => exact iff_of_false nofun (lt_irrefl 0)
    | finite s' m' e' hm' =>
      have hmag := hpos e' hm'
      cases s' with
      | positive => exact iff_of_true rfl hmag
      | negative =>
        refine iff_of_false nofun ?_
        rw [read_zero, read_negative]
        linarith
    | _ => exact hv.elim
  | finite s m e hm =>
    have hmag := hpos e hm
    cases v with
    | zero s' =>
      cases s with
      | positive => exact iff_of_false nofun hmag.not_gt
      | negative =>
        refine iff_of_true rfl ?_
        rw [read_zero, read_negative]
        linarith
    | finite s' m' e' hm' =>
      have hmag' := hpos e' hm'
      cases s with
      | positive =>
        cases s' with
        | positive =>
          rw [read_positive, read_positive, ← compare_eq_lt_iff hu hv]
          exact Option.some_inj
        | negative =>
          refine iff_of_false nofun ?_
          rw [read_positive, read_negative]
          linarith
      | negative =>
        cases s' with
        | positive =>
          refine iff_of_true rfl ?_
          rw [read_positive, read_negative]
          linarith
        | negative =>
          rw [read_negative, read_negative, neg_lt_neg_iff, ← compare_eq_lt_iff hv hu,
            ← swap_then_compare]
          exact Option.some_inj
    | _ => exact hv.elim
  | _ => exact hu.elim

theorem lt_iff_unpack : x < y ↔ x.toModel.unpack.lt y.toModel.unpack = true := by
  change decide (x.toModel < y.toModel) = true ↔ _
  exact decide_eq_true_iff

/-- **Finite doubles compare as their values do.** -/
theorem lt_iff (hx : x.isFinite = true) (hy : y.isFinite = true) : x < y ↔ value x < value y :=
  lt_iff_unpack.trans (lt_iff_read (canonical_of_isFinite hx) (canonical_of_isFinite hy))

/-! ## What is not finite -/

theorem isNaN_of_isFinite (hx : x.isFinite = true) : x.isNaN = false := by
  change x.toModel.unpack.isFinite = true at hx
  change x.toModel.unpack.isNaN = false
  cases hu : x.toModel.unpack with
  | zero | finite => rfl
  | infinity | notANumber => rw [hu] at hx; cases hx

/-- There is only one unpacked form of what is no number. -/
theorem unpack_of_isNaN (hx : x.isNaN = true) : x.toModel.unpack = .notANumber := by
  change x.toModel.unpack.isNaN = true at hx
  cases hu : x.toModel.unpack with
  | notANumber => rfl
  | zero | finite | infinity => rw [hu] at hx; cases hx

theorem isNaN_pack_notANumber : (Float.Model.pack .notANumber).isNaN = true := by
  decide +kernel

/-- What is no number makes a product no number. -/
theorem isNaN_mul (hy : y.isNaN = true) : (x * y).isNaN = true := by
  have hmul : x.toModel.unpack.mul .binary64 .notANumber = .notANumber := by
    cases x.toModel.unpack <;> rfl
  change (Float.Model.pack (x.toModel.unpack.mul .binary64 y.toModel.unpack)).isNaN = true
  rw [unpack_of_isNaN hy, hmul, isNaN_pack_notANumber]

/-- What is no number makes a sum no number. -/
theorem isNaN_add (hy : y.isNaN = true) : (x + y).isNaN = true := by
  have hadd : x.toModel.unpack.add .binary64 .notANumber = .notANumber := by
    cases x.toModel.unpack <;> rfl
  change (Float.Model.pack (x.toModel.unpack.add .binary64 y.toModel.unpack)).isNaN = true
  rw [unpack_of_isNaN hy, hadd, isNaN_pack_notANumber]

/-- What is no number is cut to zero. -/
theorem toNat_toUInt64_of_isNaN (hx : x.isNaN = true) : x.toUInt64.toNat = 0 := by
  change x.toModel.unpack.toUInt64.toNat = 0
  rw [unpack_of_isNaN hx]
  rfl

/-- An infinite double lies above all finite ones and is cut to the greatest number, or it lies
below them and is cut to zero. -/
inductive Infinite (x : Float) : Prop
  | above (h : ∀ y : Float, y.isFinite = true → y < x ∧ ¬x < y)
      (hcut : x.toUInt64.toNat = 2 ^ 64 - 1)
  | below (h : ∀ y : Float, y.isFinite = true → x < y) (hcut : x.toUInt64.toNat = 0)

/-- A double is no number, or finite, or beyond all finite ones. -/
theorem isNaN_or_isFinite_or_infinite (x : Float) :
    x.isNaN = true ∨ x.isFinite = true ∨ Infinite x := by
  have hfinite {v : UnpackedFloat} (hv : v.isFinite = true) :
      v.lt (.infinity .positive) = true ∧ UnpackedFloat.lt (.infinity .positive) v = false ∧
        UnpackedFloat.lt (.infinity .negative) v = true := by
    cases v with
    | zero | finite => exact ⟨rfl, rfl, rfl⟩
    | infinity | notANumber => cases hv
  cases hu : x.toModel.unpack with
  | notANumber => exact Or.inl (congrArg UnpackedFloat.isNaN hu)
  | zero | finite => exact Or.inr (Or.inl (congrArg UnpackedFloat.isFinite hu))
  | infinity s =>
    refine Or.inr (Or.inr ?_)
    cases s with
    | positive =>
      refine .above (fun y hy => ?_) ?_
      · obtain ⟨hlt, hge, -⟩ := hfinite hy
        rw [lt_iff_unpack, lt_iff_unpack, hu]
        exact ⟨hlt, ne_true_of_eq_false hge⟩
      · change x.toModel.unpack.toUInt64.toNat = 2 ^ 64 - 1
        rw [hu]
        rfl
    | negative =>
      refine .below (fun y hy => ?_) ?_
      · rw [lt_iff_unpack, hu]
        exact (hfinite hy).2.2
      · change x.toModel.unpack.toUInt64.toNat = 0
        rw [hu]
        rfl

/-! ## Cutting to whole numbers -/

/-- Shifting the digits behind the point out rounds the magnitude down. -/
theorem roundToInt_eq (s : Sign) (m : ℕ) (e : ℤ) :
    UnpackedFloat.roundToInt s m e = s.apply (⌊(m : ℚ) * 2 ^ e⌋₊ : ℕ) := by
  have hcut : UnpackedFloat.roundToInt s m e =
      s.apply ((m <<< (e - 0).toNat / 2 ^ (0 - (e - (e - 0).toNat)).toNat : ℕ) : ℤ) :=
    congrArg (fun n : ℕ => s.apply (n : ℤ)) (mantissa_shift _ _)
  rw [hcut]
  congr 2
  obtain ⟨k, rfl | rfl⟩ := e.eq_nat_or_neg
  · have hkept : (0 - ((k : ℤ) - ((k : ℤ) - 0).toNat)).toNat = 0 := by omega
    have hadded : ((k : ℤ) - 0).toNat = k := by omega
    rw [hkept, hadded, pow_zero, Nat.div_one, Nat.shiftLeft_eq, zpow_natCast]
    exact_mod_cast (Nat.floor_natCast (m * 2 ^ k)).symm
  · have hcut : (0 - (-(k : ℤ) - (-(k : ℤ) - 0).toNat)).toNat = k := by omega
    have hadded : (-(k : ℤ) - 0).toNat = 0 := by omega
    have hpow : (2 : ℚ) ^ k = (2 ^ k : ℕ) := by push_cast; rfl
    rw [hcut, hadded, Nat.shiftLeft_zero, zpow_neg, zpow_natCast, ← div_eq_mul_inv, hpow,
      Nat.floor_div_eq_div]

/-- Clamping to 64 bits takes the least of the number and the greatest one that fits. -/
theorem toNat_ofNatClamp (n : ℕ) : (UInt64.ofNatClamp n).toNat = min n (2 ^ 64 - 1) := by
  obtain h | h := lt_or_ge n UInt64.size
  · rw [UInt64.toNat_ofNatClamp_of_lt h]
    exact (min_eq_left (Nat.le_sub_one_of_lt h)).symm
  · rw [UInt64.toNat_ofNatClamp_of_le h]
    exact (min_eq_right ((Nat.sub_le _ _).trans h)).symm

/-- What lies below zero is cut to zero, and what takes more than 64 bits to the greatest number
of 64 bits. -/
theorem toNat_toUInt64 (hx : x.isFinite = true) :
    x.toUInt64.toNat = min ⌊value x⌋₊ (2 ^ 64 - 1) := by
  have hcanonical := canonical_of_isFinite hx
  change (UInt64.ofNatClamp (x.toModel.unpack.toInt 0 _).toNat).toNat = _
  rw [toNat_ofNatClamp, value]
  congr 1
  cases hu : x.toModel.unpack with
  | zero s => rw [read_zero, Nat.floor_zero]; rfl
  | finite s m e hm =>
    change (UnpackedFloat.roundToInt s m e).toNat = _
    rw [roundToInt_eq]
    cases s with
    | positive => rfl
    | negative =>
      have hpos : (0 : ℚ) ≤ m * 2 ^ e := by positivity
      rw [read_negative, Nat.floor_of_nonpos (neg_nonpos.mpr hpos)]
      simp only [Sign.apply]
      omega
  | _ =>
    rw [hu] at hcanonical
    exact hcanonical.elim

theorem toNat_toUInt64_le_max (x : Float) : x.toUInt64.toNat ≤ 2 ^ 64 - 1 :=
  Nat.le_sub_one_of_lt x.toUInt64.toNat_lt

/-- A bound on the value of a double is one on the number that is cut from it. -/
theorem toNat_toUInt64_le {n : ℕ} (h : x.isNaN = true ∨ x.isFinite = true ∧ value x ≤ n) :
    x.toUInt64.toNat ≤ n := by
  obtain hnan | ⟨hx, hle⟩ := h
  · rw [toNat_toUInt64_of_isNaN hnan]
    exact Nat.zero_le n
  · rw [toNat_toUInt64 hx]
    exact (min_le_left _ _).trans (Nat.floor_le_of_le hle)

/-- What a double is cut to is a double, if it is not the greatest number. -/
theorem representable_toUInt64 (h : x.toUInt64.toNat < 2 ^ 64 - 1) :
    Representable x.toUInt64.toNat := by
  obtain hnan | hx | hinf := isNaN_or_isFinite_or_infinite x
  · rw [toNat_toUInt64_of_isNaN hnan]
    exact representable_natCast (Nat.zero_le _)
  · rw [toNat_toUInt64 hx] at h ⊢
    rw [min_eq_left (min_lt_iff.mp h |>.resolve_right (lt_irrefl _)).le]
    exact (representable_value hx).floor
  · cases hinf with
    | above _ hcut => exact absurd hcut h.ne
    | below _ hcut =>
      rw [hcut]
      exact representable_natCast (Nat.zero_le _)

end TokenCustody.Double
