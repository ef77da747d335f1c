/-
TokenCustody.Proofs.Double.Arithmetic — the arithmetic behind doubles.

A double is unpacked into a sign, a mantissa and an exponent, the numbers
are added or multiplied exactly, and the result is rounded and packed
again. Here are the two halves of that: what comes out of the arithmetic
is the exact result up to rounding (`rounded_add`, `rounded_sub`,
`rounded_mul`), and packing loses nothing of it as long as the exponent
fits (`unpack_pack`). The other way round, whatever finite double is
unpacked has its canonical form (`canonical_unpack`).
-/
import TokenCustody.Proofs.Double.Rounding

namespace TokenCustody.Double

open Float.Model
open Float.Model.UnpackedFloat (Sign)

/-! ## Sums and products -/

/-- A number written with more digits than it has. -/
theorem read_finite_eq (s : Sign) {m : ℕ} {e t : ℤ} (hm : 0 < m) (h : t ≤ e) :
    read (.finite s m e hm) = s.apply ((m <<< (e - t).toNat : ℕ) : ℤ) * 2 ^ t := by
  obtain ⟨k, hk⟩ := Int.eq_ofNat_of_zero_le (sub_nonneg.mpr h)
  have ht : e - (k : ℤ) = t := by omega
  have hshift := apply_shiftLeft s m k e
  rw [ht] at hshift
  rw [hk, Int.toNat_natCast, hshift]
  rfl

/-- A sum is computed exactly, at the lesser of the two exponents, and rounded. -/
theorem rounded_add {x y : UnpackedFloat} (hx : Canonical x) (hy : Canonical y) :
    Rounded (x.add .binary64 y) (read x + read y) := by
  cases x with
  | zero s =>
    have hzero : read (.zero s) = 0 := rfl
    rw [hzero, zero_add]
    cases y with
    | zero s' => cases s <;> cases s' <;> exact Canonical.rounded hy
    | finite s' m' e' hm' => exact Canonical.rounded hy
    | _ => exact hy.elim
  | finite s m e hm =>
    cases y with
    | zero s' =>
      have hzero : read (.zero s') = 0 := rfl
      rw [hzero, add_zero]
      exact Canonical.rounded hx
    | finite s' m' e' hm' =>
      rw [read_finite_eq s hm (min_le_left e e'), read_finite_eq s' hm' (min_le_right e e'),
        ← add_mul, ← Int.cast_add]
      exact rounded_normalize _ _ _
    | _ => exact hy.elim
  | _ => exact hx.elim

theorem read_neg (x : UnpackedFloat) : read x.neg = -read x := by
  cases x with
  | finite s m e hm =>
    change ((-s).apply m : ℚ) * 2 ^ e = -(s.apply m * 2 ^ e)
    cases s <;> simp only [Sign.apply] <;> push_cast <;> ring
  | _ => exact neg_zero.symm

/-- A difference is the sum with the sign turned. -/
theorem sub_eq_add (x y : UnpackedFloat) : x.sub .binary64 y = x.add .binary64 y.neg := by
  cases x with
  | finite s m e hm =>
    cases y with
    | finite s' m' e' hm' =>
      have hsign (a n : ℤ) : a - s'.apply n = a + (-s').apply n := by
        cases s' with
        | negative => exact sub_neg_eq_add a n
        | positive => exact sub_eq_add_neg a n
      exact congrArg (UnpackedFloat.normalize .binary64 · (min e e') .positive) (hsign _ _)
    | _ => rfl
  | _ => cases y <;> rfl

/-- A difference is computed exactly and rounded. -/
theorem rounded_sub {x y : UnpackedFloat} (hx : Canonical x) (hy : Canonical y) :
    Rounded (x.sub .binary64 y) (read x - read y) := by
  have hneg : Canonical y.neg := by
    cases y <;> exact hy
  rw [sub_eq_add, sub_eq_add_neg, ← read_neg]
  exact rounded_add hx hneg

/-- The product of two mantissas has digits enough, or all of them lie behind the last one that
a double can have. -/
theorem le_last_mul {s s' : Sign} {m m' : ℕ} {e e' : ℤ} {hm : 0 < m} {hm' : 0 < m'}
    (h : Canonical (.finite s m e hm)) (h' : Canonical (.finite s' m' e' hm')) :
    e + e' ≤ last (m * m') (e + e') := by
  have hlog (hlong : 2 ^ 52 ≤ m * m') : 52 ≤ (m * m').log2 :=
    (Nat.le_log2 (Nat.mul_pos hm hm').ne').mpr hlong
  rw [last_eq]
  obtain hlong | he := h.2.2
  · have := hlog (hlong.trans (Nat.le_mul_of_pos_right m hm'))
    omega
  · obtain hlong | he' := h'.2.2
    · have := hlog (hlong.trans (Nat.le_mul_of_pos_left m' hm))
      omega
    · omega

/-- Signs multiply as numbers do. -/
theorem apply_mul (s s' : Sign) (m m' : ℕ) :
    (s * s').apply ((m * m' : ℕ) : ℤ) = s.apply m * s'.apply m' := by
  cases s <;> cases s' <;> simp only [Sign.apply] <;> push_cast <;> ring

/-- A product is computed exactly and rounded. -/
theorem rounded_mul {x y : UnpackedFloat} (hx : Canonical x) (hy : Canonical y) :
    Rounded (x.mul .binary64 y) (read x * read y) := by
  cases x with
  | zero s =>
    have hzero : read (.zero s) = 0 := rfl
    rw [hzero, zero_mul]
    cases y with
    | zero s' => exact Canonical.rounded (u := .zero (s * s')) trivial
    | finite s' m' e' hm' => exact Canonical.rounded (u := .zero (s * s')) trivial
    | _ => exact hy.elim
  | finite s m e hm =>
    cases y with
    | zero s' =>
      have hzero : read (.zero s') = 0 := rfl
      rw [hzero, mul_zero]
      exact Canonical.rounded (u := .zero (s * s')) trivial
    | finite s' m' e' hm' =>
      have hvalue : read (.finite s m e hm) * read (.finite s' m' e' hm') =
          (s * s').apply ((m * m' : ℕ) : ℤ) * 2 ^ (e + e') := by
        rw [apply_mul, zpow_add₀ two_ne_zero, Int.cast_mul]
        exact mul_mul_mul_comm _ _ _ _
      rw [hvalue]
      exact rounded_roundWithAccuracy (s * s') (Nat.mul_pos hm hm') (le_last_mul hx hy)
    | _ => exact hy.elim
  | _ => exact hx.elim

/-! ## Packing -/

/-- The sign is the first bit of a packed double. -/
theorem sign_packComponents (s : Sign) (e : BitVec 11) (m : BitVec 52) :
    Sign.ofBitVec (@UnpackedFloat.unpackSign .binary64
      (UnpackedFloat.packComponents .binary64 s e m)) = s := by
  have hbit : (s.toBitVec ++ e ++ m).extractLsb' 63 1 = s.toBitVec := by
    rw [BitVec.extractLsb'_append_eq_of_le (by decide),
      BitVec.extractLsb'_append_eq_of_le (by decide)]
    cases s <;> rfl
  change Sign.ofBitVec ((s.toBitVec ++ e ++ m).extractLsb' 63 1) = s
  rw [hbit]
  cases s <;> rfl

/-- A mantissa of full length, whose first digit is not written down. -/
theorem toNat_one_append (m : BitVec 52) : (1#1 ++ m).toNat = 2 ^ 52 + m.toNat := by
  rw [BitVec.toNat_append, ← Nat.shiftLeft_add_eq_or_of_lt m.isLt]
  rfl

/-- The exponent of a number up to `2 ^ 1023` fits into eleven bits, below the one of infinity. -/
theorem exponent_le {s : Sign} {m : ℕ} {e : ℤ} {hm : 0 < m}
    (hu : Canonical (.finite s m e hm)) (h : |read (.finite s m e hm)| ≤ 2 ^ 1023) : e ≤ 971 := by
  rw [abs_read] at h
  obtain hlong | rfl := hu.2.2
  · have hlong' : (2 : ℚ) ^ (52 : ℤ) ≤ m := by exact_mod_cast hlong
    have hpow : (2 : ℚ) ^ (52 + e) ≤ 2 ^ (1023 : ℤ) := by
      rw [zpow_add₀ two_ne_zero]
      exact le_trans (by gcongr) h
    have := (zpow_le_zpow_iff_right₀ one_lt_two).mp hpow
    omega
  · decide

theorem finite_congr {s : Sign} {m m' : ℕ} {e e' : ℤ} {hm : 0 < m} {hm' : 0 < m'}
    (h : m = m') (he : e = e') : UnpackedFloat.finite s m e hm = .finite s m' e' hm' := by
  subst h he
  rfl

/-- How a double is read: a small one has no digit before those that are written down. -/
theorem unpack_eq {b : BitVec 64} {s : Sign} {e : BitVec 11} {m : BitVec 52}
    (hs : Sign.ofBitVec (@UnpackedFloat.unpackSign .binary64 b) = s)
    (he : @UnpackedFloat.unpackExponent .binary64 b = e)
    (hm : @UnpackedFloat.unpackMantissa .binary64 b = m) (hmax : e ≠ -1#11) :
    UnpackedFloat.unpack .binary64 b =
      if e = 0#11 then
        if h : m = 0#52 then .zero s
        else .finite s m.toNat (-1074) (Nat.pos_of_ne_zero fun h0 => h (BitVec.eq_of_toNat_eq h0))
      else .finite s (2 ^ 52 + m.toNat) (e.toNat - 1075)
        (Nat.add_pos_left (Nat.two_pow_pos 52) _) := by
  subst hs he hm
  unfold UnpackedFloat.unpack
  dsimp only
  rw [if_neg hmax]
  by_cases hzero : @UnpackedFloat.unpackExponent .binary64 b = 0#11
  · rw [if_pos hzero, if_pos hzero, hzero]
    rfl
  · rw [if_neg hzero, if_neg hzero]
    exact finite_congr (toNat_one_append _) rfl

/-- How a double whose exponent fits is written down. -/
theorem pack_finite (s : Sign) {m b : ℕ} {e : ℤ} (hm : 0 < m) (hb : e + 1075 = b)
    (hfits : b + 1 < 2 ^ 11) :
    UnpackedFloat.pack .binary64 (.finite s m e hm) =
      if m.log2 + 1 = 53 then
        UnpackedFloat.packComponents .binary64 s (BitVec.ofNat 11 b) (BitVec.ofNat 52 m)
      else UnpackedFloat.packComponents .binary64 s 0#11 (BitVec.ofNat 52 m) := by
  have hexponent : (e + (Format.binary64.exponentBias : ℤ) + (52 : ℕ)).toNat = b := by
    change (e + 1023 + 52).toNat = b
    omega
  unfold UnpackedFloat.pack
  dsimp only
  rw [hexponent, if_neg hfits.not_ge]
  rfl

/-- A double whose exponent fits is written down and read back. -/
theorem unpack_pack {u : UnpackedFloat} (hu : Canonical u) (h : |read u| ≤ 2 ^ 1023) :
    UnpackedFloat.unpack .binary64 (UnpackedFloat.pack .binary64 u) = u := by
  cases u with
  | zero s => cases s <;> rfl
  | finite s m e hm =>
    have he := exponent_le hu h
    obtain ⟨hlt, hmin, hlong⟩ := hu
    obtain ⟨b, hb⟩ := Int.eq_ofNat_of_zero_le (show 0 ≤ e + 1075 by omega)
    rw [pack_finite s hm hb (by omega)]
    by_cases hnormal : 2 ^ 52 ≤ m
    · have hlog : m.log2 + 1 = 53 := by rw [(Nat.log2_eq_iff hm.ne').mpr ⟨hnormal, hlt⟩]
      have hfield : (BitVec.ofNat 11 b).toNat = b := by
        rw [BitVec.toNat_ofNat, Nat.mod_eq_of_lt (by omega)]
      have hmax : BitVec.ofNat 11 b ≠ -1#11 := by
        rw [ne_eq, ← BitVec.toNat_inj, hfield]
        change b ≠ 2047
        omega
      have hzero : BitVec.ofNat 11 b ≠ 0#11 := by
        rw [ne_eq, ← BitVec.toNat_inj, hfield]
        change b ≠ 0
        omega
      have hmantissa : 2 ^ 52 + (BitVec.ofNat 52 m).toNat = m := by
        rw [BitVec.toNat_ofNat]
        omega
      have hexponent : (b : ℤ) - 1075 = e := by omega
      rw [if_pos hlog, unpack_eq (sign_packComponents s _ _)
        UnpackedFloat.unpackExponent_packComponents UnpackedFloat.unpackMantissa_packComponents
        hmax, if_neg hzero]
      exact finite_congr hmantissa (by rw [hfield, hexponent])
    · have hlog : m.log2 + 1 ≠ 53 := by
        have := (Nat.log2_lt hm.ne').mpr (not_le.mp hnormal)
        omega
      have hfield : (BitVec.ofNat 52 m).toNat = m := by
        rw [BitVec.toNat_ofNat, Nat.mod_eq_of_lt (by omega)]
      have hzero : BitVec.ofNat 52 m ≠ 0#52 := by
        rw [ne_eq, ← BitVec.toNat_inj, hfield]
        exact hm.ne'
      rw [if_neg hlog, unpack_eq (sign_packComponents s _ _)
        UnpackedFloat.unpackExponent_packComponents UnpackedFloat.unpackMantissa_packComponents
        (by decide), if_pos rfl, dif_neg hzero]
      exact finite_congr hfield (hlong.resolve_left hnormal).symm
  | _ => exact hu.elim

/-- What is written down is in canonical form. -/
theorem canonical_unpack {b : BitVec 64} (h : (UnpackedFloat.unpack .binary64 b).isFinite = true) :
    Canonical (UnpackedFloat.unpack .binary64 b) := by
  by_cases hmax : @UnpackedFloat.unpackExponent .binary64 b = -1#11
  · unfold UnpackedFloat.unpack at h
    dsimp only at h
    rw [if_pos hmax] at h
    split at h <;> cases h
  · have hlt : (@UnpackedFloat.unpackMantissa .binary64 b).toNat < 2 ^ 52 :=
      (@UnpackedFloat.unpackMantissa .binary64 b).isLt
    rw [unpack_eq rfl rfl rfl hmax]
    by_cases hzero : @UnpackedFloat.unpackExponent .binary64 b = 0#11
    · rw [if_pos hzero]
      by_cases hnone : @UnpackedFloat.unpackMantissa .binary64 b = 0#52
      · rw [dif_pos hnone]
        trivial
      · rw [dif_neg hnone]
        exact ⟨by omega, le_rfl, Or.inr rfl⟩
    · rw [if_neg hzero]
      have hpos : 0 < (@UnpackedFloat.unpackExponent .binary64 b).toNat :=
        Nat.pos_of_ne_zero fun heq => hzero (BitVec.eq_of_toNat_eq heq)
      exact ⟨by omega, by omega, Or.inl (Nat.le_add_right _ _)⟩

end TokenCustody.Double
