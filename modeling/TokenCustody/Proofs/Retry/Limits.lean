/-
TokenCustody.Proofs.Retry.Limits — how long a delay can get.

A delay grows from attempt to attempt up to the limit of the policy, and
only then it is spread by chance. What a server asks for is held to the
limit after that, but a delay without such a wish is not: chance can
carry it beyond the limit, up to twice as far. It does so exactly if the
spread delay reaches the next whole millisecond above the limit
(`Backoff.nextDelay_limits`).

Delays are computed in doubles. The bounds hold for the doubles as they
are, because no step of the computation steps over a double. The exact
condition reads the doubles as rational numbers where nothing was rounded
(`Backoff.Exact`).
-/
import TokenCustody.Proofs.Double.Value
import TokenCustody.Retry.Backoff

namespace TokenCustody

open TokenCustody.Double
open TokenCustody.Time

/-! ## Whole milliseconds -/

namespace Time.Duration

theorem millis_ofMillis (n : ℕ) : (ofMillis n).millis = n :=
  Nat.mul_div_cancel n (by decide)

/-- Durations are compared with milliseconds by their own, cut to whole ones. -/
theorem ofMillis_le_iff {n : ℕ} {d : Duration} : ofMillis n ≤ d ↔ n ≤ d.millis :=
  (Nat.le_div_iff_mul_le (by decide)).symm

/-- The same, seen from above. -/
theorem lt_ofMillis_iff {n : ℕ} {d : Duration} : d < ofMillis n ↔ d.millis < n :=
  (Nat.div_lt_iff_lt_mul (by decide)).symm

theorem millis_le {d d' : Duration} (h : d ≤ d') : d.millis ≤ d'.millis :=
  Nat.div_le_div_right h

/-- Cutting before doubling gives no more than cutting afterwards. -/
theorem two_mul_millis_le (d : Duration) : 2 * d.millis ≤ (d + d).millis := by
  change 2 * (d.nanos / nanosPerMilli) ≤ (d.nanos + d.nanos) / nanosPerMilli
  unfold nanosPerMilli
  omega

end Time.Duration

/-! ## The lesser, the greater, and the range from 0 to 1 -/

section Choosing

variable {x y : Float}

theorem isFinite_zero : (0.0 : Float).isFinite = true := by decide +kernel

theorem value_zero : value 0.0 = 0 := by decide +kernel

theorem isFinite_one : (1.0 : Float).isFinite = true := by decide +kernel

theorem value_one : value 1.0 = 1 := by decide +kernel

/-- The lesser of two is cut to no more than the second, be the first what it may. -/
theorem toNat_lesser_le (hy : y.isFinite = true) :
    (lesser x y).toUInt64.toNat ≤ y.toUInt64.toNat := by
  unfold lesser
  split
  · exact le_rfl
  · next hnumber =>
    split
    · exact le_rfl
    · next hle =>
      obtain hnan | hx | hinf := isNaN_or_isFinite_or_infinite x
      · exact absurd hnan hnumber
      · rw [lt_iff hy hx, not_lt] at hle
        rw [toNat_toUInt64 hx, toNat_toUInt64 hy]
        exact min_le_min_right _ (Nat.floor_mono hle)
      · cases hinf with
        | above h _ => exact absurd (h y hy).1 hle
        | below h hcut => exact hcut.trans_le (Nat.zero_le _)

/-- Of two finite doubles the one with the lesser value is taken. -/
theorem value_lesser (hx : x.isFinite = true) (hy : y.isFinite = true) :
    (lesser x y).isFinite = true ∧ value (lesser x y) = min (value x) (value y) := by
  unfold lesser
  rw [if_neg (by rw [isNaN_of_isFinite hx]; decide)]
  split
  · next hlt => exact ⟨hy, (min_eq_right ((lt_iff hy hx).mp hlt).le).symm⟩
  · next hle => exact ⟨hx, (min_eq_left (not_lt.mp fun h => hle ((lt_iff hy hx).mpr h))).symm⟩

/-- What is negative or no number is cut to zero anyway. -/
theorem toNat_greater_zero : (greater x 0.0).toUInt64.toNat = x.toUInt64.toNat := by
  have hcut : (0.0 : Float).toUInt64.toNat = 0 := by decide +kernel
  unfold greater
  split
  · next hnan => rw [hcut, toNat_toUInt64_of_isNaN hnan]
  · next hnumber =>
    split
    · next hneg =>
      rw [hcut]
      obtain hnan | hx | hinf := isNaN_or_isFinite_or_infinite x
      · exact absurd hnan hnumber
      · rw [lt_iff hx isFinite_zero, value_zero] at hneg
        rw [toNat_toUInt64 hx, Nat.floor_of_nonpos hneg.le]
        rfl
      · cases hinf with
        | above h _ => exact absurd hneg (h _ isFinite_zero).2
        | below h hbelow => exact hbelow.symm
    · rfl

/-- What is clamped lies between 0 and 1 if it is a number at all. -/
theorem clampToUnit_bounds (x : Float) : (clampToUnit x).isNaN = true ∨
    (clampToUnit x).isFinite = true ∧ 0 ≤ value (clampToUnit x) ∧ value (clampToUnit x) ≤ 1 := by
  unfold clampToUnit
  split
  · exact Or.inr ⟨isFinite_zero, by rw [value_zero], by rw [value_zero]; exact zero_le_one⟩
  · next hlow =>
    split
    · exact Or.inr ⟨isFinite_one, by rw [value_one]; exact zero_le_one, by rw [value_one]⟩
    · next hhigh =>
      obtain hnan | hx | hinf := isNaN_or_isFinite_or_infinite x
      · exact Or.inl hnan
      · rw [lt_iff hx isFinite_zero, value_zero, not_lt] at hlow
        rw [lt_iff isFinite_one hx, value_one, not_lt] at hhigh
        exact Or.inr ⟨hx, hlow, hhigh⟩
      · cases hinf with
        | above h _ => exact absurd (h _ isFinite_one).1 hhigh
        | below h => exact absurd (h _ isFinite_zero) hlow

end Choosing

/-! ## A draw -/

/-- A draw lies between 0 and 1, and 1 is never drawn. -/
structure IsDraw (draw : Float) : Prop where
  finite : draw.isFinite = true
  nonneg : 0 ≤ value draw
  lt_one : value draw < 1

/-- What the computation makes of a draw: a number from -1 to 1, which is not above 0 if the draw
is not above one half. -/
theorem IsDraw.swing {draw : Float} (h : IsDraw draw) :
    ((draw - 0.5) * 2.0).isFinite = true ∧ |value ((draw - 0.5) * 2.0)| ≤ 1 ∧
      (value draw ≤ 1 / 2 → value ((draw - 0.5) * 2.0) ≤ 0) := by
  have hhalf : (0.5 : Float).isFinite = true := by decide +kernel
  have htwo : (2.0 : Float).isFinite = true := by decide +kernel
  have hvhalf : value 0.5 = 1 / 2 := by decide +kernel
  have hvtwo : value 2.0 = 2 := by decide +kernel
  have hdist : |value draw - value 0.5| ≤ value 0.5 := by
    rw [hvhalf, abs_le]
    constructor <;> linarith [h.nonneg, h.lt_one]
  have hshift := rounds_sub h.finite hhalf (hdist.trans (by rw [hvhalf]; norm_num))
  have hshifted := hshift.abs_value_le (representable_value hhalf) hdist
  have hscaled : |value (draw - 0.5) * value 2.0| ≤ value 1.0 := by
    rw [hvtwo, value_one, abs_mul, abs_two]
    rw [hvhalf] at hshifted
    linarith
  have hscale := rounds_mul hshift.finite htwo (hscaled.trans (by rw [value_one]; norm_num))
  refine ⟨hscale.finite, ?_, fun hlow => hscale.nonpos ?_⟩
  · rw [← value_one]
    exact hscale.abs_value_le (representable_value isFinite_one) hscaled
  · have hneg : value (draw - 0.5) ≤ 0 := hshift.nonpos (by rw [hvhalf]; linarith)
    rw [hvtwo]
    linarith

namespace RetryPolicy

variable {p : RetryPolicy} {draw : Float}

/-! ## A spread delay -/

/-- The part of a delay that is left to chance. -/
def share (p : RetryPolicy) : ℚ := value (clampToUnit p.jitter)

/-- The milliseconds of a spread delay before they are cut. -/
def spreadMillis (p : RetryPolicy) (delay : Duration) (draw : Float) : Float :=
  delay.millisDouble + (draw - 0.5) * 2.0 * (delay.millisDouble * clampToUnit p.jitter)

/-- A spread delay has whole milliseconds, and none if chance has made it negative. -/
theorem spread_eq (p : RetryPolicy) (delay : Duration) (draw : Float) :
    p.spread delay draw = .ofMillis (p.spreadMillis delay draw).toUInt64.toNat :=
  congrArg Duration.ofMillis toNat_greater_zero

/-- What chance adds to a delay. -/
def chanceMillis (p : RetryPolicy) (delay : Duration) (draw : Float) : Float :=
  (draw - 0.5) * 2.0 * (delay.millisDouble * clampToUnit p.jitter)

theorem spreadMillis_eq (p : RetryPolicy) (delay : Duration) (draw : Float) :
    p.spreadMillis delay draw = delay.millisDouble + p.chanceMillis delay draw := rfl

/-- Chance adds no more than the delay itself, and nothing in the lower half of the draws, or if
nothing is left to chance. -/
theorem chanceMillis_bounds {delay : Duration} (hdelay : Representable delay.millis)
    (hsize : delay.millis ≤ 2 ^ 64) (hdraw : IsDraw draw) :
    (p.chanceMillis delay draw).isNaN = true ∨
      (p.chanceMillis delay draw).isFinite = true ∧
        |value (p.chanceMillis delay draw)| ≤ delay.millis ∧
        (value draw ≤ 1 / 2 ∨ p.share = 0 → value (p.chanceMillis delay draw) ≤ 0) := by
  obtain ⟨hswing, hunit, hlow⟩ := hdraw.swing
  have hround : Rounds delay.millisDouble delay.millis := rounds_ofNat hsize
  have hmillis : value delay.millisDouble = delay.millis := hround.value_eq hdelay
  have hn : (0 : ℚ) ≤ delay.millis := Nat.cast_nonneg _
  have hlimit : (delay.millis : ℚ) ≤ 2 ^ 64 := by exact_mod_cast hsize
  unfold chanceMillis share
  obtain hnan | ⟨hfinite, hnonneg, hone⟩ := clampToUnit_bounds p.jitter
  · exact Or.inl (isNaN_mul (isNaN_mul hnan))
  right
  -- each product is held to the delay in turn: the range of chance by the share, which is at most
  -- 1, and what is drawn of it by the swing, which is at most 1 either way
  set j := clampToUnit p.jitter
  have hpart : |value delay.millisDouble * value j| ≤ delay.millis := by
    rw [hmillis, abs_of_nonneg (mul_nonneg hn hnonneg)]
    exact mul_le_of_le_one_right hn hone
  have hrange := rounds_mul hround.finite hfinite (hpart.trans (by linarith))
  have hrange0 : 0 ≤ value (delay.millisDouble * j) :=
    hrange.nonneg (by rw [hmillis]; exact mul_nonneg hn hnonneg)
  have hproduct : |value ((draw - 0.5) * 2.0) * value (delay.millisDouble * j)| ≤ delay.millis := by
    rw [abs_mul]
    exact (mul_le_of_le_one_left (abs_nonneg _) hunit).trans (hrange.abs_value_le hdelay hpart)
  have hchance := rounds_mul hswing hrange.finite (hproduct.trans (by linarith))
  refine ⟨hchance.finite, hchance.abs_value_le hdelay hproduct, fun h => hchance.nonpos ?_⟩
  obtain hhalf | hshare := h
  · exact mul_nonpos_of_nonpos_of_nonneg (hlow hhalf) hrange0
  · have hnone : value (delay.millisDouble * j) = 0 := by
      refine le_antisymm (hrange.nonpos ?_) hrange0
      rw [hshare, mul_zero]
    rw [hnone, mul_zero]

/-- Chance takes a delay to twice its length at most, and not beyond it in the lower half of the
draws, or if nothing is left to chance. -/
theorem spreadMillis_bounds {delay : Duration} (hdelay : Representable delay.millis)
    (hsize : delay.millis ≤ 2 ^ 64) (hdraw : IsDraw draw) :
    (p.spreadMillis delay draw).isNaN = true ∨
      (p.spreadMillis delay draw).isFinite = true ∧
        value (p.spreadMillis delay draw) ≤ 2 * delay.millis ∧
        (value draw ≤ 1 / 2 ∨ p.share = 0 →
          value (p.spreadMillis delay draw) ≤ delay.millis) := by
  rw [spreadMillis_eq]
  have hround : Rounds delay.millisDouble delay.millis := rounds_ofNat hsize
  have hmillis : value delay.millisDouble = delay.millis := hround.value_eq hdelay
  have hlimit : (delay.millis : ℚ) ≤ 2 ^ 64 := by exact_mod_cast hsize
  obtain hnan | ⟨hfinite, hsmall, hdown⟩ := p.chanceMillis_bounds hdelay hsize hdraw
  · exact Or.inl (isNaN_add hnan)
  have hends := abs_le.mp hsmall
  have hsum := rounds_add hround.finite hfinite (by
    rw [hmillis, abs_le]
    constructor <;> linarith)
  rw [hmillis] at hsum
  exact Or.inr ⟨hsum.finite, hsum.le _ hdelay.double (by linarith),
    fun h => hsum.le _ hdelay (by linarith [hdown h])⟩

/-! ## The delay before it is spread -/

/-- The milliseconds that a delay has grown to, without a limit. -/
def grownMillis (p : RetryPolicy) (retry : ℕ) : Float :=
  p.initialDelay.millisDouble * power p.multiplier ((retry : ℤ).bmod 4294967296)

theorem baseDelay_eq (p : RetryPolicy) (retry : ℕ) : p.baseDelay retry =
    .ofMillis (lesser (p.grownMillis retry) p.maxDelay.millisDouble).toUInt64.toNat := rfl

/-- The limit is not exceeded before chance comes in. -/
theorem baseDelay_le (hlimit : Representable p.maxDelay.millis) (retry : ℕ) :
    p.baseDelay retry ≤ p.maxDelay := by
  rw [baseDelay_eq, Duration.ofMillis_le_iff]
  -- the conversion to 64 bits keeps to a limit that takes more of them
  obtain hlarge | hsmall := le_or_gt (2 ^ 64) p.maxDelay.millis
  · have := toNat_toUInt64_le_max (lesser (p.grownMillis retry) p.maxDelay.millisDouble)
    exact this.trans (by omega)
  · have hround : Rounds p.maxDelay.millisDouble p.maxDelay.millis := rounds_ofNat hsmall.le
    refine (toNat_lesser_le hround.finite).trans ?_
    rw [toNat_toUInt64 hround.finite, hround.value_eq hlimit, Nat.floor_natCast]
    exact min_le_left _ _

/-- The milliseconds of the delay are a double themselves, if the limit does not take more than
64 bits. -/
theorem representable_baseDelay (hlimit : Representable p.maxDelay.millis)
    (hsmall : p.maxDelay.millis < 2 ^ 64 - 1) (retry : ℕ) :
    Representable (p.baseDelay retry).millis ∧ (p.baseDelay retry).millis ≤ 2 ^ 64 := by
  have hle := baseDelay_le hlimit retry
  rw [baseDelay_eq, Duration.ofMillis_le_iff] at hle
  rw [baseDelay_eq, Duration.millis_ofMillis]
  exact ⟨representable_toUInt64 (by omega), by omega⟩

/-- The delay before it is spread, computed in rational numbers. -/
def exactBase (p : RetryPolicy) (retry : ℕ) : ℕ :=
  ⌊min ((p.initialDelay.millis : ℚ) * value p.multiplier ^ ((retry : ℤ).bmod 4294967296))
    p.maxDelay.millis⌋₊

/-- Where nothing is rounded, a delay before it is spread is the power of the multiplier, up to the
limit. -/
theorem millis_baseDelay {retry : ℕ} (hlimit : Representable p.maxDelay.millis)
    (hsmall : p.maxDelay.millis < 2 ^ 64 - 1) (hfinite : (p.grownMillis retry).isFinite = true)
    (hexact : value (p.grownMillis retry) =
      p.initialDelay.millis * value p.multiplier ^ ((retry : ℤ).bmod 4294967296)) :
    (p.baseDelay retry).millis = p.exactBase retry := by
  have hround : Rounds p.maxDelay.millisDouble p.maxDelay.millis := rounds_ofNat (by omega)
  obtain ⟨hlesser, hvalue⟩ := value_lesser hfinite hround.finite
  have hfloor : p.exactBase retry ≤ p.maxDelay.millis :=
    Nat.floor_le_of_le (min_le_right _ _)
  rw [baseDelay_eq, Duration.millis_ofMillis, toNat_toUInt64 hlesser, hvalue, hexact,
    hround.value_eq hlimit]
  exact min_eq_left (by change p.exactBase retry ≤ _; omega)

end RetryPolicy

namespace Backoff

variable {b : Backoff} {draw : Float}

/-- The delay after the attempt started last, before it is spread. -/
def base (b : Backoff) : Duration := b.policy.baseDelay (b.attempts - 1)

/-- Without a wish of the server the spread delay is taken as it is. -/
theorem nextDelay_none (b : Backoff) (draw : Float) :
    b.nextDelay draw none = .ofMillis (b.policy.spreadMillis b.base draw).toUInt64.toNat :=
  RetryPolicy.spread_eq _ _ _

/-- Nothing is rounded in the computation of the delay. -/
structure Exact (b : Backoff) (draw : Float) : Prop where
  grown : (b.policy.grownMillis (b.attempts - 1)).isFinite = true
  growth : value (b.policy.grownMillis (b.attempts - 1)) = b.policy.initialDelay.millis *
    value b.policy.multiplier ^ (((b.attempts - 1 : ℕ) : ℤ).bmod 4294967296)
  spread : (b.policy.spreadMillis b.base draw).isFinite = true
  chance : value (b.policy.spreadMillis b.base draw) =
    b.base.millis * (1 + (2 * value draw - 1) * b.policy.share)

/-- A wish of the server is held to the limit. -/
theorem nextDelay_some_le (b : Backoff) (draw : Float) (hint : Duration) :
    b.nextDelay draw (some hint) ≤ b.policy.maxDelay := by
  change (if _ then _ else b.policy.maxDelay) ≤ b.policy.maxDelay
  split
  · assumption
  · exact Nat.le_refl _

/-- A limit of all 64 bits is kept by every delay. -/
theorem nextDelay_none_le_of_large (hlarge : 2 ^ 64 - 1 ≤ b.policy.maxDelay.millis) :
    b.nextDelay draw none ≤ b.policy.maxDelay := by
  rw [nextDelay_none, Duration.ofMillis_le_iff]
  exact (toNat_toUInt64_le_max _).trans hlarge

/-- In the lower half of the draws, or if nothing is left to chance, a delay keeps to the limit. -/
theorem nextDelay_none_le (hdraw : IsDraw draw) (hlimit : Representable b.policy.maxDelay.millis)
    (h : value draw ≤ 1 / 2 ∨ b.policy.share = 0) :
    b.nextDelay draw none ≤ b.policy.maxDelay := by
  obtain hlarge | hsmall := le_or_gt (2 ^ 64 - 1) b.policy.maxDelay.millis
  · exact nextDelay_none_le_of_large hlarge
  · obtain ⟨hbase, hsize⟩ := RetryPolicy.representable_baseDelay hlimit hsmall (b.attempts - 1)
    have hle := Duration.millis_le (RetryPolicy.baseDelay_le hlimit (b.attempts - 1))
    rw [nextDelay_none, Duration.ofMillis_le_iff]
    refine (toNat_toUInt64_le ?_).trans hle
    exact (RetryPolicy.spreadMillis_bounds hbase hsize hdraw).imp_right fun ⟨hfinite, _, hkept⟩ =>
      ⟨hfinite, hkept h⟩

/-- Chance carries a delay to no more than twice the limit. -/
theorem nextDelay_none_le_add (hdraw : IsDraw draw)
    (hlimit : Representable b.policy.maxDelay.millis) :
    b.nextDelay draw none ≤ b.policy.maxDelay + b.policy.maxDelay := by
  rw [nextDelay_none, Duration.ofMillis_le_iff]
  refine le_trans ?_ b.policy.maxDelay.two_mul_millis_le
  obtain hlarge | hsmall := le_or_gt (2 ^ 64 - 1) b.policy.maxDelay.millis
  · have := toNat_toUInt64_le_max (b.policy.spreadMillis b.base draw)
    omega
  · obtain ⟨hbase, hsize⟩ := RetryPolicy.representable_baseDelay hlimit hsmall (b.attempts - 1)
    have hle := Duration.millis_le (RetryPolicy.baseDelay_le hlimit (b.attempts - 1))
    refine (toNat_toUInt64_le ?_).trans (Nat.mul_le_mul_left 2 hle)
    exact (RetryPolicy.spreadMillis_bounds hbase hsize hdraw).imp_right fun ⟨hfinite, htwice, _⟩ =>
      ⟨hfinite, by exact_mod_cast htwice⟩

/-- A delay is above the limit exactly if the spread value reaches the next millisecond. -/
theorem lt_nextDelay_none_iff (hlimit : Representable b.policy.maxDelay.millis)
    (hexact : b.Exact draw) : b.policy.maxDelay < b.nextDelay draw none ↔
      b.policy.maxDelay.millis < 2 ^ 64 - 1 ∧
        (b.policy.maxDelay.millis + 1 : ℚ) ≤ b.policy.exactBase (b.attempts - 1) *
          (1 + (2 * value draw - 1) * b.policy.share) := by
  rw [nextDelay_none, Duration.lt_ofMillis_iff, toNat_toUInt64 hexact.spread, lt_min_iff,
    and_comm]
  refine and_congr_right fun hsmall => ?_
  have hbase := RetryPolicy.millis_baseDelay hlimit hsmall hexact.grown hexact.growth
  rw [hexact.chance, base, hbase, Nat.lt_iff_add_one_le, Nat.le_floor_iff' (Nat.succ_ne_zero _)]
  push_cast
  rfl

/-- **How long a delay can get.** A delay with a wish of the server is never above the limit,
and neither is a delay before it is spread, if the limit is a double itself. Without a wish,
chance keeps to the limit if it is on the side that shortens the delay, or if nothing is left to
it; otherwise it takes a delay to twice the limit at most. Where nothing is rounded, the limit is
exceeded exactly if the spread delay reaches the next whole millisecond, and the limit takes less
than 64 bits. -/
theorem nextDelay_limits (b : Backoff) (draw : Float) (hdraw : IsDraw draw) :
    (∀ hint, b.nextDelay draw (some hint) ≤ b.policy.maxDelay) ∧
      (Representable b.policy.maxDelay.millis →
        b.base ≤ b.policy.maxDelay ∧
        (value draw ≤ 1 / 2 ∨ b.policy.share = 0 →
          b.nextDelay draw none ≤ b.policy.maxDelay) ∧
        b.nextDelay draw none ≤ b.policy.maxDelay + b.policy.maxDelay ∧
        (b.Exact draw → (b.policy.maxDelay < b.nextDelay draw none ↔
          b.policy.maxDelay.millis < 2 ^ 64 - 1 ∧
            (b.policy.maxDelay.millis + 1 : ℚ) ≤ b.policy.exactBase (b.attempts - 1) *
              (1 + (2 * value draw - 1) * b.policy.share)))) := by
  refine ⟨b.nextDelay_some_le draw, fun hlimit => ⟨RetryPolicy.baseDelay_le hlimit _, ?_, ?_, ?_⟩⟩
  · exact nextDelay_none_le hdraw hlimit
  · exact nextDelay_none_le_add hdraw hlimit
  · exact lt_nextDelay_none_iff hlimit

namespace Sample

/-- A policy whose delays stay where they begin, at the limit, and are spread by half. -/
def steady : RetryPolicy :=
  { maxAttempts := 3
    initialDelay := .ofMillis 1000
    maxDelay := .ofMillis 1000
    multiplier := 1.0
    jitter := 0.5 }

end Sample

open Sample

/-- The draw 3/4 takes a delay of a second beyond the limit of a second: the exact condition
holds of it. -/
theorem nextDelay_limits_of_sample :
    IsDraw 0.75 ∧ Representable (steady.maxDelay.millis : ℚ) ∧ Exact ⟨steady, 1⟩ 0.75 ∧
      steady.maxDelay < Backoff.nextDelay ⟨steady, 1⟩ 0.75 none ∧
      Backoff.nextDelay ⟨steady, 1⟩ 0.75 none ≤ steady.maxDelay + steady.maxDelay := by
  have hdraw : IsDraw 0.75 :=
    ⟨by decide +kernel, by decide +kernel, by decide +kernel⟩
  have hlimit : Representable (steady.maxDelay.millis : ℚ) := representable_natCast (by decide)
  have hexact : Exact ⟨steady, 1⟩ 0.75 :=
    ⟨by decide +kernel, by decide +kernel, by decide +kernel, by decide +kernel⟩
  obtain ⟨-, hbounds⟩ := nextDelay_limits ⟨steady, 1⟩ 0.75 hdraw
  obtain ⟨-, -, htwice, hexceeds⟩ := hbounds hlimit
  exact ⟨hdraw, hlimit, hexact, (hexceeds hexact).mpr (by decide +kernel), htwice⟩

/-- **The limit is exceeded.** After the first attempt, with no wish of the server and the draw
3/4, the delay is 1250 milliseconds, and the limit is 1000. -/
theorem nextDelay_beyond_limit :
    IsDraw 0.75 ∧ Backoff.nextDelay ⟨steady, 1⟩ 0.75 none = .ofMillis 1250 ∧
      ¬Backoff.nextDelay ⟨steady, 1⟩ 0.75 none ≤ steady.maxDelay := by
  refine ⟨⟨by decide +kernel, by decide +kernel, by decide +kernel⟩, by decide +kernel, ?_⟩
  decide +kernel

end Backoff

end TokenCustody
