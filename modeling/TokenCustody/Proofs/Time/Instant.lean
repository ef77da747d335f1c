/-
TokenCustody.Proofs.Time.Instant — instants before and after a span.

Adding a span to an instant leads to a later one exactly if the span is
positive, also from within a leap second and out of it. So an expiry that
is computed from a lifetime lies in the future exactly if the lifetime
is positive. Longer spans lead further, wherever they start
(`Instant.add_mono`).

Taking away whole seconds leads to a second that can be said beforehand,
and there is a result exactly if the calendar has that second
(`Instant.isSome_sub_iff`).
-/
import TokenCustody.Time.Instant

namespace TokenCustody.Time.Instant

theorem lt_iff {a b : Instant} :
    a < b ↔ a.second < b.second ∨ (a.second = b.second ∧ a.nano < b.nano) := by
  show ¬(b.second < a.second ∨ (b.second = a.second ∧ b.nano ≤ a.nano)) ↔ _
  omega

theorem lt_of_lt_of_le {a b c : Instant} (hab : a < b) (hbc : b ≤ c) : a < c :=
  fun hca => hab (Instant.le_trans hbc hca)

theorem lt_min_iff {a b c : Instant} : a < min b c ↔ a < b ∧ a < c := by
  show a < (if b ≤ c then b else c) ↔ _
  split
  · next h => exact ⟨fun hab => ⟨hab, lt_of_lt_of_le hab h⟩, And.left⟩
  · next h =>
    have hcb : c ≤ b := (Instant.le_total b c).resolve_left h
    exact ⟨fun hac => ⟨lt_of_lt_of_le hac hcb, hac⟩, And.right⟩

theorem le_min_iff {a b c : Instant} : a ≤ min b c ↔ a ≤ b ∧ a ≤ c := by
  show a ≤ (if b ≤ c then b else c) ↔ _
  split
  · next h => exact ⟨fun hab => ⟨hab, Instant.le_trans hab h⟩, And.left⟩
  · next h =>
    have hcb : c ≤ b := (Instant.le_total b c).resolve_left h
    exact ⟨fun hac => ⟨Instant.le_trans hac hcb, hac⟩, And.right⟩

theorem min_le_right {a b : Instant} : min a b ≤ b := (le_min_iff.mp (Instant.le_refl _)).2

theorem ofParts_self (t : Instant) : ofParts? t.second t.nano = some t :=
  dif_pos ⟨t.inRange, t.nano_lt, t.leap⟩

theorem parts_of_ofParts {second : Int} {nano : Nat} {t : Instant}
    (h : ofParts? second nano = some t) : t.second = second ∧ t.nano = nano := by
  unfold ofParts? at h
  split at h
  · cases h
    exact ⟨rfl, rfl⟩
  · cases h

theorem parts_of_ofNanos {second nanos : Int} {t : Instant}
    (h : ofNanos? second nanos = some t) :
    t.second = second + nanos / 1000000000 ∧ (t.nano : Int) = nanos % 1000000000 := by
  obtain ⟨hs, hn⟩ := parts_of_ofParts h
  refine ⟨hs, ?_⟩
  have hpos : 0 ≤ nanos % 1000000000 := Int.emod_nonneg _ (by decide)
  rw [hn]
  exact Int.toNat_of_nonneg hpos

/-- Whole seconds and the rest have the sign of what they are taken from. -/
theorem whole_and_part (n : Int) :
    n = 1000000000 * n.tdiv 1000000000 + n.tmod 1000000000 ∧
      (0 ≤ n → 0 ≤ n.tdiv 1000000000 ∧ 0 ≤ n.tmod 1000000000) ∧
      (n ≤ 0 → n.tdiv 1000000000 ≤ 0 ∧ n.tmod 1000000000 ≤ 0) := by
  refine ⟨(Int.mul_tdiv_add_tmod n 1000000000).symm, fun h => ?_, fun h => ?_⟩
  · exact ⟨Int.tdiv_nonneg h (by decide), Int.tmod_nonneg _ h⟩
  · obtain ⟨m, rfl⟩ : ∃ m, n = -m := ⟨-n, (Int.neg_neg n).symm⟩
    have hm : 0 ≤ m := by omega
    have hd := Int.tdiv_nonneg hm (b := 1000000000) (by decide)
    have hr := Int.tmod_nonneg 1000000000 hm
    rw [Int.neg_tdiv, Int.neg_tmod]
    omega

/-- Adding a span leads to a later instant exactly if the span is positive, and to an earlier one
exactly if it is negative. -/
theorem add_cases {t t' : Instant} {d : Span} (h : t.add d = some t') :
    (t < t' ↔ 0 < d.nanos) ∧ (t' < t ↔ d.nanos < 0) := by
  have hcast : ((nanosPerSecond : Nat) : Int) = 1000000000 := rfl
  have hlt : t.nano < 2000000000 := t.nano_lt
  obtain ⟨hsum, hpos, hneg⟩ := whole_and_part d.nanos
  rw [lt_iff, lt_iff]
  unfold add at h
  simp only [hcast] at h
  split at h
  · next hleap =>
    have hn : 1000000000 ≤ t.nano := of_decide_eq_true hleap
    split at h
    · obtain ⟨hs, hm⟩ := parts_of_ofNanos h
      omega
    · split at h
      · obtain ⟨hs, hm⟩ := parts_of_ofNanos h
        omega
      · -- The span does not lead out of the leap second.
        obtain ⟨hs, hm⟩ := parts_of_ofParts h
        omega
  · next hleap =>
    have hn : ¬1000000000 ≤ t.nano := fun hn => hleap (decide_eq_true hn)
    obtain ⟨hs, hm⟩ := parts_of_ofNanos h
    omega

theorem lt_add_iff {t t' : Instant} {d : Span} (h : t.add d = some t') :
    t < t' ↔ 0 < d.nanos := (add_cases h).1

/-- A span that is not negative leads to no earlier instant. -/
theorem le_add {t t' : Instant} {d : Span} (h : t.add d = some t') (hd : 0 ≤ d.nanos) :
    t ≤ t' := by
  have hnot : ¬t' < t := fun hlt => Int.not_lt.mpr hd ((add_cases h).2.mp hlt)
  exact Decidable.not_not.mp hnot

/-- Taking a span away leads to a later instant exactly if the span is negative. -/
theorem lt_sub_iff {t t' : Instant} {d : Span} (h : t.sub d = some t') : t < t' ↔ d.nanos < 0 := by
  rw [lt_add_iff h]
  show 0 < -d.nanos ↔ d.nanos < 0
  omega

/-! ## Longer and shorter spans -/

/-- A span leads out of a leap second forwards, out of it backwards, or not out of it. -/
theorem add_leap_cases {t t' : Instant} {d : Span} (hleap : t.isLeap = true)
    (h : t.add d = some t') :
    (2000000000 ≤ t.nano + d.nanos ∧
      t'.second = t.second + (t.nano - 1000000000 + d.nanos) / 1000000000 ∧
      (t'.nano : Int) = (t.nano - 1000000000 + d.nanos) % 1000000000) ∨
    (d.nanos ≤ -1000000000 ∧
      t'.second = t.second + 1 + (t.nano - 1000000000 + d.nanos) / 1000000000 ∧
      (t'.nano : Int) = (t.nano - 1000000000 + d.nanos) % 1000000000) ∨
    (-1000000000 < d.nanos ∧ t.nano + d.nanos < 2000000000 ∧ t'.second = t.second ∧
      (t'.nano : Int) = t.nano + d.nanos) := by
  have hcast : ((nanosPerSecond : Nat) : Int) = 1000000000 := rfl
  have hlt : t.nano < 2000000000 := t.nano_lt
  have hn : 1000000000 ≤ t.nano := of_decide_eq_true hleap
  obtain ⟨hsum, hpos, hneg⟩ := whole_and_part d.nanos
  have hbelow : d.nanos.tmod 1000000000 < 1000000000 := Int.tmod_lt_of_pos _ (by decide)
  have habove : -1000000000 < d.nanos.tmod 1000000000 := Int.lt_tmod_of_pos _ (by decide)
  unfold add at h
  simp only [hcast, if_pos hleap] at h
  split at h
  · obtain ⟨hs, hm⟩ := parts_of_ofNanos h
    left
    omega
  · split at h
    · obtain ⟨hs, hm⟩ := parts_of_ofNanos h
      right; left
      omega
    · obtain ⟨hs, hm⟩ := parts_of_ofParts h
      right; right
      omega

/-- A longer span leads to no earlier instant. -/
theorem add_mono {t a b : Instant} {d d' : Span} (hle : d.nanos ≤ d'.nanos)
    (ha : t.add d = some a) (hb : t.add d' = some b) : a ≤ b := by
  show a.second < b.second ∨ (a.second = b.second ∧ a.nano ≤ b.nano)
  by_cases hleap : t.isLeap = true
  · have hlt : t.nano < 2000000000 := t.nano_lt
    have hn : 1000000000 ≤ t.nano := of_decide_eq_true hleap
    rcases add_leap_cases hleap ha with h | h | h <;>
      rcases add_leap_cases hleap hb with h' | h' | h' <;> omega
  · unfold add at ha hb
    rw [if_neg hleap] at ha hb
    obtain ⟨hs, hm⟩ := parts_of_ofNanos ha
    obtain ⟨hs', hm'⟩ := parts_of_ofNanos hb
    omega

/-- Taking a longer span away leads to no later instant. -/
theorem sub_anti {t a b : Instant} {d d' : Span} (hle : d.nanos ≤ d'.nanos)
    (ha : t.sub d = some a) (hb : t.sub d' = some b) : b ≤ a := by
  have hneg : (⟨-d'.nanos⟩ : Span).nanos ≤ (⟨-d.nanos⟩ : Span).nanos := by
    show -d'.nanos ≤ -d.nanos
    omega
  exact add_mono hneg hb ha

/-- Taking away a span that is not negative leads to no later instant. -/
theorem sub_le {t a : Instant} {d : Span} (h : t.sub d = some a) (hd : 0 ≤ d.nanos) : a ≤ t := by
  have hnot : ¬t < a := fun hlt => Int.not_lt.mpr hd ((lt_sub_iff h).mp hlt)
  exact Decidable.not_not.mp hnot

/-! ## Whole seconds before an instant -/

/-- The second that lies whole seconds before an instant. A leap second is left backwards from
the second after it. -/
def secondBefore (t : Instant) (n : Int) : Int :=
  t.second - n + if t.isLeap ∧ 0 < n then 1 else 0

/-- Whether the calendar has a second. -/
def InCalendar (second : Int) : Prop := firstSecond ≤ second ∧ second ≤ lastSecond

instance (second : Int) : Decidable (InCalendar second) :=
  inferInstanceAs (Decidable (firstSecond ≤ second ∧ second ≤ lastSecond))

/-- No seconds before an instant lies the second of the instant itself. -/
theorem inCalendar_secondBefore_zero (t : Instant) : InCalendar (t.secondBefore 0) := by
  simpa [secondBefore, InCalendar] using t.inRange

theorem isSome_ofNanos_iff {second nanos : Int} :
    (ofNanos? second nanos).isSome ↔ InCalendar (second + nanos / 1000000000) := by
  have hcast : ((nanosPerSecond : Nat) : Int) = 1000000000 := rfl
  have hnano : (nanos % 1000000000).toNat < 1000000000 := by omega
  have hlt : (nanos % 1000000000).toNat < 2 * nanosPerSecond := Nat.lt_trans hnano (by decide)
  have hleap : ¬nanosPerSecond ≤ (nanos % 1000000000).toNat := Nat.not_le_of_lt hnano
  simp [ofNanos?, ofParts?, InCalendar, hcast, hlt, hleap]

/-- If the calendar reaches so far after an instant, it reaches less far, too. -/
theorem isSome_add_of_le {t : Instant} {d d' : Span} (hd : 0 ≤ d.nanos) (hle : d.nanos ≤ d'.nanos)
    (h : (t.add d').isSome) : (t.add d).isSome := by
  have hcast : ((nanosPerSecond : Nat) : Int) = 1000000000 := rfl
  have hlt : t.nano < 2000000000 := t.nano_lt
  obtain ⟨hfirst, hlast⟩ := t.inRange
  obtain ⟨hsum, hpos, -⟩ := whole_and_part d.nanos
  obtain ⟨hsum', hpos', -⟩ := whole_and_part d'.nanos
  unfold add at h ⊢
  simp only [hcast] at h ⊢
  split
  · next hleap =>
    have hn : 1000000000 ≤ t.nano := of_decide_eq_true hleap
    rw [if_pos hleap] at h
    split
    · -- Both spans lead out of the leap second.
      rw [if_pos (by omega), isSome_ofNanos_iff] at h
      rw [isSome_ofNanos_iff]
      unfold InCalendar at h ⊢
      omega
    · have hback : ¬d.nanos.tdiv 1000000000 < 0 := by omega
      have hnano : ((t.nano : Int) + d.nanos.tmod 1000000000).toNat < 2 * nanosPerSecond := by
        show _ < 2000000000
        omega
      rw [if_neg hback, ofParts?, dif_pos ⟨t.inRange, hnano, fun _ => t.leap hn⟩]
      rfl
  · next hleap =>
    rw [if_neg hleap, isSome_ofNanos_iff] at h
    rw [isSome_ofNanos_iff]
    unfold InCalendar at h ⊢
    omega

/-- Whole seconds can be taken away from an instant exactly if the calendar has the second that
this leads to. -/
theorem isSome_sub_iff {t : Instant} {n : Int} :
    (t.sub (.ofSeconds n)).isSome ↔ InCalendar (t.secondBefore n) := by
  have hcast : ((nanosPerSecond : Nat) : Int) = 1000000000 := rfl
  have hlt : t.nano < 2000000000 := t.nano_lt
  have hwhole : (-(n * 1000000000)).tdiv 1000000000 = -n := by
    rw [← Int.neg_mul, Int.mul_tdiv_cancel _ (by decide)]
  have hpart : (-(n * 1000000000)).tmod 1000000000 = 0 := by
    rw [← Int.neg_mul, Int.mul_tmod_left]
  unfold sub add secondBefore
  simp only [Span.ofSeconds, hcast, hwhole, hpart]
  split
  · next hleap =>
    have hn : 1000000000 ≤ t.nano := of_decide_eq_true hleap
    split
    · have hforward : ¬0 < n := by omega
      have hsecond : t.second + ((t.nano : Int) - 1000000000 + -(n * 1000000000)) / 1000000000 =
          t.second - n := by omega
      rw [isSome_ofNanos_iff, hsecond, if_neg fun h => hforward h.2, Int.add_zero]
    · split
      · have hback : 0 < n := by omega
        have hsecond : t.second + 1 +
            ((t.nano : Int) - 1000000000 + -(n * 1000000000)) / 1000000000 =
              t.second - n + 1 := by omega
        rw [isSome_ofNanos_iff, hsecond, if_pos ⟨hleap, hback⟩]
      · -- No second at all is taken away.
        have hzero : n = 0 := by omega
        subst hzero
        simpa [ofParts_self, InCalendar] using t.inRange
  · next hleap =>
    have hn : ¬1000000000 ≤ t.nano := fun hn => hleap (decide_eq_true hn)
    have hsecond : t.second + ((t.nano : Int) + -(n * 1000000000)) / 1000000000 = t.second - n := by
      omega
    rw [isSome_ofNanos_iff, hsecond, if_neg fun h => hleap h.1, Int.add_zero]

end TokenCustody.Time.Instant
