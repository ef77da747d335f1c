/-
TokenCustody.Proofs.Token.Progress — a credential grows old, never young.

The states that a record can be in stand in an order: valid, expiring
soon, expired but refreshable, expired for good, refused. What has come as
far as one of them is told by times alone (`Record.le_state_iff`), and
every one of these conditions goes on to hold when the clock advances and
when the threshold grows. So neither ever leads back.

A threshold may be negative or longer than the access token lives, the
expiries may be one instant, and an expiry may lie in a leap second. None
of this is an exception; but the boundaries of the states of a sound
record are those one expects only because its access token expires no
later than its refresh token.
-/
import TokenCustody.Proofs.Token.State

namespace TokenCustody

open TokenCustody.Time

/-! ## The order of states -/

namespace TokenState

/-- How far a credential is on the way from a new one to a refused one. -/
def position : TokenState → Nat
  | .uninitialized => 0
  | .valid => 1
  | .expiringSoon => 2
  | .expiredRefreshable => 3
  | .expiredUnrefreshable => 4
  | .invalid => 5

instance : LE TokenState := ⟨fun a b => a.position ≤ b.position⟩

instance (a b : TokenState) : Decidable (a ≤ b) :=
  inferInstanceAs (Decidable (a.position ≤ b.position))

theorem le_refl (s : TokenState) : s ≤ s := Nat.le_refl s.position

/-- A state of a record is usable before the access token has expired. -/
theorem isUsable_iff {s : TokenState} (hs : s ≠ .uninitialized) :
    s.isUsable = true ↔ ¬expiredRefreshable ≤ s := by
  cases s with
  | uninitialized => exact absurd rfl hs
  | _ => decide

theorem isTerminal_iff {s : TokenState} : s.isTerminal = true ↔ expiredUnrefreshable ≤ s := by
  cases s <;> decide

theorem needsRefresh_iff {s : TokenState} :
    s.needsRefresh = true ↔ expiringSoon ≤ s ∧ ¬expiredUnrefreshable ≤ s := by
  cases s <;> decide

end TokenState

/-! ## How far a record has come -/

namespace Record

variable {r : Record} {d d' : Span} {t t' due due' : Instant} {api : ApiOutcome} {s s' : TokenState}

/-- What must hold for a record to have come as far as a state, or further. A refresh falls due
at `due`. -/
def HasReached (r : Record) (due t : Instant) (api : ApiOutcome) : TokenState → Prop
  | .uninitialized => True
  | .valid => True
  | .expiringSoon =>
    (r.fault.isSome ∨ api.isRejection) ∨ r.refreshExpiresAt ≤ t ∨ r.expiresAt ≤ t ∨ due ≤ t
  | .expiredRefreshable =>
    (r.fault.isSome ∨ api.isRejection) ∨ r.refreshExpiresAt ≤ t ∨ r.expiresAt ≤ t
  | .expiredUnrefreshable => (r.fault.isSome ∨ api.isRejection) ∨ r.refreshExpiresAt ≤ t
  | .invalid => r.fault.isSome ∨ api.isRejection

/-- What a record has reached stays reached when time passes and refreshes fall due earlier. -/
theorem HasReached.mono (h : r.HasReached due t api s) (ht : t ≤ t') (hdue : due' ≤ due) :
    r.HasReached due' t' api s := by
  have later {a : Instant} (ha : a ≤ t) : a ≤ t' := Instant.le_trans ha ht
  cases s with
  | uninitialized => trivial
  | valid => trivial
  | expiringSoon =>
    rcases h with h | h | h | h
    · exact Or.inl h
    · exact Or.inr (Or.inl (later h))
    · exact Or.inr (Or.inr (Or.inl (later h)))
    · exact Or.inr (Or.inr (Or.inr (Instant.le_trans hdue (later h))))
  | expiredRefreshable =>
    rcases h with h | h | h
    · exact Or.inl h
    · exact Or.inr (Or.inl (later h))
    · exact Or.inr (Or.inr (later h))
  | expiredUnrefreshable =>
    rcases h with h | h
    · exact Or.inl h
    · exact Or.inr (later h)
  | invalid => exact h

/-- The state of a record is the last one that it has reached. -/
theorem le_state_iff (h : r.stateAt d t api = some s) (hdue : r.expiresAt.sub d = some due)
    (reached : TokenState) : reached ≤ s ↔ r.HasReached due t api reached := by
  unfold stateAt at h
  by_cases hrefused : r.fault.isSome ∨ api.isRejection
  · rw [if_pos hrefused] at h
    cases h
    cases reached <;> simp only [HasReached, hrefused, true_or, iff_true] <;> decide
  rw [if_neg hrefused] at h
  by_cases hrefresh : r.refreshExpiresAt ≤ t
  · rw [if_pos hrefresh] at h
    cases h
    cases reached <;> simp only [HasReached, hrefused, hrefresh, true_or, or_true, iff_true,
      iff_false] <;> decide
  rw [if_neg hrefresh] at h
  by_cases hexpired : r.expiresAt ≤ t
  · rw [if_pos hexpired] at h
    cases h
    cases reached <;> simp only [HasReached, hrefused, hrefresh, hexpired, true_or, or_true,
      or_false, iff_true, iff_false] <;> decide
  rw [if_neg hexpired, hdue, Option.map_some, Option.some.injEq] at h
  subst h
  by_cases hsoon : due ≤ t
  · rw [if_pos hsoon]
    cases reached <;> simp only [HasReached, hrefused, hrefresh, hexpired, hsoon, or_true,
      or_false, iff_true, iff_false] <;> decide
  · rw [if_neg hsoon]
    cases reached <;> simp only [HasReached, hrefused, hrefresh, hexpired, hsoon,
      or_false, iff_true, iff_false] <;> decide

/-- A record whose threshold stays in the calendar has a state, and that is one of a record. -/
theorem exists_state (r : Record) (d : Span) (t : Instant) (api : ApiOutcome)
    (h : (r.expiresAt.sub d).isSome) :
    ∃ s, r.stateAt d t api = some s ∧ s ≠ .uninitialized := by
  cases hs : r.stateAt d t api with
  | none =>
    obtain ⟨-, hnone⟩ := stateAt_eq_none_iff.mp hs
    rw [hnone] at h
    cases h
  | some s =>
    obtain ⟨due, hdue⟩ := Option.isSome_iff_exists.mp h
    refine ⟨s, rfl, ?_⟩
    rintro rfl
    have hvalid : TokenState.valid ≤ .uninitialized := (le_state_iff hs hdue .valid).mpr trivial
    exact absurd hvalid (by decide)

/-- Neither time nor a longer threshold leads back to an earlier state. -/
theorem state_mono (hs : r.stateAt d t api = some s) (hs' : r.stateAt d' t' api = some s')
    (hdue : r.expiresAt.sub d = some due) (hdue' : r.expiresAt.sub d' = some due')
    (hd : d.nanos ≤ d'.nanos) (ht : t ≤ t') : s ≤ s' := by
  have hreached : r.HasReached due t api s := (le_state_iff hs hdue s).mp s.le_refl
  exact (le_state_iff hs' hdue' s).mpr (hreached.mono ht (Instant.sub_anti hd hdue hdue'))

theorem stateAt_refused (h : r.fault.isSome ∨ api.isRejection) :
    r.stateAt d t api = some .invalid := by
  unfold stateAt
  rw [if_pos h]

/-- The boundaries of the states of a sound record that nobody has refused. -/
theorem state_bounds (hsound : r.defect? = none) (hf : r.fault = none)
    (ha : api.isRejection = false) (hs : r.stateAt d t api = some s) (hne : s ≠ .uninitialized)
    (hdue : r.expiresAt.sub d = some due) :
    (s.isUsable = true ↔ t < r.expiresAt) ∧
      (s.isTerminal = true ↔ r.refreshExpiresAt ≤ t) ∧
      (0 ≤ d.nanos → (s.needsRefresh = true ↔ due ≤ t ∧ t < r.refreshExpiresAt)) := by
  obtain ⟨-, -, -, horder⟩ := defect_eq_none_iff.mp hsound
  have hrefused : ¬(r.fault.isSome = true ∨ api.isRejection = true) := by simp [hf, ha]
  have hreached := le_state_iff hs hdue
  have hterminal : TokenState.expiredUnrefreshable ≤ s ↔ r.refreshExpiresAt ≤ t := by
    simpa [HasReached, hrefused] using hreached .expiredUnrefreshable
  have hexpired : TokenState.expiredRefreshable ≤ s ↔ r.expiresAt ≤ t := by
    rw [hreached]
    simp only [HasReached, hrefused, false_or, or_iff_right_iff_imp]
    exact fun h => Instant.le_trans horder h
  refine ⟨?_, TokenState.isTerminal_iff.trans hterminal, fun hd => ?_⟩
  · rw [TokenState.isUsable_iff hne, hexpired]
    exact Iff.rfl
  · have hearly : due ≤ r.expiresAt := Instant.sub_le hdue hd
    have hsoon : TokenState.expiringSoon ≤ s ↔ due ≤ t := by
      rw [hreached]
      simp only [HasReached, hrefused, false_or]
      constructor
      · rintro (h | h | h)
        · exact Instant.le_trans hearly (Instant.le_trans horder h)
        · exact Instant.le_trans hearly h
        · exact h
      · exact fun h => Or.inr (Or.inr h)
    rw [TokenState.needsRefresh_iff, hsoon, hterminal]
    exact Iff.rfl

/-- **A credential grows old, never young.** If the thresholds before its expiry lie in the
calendar, a record has states, and later, or with a longer threshold, no earlier one. A fault and
a rejected call make it invalid at all times. A sound record without either is usable before its
access token expires, whatever the threshold; it is lost from when its refresh token expires; and
a refresh is due in between, from the threshold before the expiry if that is not negative. -/
theorem moves_forward (r : Record) :
    (∀ d d' t t' api, d.nanos ≤ d'.nanos → t ≤ t' → (r.expiresAt.sub d).isSome →
        (r.expiresAt.sub d').isSome →
      ∃ s s', stateOf d (some r) t api = some s ∧ stateOf d' (some r) t' api = some s' ∧ s ≤ s') ∧
    (∀ d t api f, stateOf d (some (r.withFault f)) t api = some .invalid ∧
      stateOf d (some { r with fault := some f }) t api = some .invalid) ∧
    (∀ d t reason, stateOf d (some r) t (.rejected reason) = some .invalid) ∧
    (r.defect? = none → r.fault = none → ∀ d t api due, api.isRejection = false →
        r.expiresAt.sub d = some due →
      ∃ s, stateOf d (some r) t api = some s ∧ (s.isUsable = true ↔ t < r.expiresAt) ∧
        (s.isTerminal = true ↔ r.refreshExpiresAt ≤ t) ∧
        (0 ≤ d.nanos → (s.needsRefresh = true ↔ due ≤ t ∧ t < r.refreshExpiresAt))) := by
  refine ⟨?_, fun d t api f => ⟨?_, ?_⟩, fun d t reason => ?_, ?_⟩
  · intro d d' t t' api hd ht hsome hsome'
    obtain ⟨s, hs, -⟩ := r.exists_state d t api hsome
    obtain ⟨s', hs', -⟩ := r.exists_state d' t' api hsome'
    obtain ⟨due, hdue⟩ := Option.isSome_iff_exists.mp hsome
    obtain ⟨due', hdue'⟩ := Option.isSome_iff_exists.mp hsome'
    exact ⟨s, s', hs, hs', state_mono hs hs' hdue hdue' hd ht⟩
  · exact stateAt_refused (Or.inl rfl)
  · exact stateAt_refused (Or.inl rfl)
  · exact stateAt_refused (Or.inr rfl)
  · intro hsound hf d t api due ha hdue
    obtain ⟨s, hs, hne⟩ := r.exists_state d t api (Option.isSome_of_eq_some hdue)
    exact ⟨s, hs, state_bounds hsound hf ha hs hne hdue⟩

namespace Sample

def tick (second : Int) (nano : Nat) : Instant := (Instant.ofParts? second nano).getD .epoch

/-- A record whose access token expires in a leap second. -/
def leaping : Record :=
  { accessToken := "access", refreshToken := "refresh", tokenType := "Bearer", scope := none
    issuedAt := .epoch
    expiresAt := tick 59 1500000000
    refreshExpiresAt := tick 3600 0
    lastRefreshAt := none, refreshCount := 0, fault := none, version := none }

/-- Half a second before the leap second, and half a second before that expiry. -/
def halfPast : Instant := tick 59 500000000

end Sample

open Sample

/-- A threshold of a second reaches from within the leap second to the second before it. -/
theorem moves_forward_of_leaping :
    (∃ s s', stateOf (.ofSeconds 0) (some leaping) .epoch .notObserved = some s ∧
      stateOf (.ofSeconds 1) (some leaping) halfPast .notObserved = some s' ∧ s ≤ s') ∧
    ∃ s, stateOf (.ofSeconds 1) (some leaping) halfPast .accepted = some s ∧
      (s.isUsable = true ↔ halfPast < leaping.expiresAt) ∧
      (s.isTerminal = true ↔ leaping.refreshExpiresAt ≤ halfPast) ∧
      (0 ≤ (Span.ofSeconds 1).nanos →
        (s.needsRefresh = true ↔ halfPast ≤ halfPast ∧ halfPast < leaping.refreshExpiresAt)) := by
  obtain ⟨hforward, -, -, hbounds⟩ := moves_forward leaping
  exact ⟨hforward _ _ _ _ _ (by decide) (by decide) (by decide) (by decide),
    hbounds (by decide) rfl _ _ _ halfPast rfl (by decide)⟩

end Record

end TokenCustody
