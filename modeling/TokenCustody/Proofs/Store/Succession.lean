/-
TokenCustody.Proofs.Store.Succession — what becomes of a store.

Others may write at any time, so all that a run can rely on between two
of its calls is that the store it meets next has BECOME of the one it
met last, by any number of attempted writes (`Becomes`). Two facts about
that carry everything said about runs that share a store:

* `Becomes.eq_of_version_eq` — a version is never given twice. A store
  that is still at the version it was read at is the same store.
* `Held.current_of_meets` — a write conditioned on the version of a
  record that was held once is made only while that very record is held.
-/
import TokenCustody.Proofs.Token.Record
import TokenCustody.Store.Memory

namespace TokenCustody

/-! ## Versions -/

/-- The name of a version tells its number. -/
theorem MemoryStore.versionOf_inj {m n : Nat} :
    MemoryStore.versionOf m = MemoryStore.versionOf n ↔ m = n := by
  constructor
  · intro h
    have hd : Text.decimal m = Text.decimal n :=
      String.ofList_injective (congrArg Version.tag h)
    rw [← Nat.ofDigitChars_ten_toDigits (n := m), ← Nat.ofDigitChars_ten_toDigits (n := n)]
    exact congrArg (fun cs => Nat.ofDigitChars 10 cs 0) hd
  · rintro rfl
    rfl

namespace MemoryStore

/-- An attempted write either is refused and changes nothing, or stores a sound record
under the next version. -/
theorem put_cases (s : MemoryStore) (r : Record) (c : WriteCondition) :
    (∃ e, (s.put r c).1 = .error e ∧ (s.put r c).2 = s) ∨
      (r.checked = .ok r ∧ s.meets c = true ∧
        (s.put r c).1 = .ok (s.write r).version ∧ (s.put r c).2 = s.write r) := by
  cases h : (s.put r c).1 with
  | error e => exact Or.inl ⟨e, rfl, put_of_error h⟩
  | ok v =>
    obtain ⟨hr, hm, rfl, hs⟩ := put_of_ok h
    exact Or.inr ⟨hr, hm, rfl, hs⟩

/-- A sound record is stored where the condition holds. -/
theorem put_of_meets {s : MemoryStore} {r : Record} {c : WriteCondition}
    (hr : r.defect? = none) (hm : s.meets c = true) :
    s.put r c = (.ok (s.write r).version, s.write r) := by
  have hc : r.checked = .ok r := by simp [Record.checked, hr]
  unfold put
  rw [hc]
  simp [hm]

/-- Where it does not hold nothing is stored. -/
theorem put_of_not_meets {s : MemoryStore} {r : Record} {c : WriteCondition}
    (hr : r.defect? = none) (hm : s.meets c = false) : s.put r c = (.error c.failed, s) := by
  have hc : r.checked = .ok r := by simp [Record.checked, hr]
  unfold put
  rw [hc]
  simp [hm]

/-- A sound record is refused only because the condition does not hold. -/
theorem put_error_of_sound {s : MemoryStore} {r : Record} {c : WriteCondition} {e : Error}
    (hr : r.defect? = none) (h : (s.put r c).1 = .error e) :
    s.meets c = false ∧ e = c.failed := by
  have hc : r.checked = .ok r := by simp [Record.checked, hr]
  unfold put at h
  rw [hc] at h
  cases hm : s.meets c with
  | true => simp [hm] at h
  | false =>
    simp only [hm, Bool.false_eq_true, if_false, Except.error.injEq] at h
    exact ⟨rfl, h.symm⟩

/-! ## Succession -/

/-- `s'` is what becomes of `s` by any number of attempted writes. -/
inductive Becomes (s : MemoryStore) : MemoryStore → Prop where
  | same : Becomes s s
  | put {m : MemoryStore} (h : Becomes s m) (r : Record) (c : WriteCondition) :
      Becomes s (m.put r c).2

theorem Becomes.trans {s m s' : MemoryStore} (h : s.Becomes m) (h' : m.Becomes s') :
    s.Becomes s' := by
  induction h' with
  | same => exact h
  | put _ r c ih => exact .put ih r c

/-- The counter never goes back, and where it stands still nothing has happened. -/
theorem Becomes.counter {s s' : MemoryStore} (h : s.Becomes s') :
    s.counter ≤ s'.counter ∧ (s'.counter = s.counter → s' = s) := by
  induction h with
  | same => exact ⟨Nat.le_refl _, fun _ => rfl⟩
  | @put m _ r c ih =>
    obtain ⟨hle, heq⟩ := ih
    obtain ⟨e, -, hs⟩ | ⟨-, -, -, hs⟩ := m.put_cases r c
    · rw [hs]
      exact ⟨hle, heq⟩
    · rw [hs]
      have hc : (m.write r).counter = m.counter + 1 := rfl
      exact ⟨by omega, fun h => by omega⟩

/-- A version is never given twice: a store that is at the version it was at before is
the same store. -/
theorem Becomes.eq_of_version_eq {s s' : MemoryStore} (h : s.Becomes s')
    (hv : s'.version = s.version) : s' = s :=
  h.counter.2 (versionOf_inj.mp hv)

/-- Nothing is wrong with the record that is held. -/
def Sound (s : MemoryStore) : Prop := ∀ r, s.current = some r → r.defect? = none

/-- Only sound records are ever written. -/
theorem Becomes.sound {s s' : MemoryStore} (h : s.Becomes s') (hs : s.Sound) : s'.Sound := by
  induction h with
  | same => exact hs
  | @put m _ r c ih =>
    obtain ⟨e, -, hm⟩ | ⟨hr, -, -, hm⟩ := m.put_cases r c
    · rwa [hm]
    · rw [hm]
      intro r' hr'
      obtain rfl : r.withVersion (m.write r).version = r' := Option.some.inj hr'
      exact (Record.checked_ok hr).2

/-! ## Records that were held -/

/-- Somewhere between `s` and what it has become, the store held `r` at its version. -/
def Held (s s' : MemoryStore) (r : Record) : Prop :=
  ∃ m, s.Becomes m ∧ m.Becomes s' ∧ m.current = some r

theorem Held.of_current {s s' : MemoryStore} {r : Record} (h : s.Becomes s')
    (hr : s'.current = some r) : Held s s' r :=
  ⟨s', h, .same, hr⟩

/-- A record that was held once was held, whatever is written later. -/
theorem Held.mono {s s' s'' : MemoryStore} {r : Record} (h : Held s s' r)
    (hb : s'.Becomes s'') : Held s s'' r := by
  obtain ⟨m, hsm, hms, hr⟩ := h
  exact ⟨m, hsm, hms.trans hb, hr⟩

/-- The record that is held has the version of the store. -/
theorem version_of_current {s : MemoryStore} {r : Record} (h : s.current = some r) :
    r.version = some s.version := by
  obtain ⟨b, -, rfl⟩ := Option.map_eq_some_iff.mp h
  rfl

theorem replacing_of_current {s : MemoryStore} {r : Record} (h : s.current = some r) :
    WriteCondition.replacing r = .holds s.version := by
  simp [WriteCondition.replacing, version_of_current h]

/-- The condition of replacing the record that is held holds. -/
theorem meets_of_current {s : MemoryStore} {r : Record} (h : s.current = some r) :
    s.meets (.replacing r) = true := by
  rw [replacing_of_current h]
  obtain ⟨b, hb, -⟩ := Option.map_eq_some_iff.mp h
  simp [meets, hb]

/-- A record that was held is replaced only while it is held. -/
theorem Held.current_of_meets {s s' : MemoryStore} {r : Record} (h : Held s s' r)
    (hm : s'.meets (.replacing r) = true) : s'.current = some r := by
  obtain ⟨m, -, hms, hr⟩ := h
  rw [replacing_of_current hr] at hm
  simp only [meets, Bool.and_eq_true, decide_eq_true_eq] at hm
  rw [hms.eq_of_version_eq hm.2]
  exact hr

end MemoryStore

end TokenCustody
