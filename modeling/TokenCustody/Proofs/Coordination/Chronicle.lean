/-
TokenCustody.Proofs.Coordination.Chronicle — all that a store has held,
in order.

The records that a store has held tell more than the one that it holds.
Say that every refresh stays in the lineage of refresh tokens that it
came from, and that every authorization begins a new one. Then of the
records that no call was turned away with, those of a lineage never count
fewer refreshes than those before them (`Chronicle.furthest`), and two of
them with the same refresh token and the same count expire together
(`Chronicle.agree`). So a run that finds a fault on what looks like the
record that it has refreshed finds one that expires when that record
does.

What can be written in place of a record is of four kinds, and each keeps
the chronicle: a rejection, a fault that the provider gave, a refresh that
was due (`Chronicle.refreshed`), and the first record of a lineage.
-/
import Mathlib.Data.List.Chain
import TokenCustody.Proofs.Coordination.Lineage
import TokenCustody.Proofs.Token.State

namespace TokenCustody

open TokenCustody.Time

/-! ## What a store has held -/

/-- All that the store has held since it was `s₀`, oldest first, without versions. -/
def MemoryStore.heldSince (s₀ s : MemoryStore) : List Record :=
  s₀.slot.toList ++ s.history.drop s₀.history.length

namespace MemoryStore

variable {s₀ s : MemoryStore} {r : Record}

theorem heldSince_self (s₀ : MemoryStore) : heldSince s₀ s₀ = s₀.slot.toList := by
  simp [heldSince]

/-- Nothing is taken out of a history. -/
theorem Becomes.history (h : s₀.Becomes s) : s₀.history <+: s.history := by
  induction h with
  | same => exact List.prefix_refl _
  | @put m _ r c ih =>
    obtain ⟨e, -, hs⟩ | ⟨-, -, -, hs⟩ := m.put_cases r c
    · rwa [hs]
    · rw [hs]
      exact ih.trans (List.prefix_append _ _)

/-- A write adds the record to what was held. -/
theorem heldSince_write (h : s₀.Becomes s) (r : Record) :
    heldSince s₀ (s.write r) = heldSince s₀ s ++ [r.bare] := by
  show _ ++ (s.history ++ [r.bare]).drop s₀.history.length = _
  rw [List.drop_append_of_le_length h.history.length_le, heldSince, List.append_assoc]

/-- The store holds the last of all that it has held. -/
theorem Becomes.getLast_heldSince (h : s₀.Becomes s) : (heldSince s₀ s).getLast? = s.slot := by
  induction h with
  | same =>
    rw [heldSince_self]
    cases s₀.slot <;> rfl
  | @put m h r c ih =>
    obtain ⟨e, -, hs⟩ | ⟨-, -, -, hs⟩ := m.put_cases r c
    · rwa [hs]
    · rw [hs, heldSince_write h, List.getLast?_append]
      rfl

theorem Becomes.heldSince_mono {s' : MemoryStore} (h : s₀.Becomes s) (h' : s.Becomes s') :
    heldSince s₀ s ⊆ heldSince s₀ s' := by
  induction h' with
  | same => exact List.Subset.refl _
  | @put m hm r c ih =>
    obtain ⟨e, -, hs⟩ | ⟨-, -, -, hs⟩ := m.put_cases r c
    · rwa [hs]
    · rw [hs, heldSince_write (h.trans hm)]
      exact fun b hb => List.mem_append_left _ (ih hb)

/-- The record that is held now was held last. -/
theorem mem_heldSince_of_current (h : s₀.Becomes s) (hr : s.current = some r) :
    ∃ b ∈ heldSince s₀ s, (heldSince s₀ s).getLast? = some b ∧ ∃ v, r = b.withVersion v := by
  obtain ⟨b, hb, rfl⟩ := Option.map_eq_some_iff.mp hr
  have hlast : (heldSince s₀ s).getLast? = some b := h.getLast_heldSince.trans hb
  exact ⟨b, List.mem_of_getLast? hlast, hlast, _, rfl⟩

/-- A record that was held is among those that the store has held, its version aside. -/
theorem Held.mem_heldSince (h : Held s₀ s r) : ∃ b ∈ heldSince s₀ s, ∃ v, r = b.withVersion v := by
  obtain ⟨m, hm, hms, hr⟩ := h
  obtain ⟨b, hb, -, hv⟩ := mem_heldSince_of_current hm hr
  exact ⟨b, hm.heldSince_mono hms hb, hv⟩

end MemoryStore

/-- No call with the access token of the record was turned away, as far as the record says. -/
def Record.Unrejected (r : Record) : Prop := ∀ f, r.fault = some f → f.kind ≠ .apiRejected

theorem Record.unrejected_of_unfaulted {r : Record} (h : r.fault = none) : r.Unrejected := by
  intro f hf
  rw [h] at hf
  cases hf

namespace Coordination

/-! ## What may replace what -/

/-- The record `next` was stored in place of `prev` for a refresh only when that was due and no
call was turned away, and for a refusal by the provider only if `prev` carried no fault. -/
structure Spaced (threshold : Span) (prev next : Record) : Prop where
  refreshed : Origin.shown next = .refresh →
    prev.Unrejected ∧ prev.dueFrom threshold ≤ next.issuedAt
  noted : next.fault ≠ none → next.Unrejected →
    prev.fault = none ∧ prev.expiresAt = next.expiresAt

theorem Origin.shown_eq_refresh {r : Record} :
    Origin.shown r = .refresh ↔ r.fault = none ∧ r.refreshCount ≠ 0 := by
  unfold Origin.shown
  cases r.fault with
  | some f => simp
  | none => simp

theorem Origin.shown_eq_fault {r : Record} : Origin.shown r = .fault ↔ r.fault ≠ none := by
  unfold Origin.shown
  cases r.fault with
  | some f => simp
  | none =>
    by_cases hc : r.refreshCount = 0
    · simp [hc]
    · simp [hc]

/-- Between two refreshes there is at most one record with a fault, and that expires when the
first of the two does. -/
theorem dueFrom_le_of_spaced {threshold : Span} {before faults later : List Record}
    {first second : Record}
    (h : (before ++ first :: (faults ++ second :: later)).IsChain (Spaced threshold))
    (hshown : ∀ r ∈ faults, Origin.shown r = .fault) (hsecond : Origin.shown second = .refresh) :
    first.dueFrom threshold ≤ second.issuedAt := by
  have hnext := List.isChain_iff_forall_rel_of_append_cons_cons.mp h
  have hfaults : ∀ r ∈ faults, r.fault ≠ none :=
    fun r hr => Origin.shown_eq_fault.mp (hshown r hr)
  rcases List.eq_nil_or_concat' faults with rfl | ⟨faults, f, rfl⟩
  · exact ((hnext rfl).refreshed hsecond).2
  · have hf : f.fault ≠ none := hfaults f (by simp)
    have hend : before ++ first :: (faults ++ [f] ++ second :: later) =
        (before ++ first :: faults) ++ f :: second :: later := by simp
    obtain ⟨hrejected, hdue⟩ := (hnext hend).refreshed hsecond
    rcases List.eq_nil_or_concat' faults with rfl | ⟨faults, p, rfl⟩
    · have hexpires := ((hnext rfl).noted hf hrejected).2
      rwa [Record.dueFrom_congr hexpires]
    · -- A fault is not stored on a fault.
      have hmid : before ++ first :: (faults ++ [p] ++ [f] ++ second :: later) =
          (before ++ first :: faults) ++ p :: f :: second :: later := by simp
      exact absurd ((hnext hmid).noted hf hrejected).1 (hfaults p (by simp))

/-! ## The chronicle of lineages -/

/-- What holds of the records that a store has held, oldest first. The lineages that the
provider has begun are `begun`. -/
structure Chronicle (threshold : Span) (lineageOf : String → Nat) (begun : List Nat)
    (records : List Record) : Prop where
  spaced : records.IsChain (Spaced threshold)
  begun : ∀ b ∈ records, b.Unrejected → lineageOf b.refreshToken ∈ begun
  /-- The last record has been refreshed as often as any in its lineage. -/
  furthest : ∀ p, records.getLast? = some p → p.Unrejected → ∀ b ∈ records, b.Unrejected →
    lineageOf b.refreshToken = lineageOf p.refreshToken → b.refreshCount ≤ p.refreshCount
  /-- Records with the same refresh token, as often refreshed, expire together. -/
  agree : ∀ b ∈ records, ∀ p ∈ records, b.Unrejected → p.Unrejected →
    p.refreshToken = b.refreshToken → p.refreshCount = b.refreshCount → p.expiresAt = b.expiresAt

namespace Chronicle

variable {threshold : Span} {lineageOf : String → Nat} {begun begun' : List Nat}
variable {records : List Record} {p next : Record}

theorem start {r : Option Record} (h : ∀ b, r = some b → lineageOf b.refreshToken ∈ begun) :
    Chronicle threshold lineageOf begun r.toList := by
  cases r with
  | none => exact ⟨.nil, List.forall_mem_nil _, fun p hp => (by cases hp), List.forall_mem_nil _⟩
  | some r =>
    refine ⟨.singleton r, ?_, ?_, ?_⟩
    · intro b hb _
      obtain rfl := List.mem_singleton.mp hb
      exact h b rfl
    · intro p hp _ b hb _ _
      obtain rfl := List.mem_singleton.mp hb
      cases hp
      exact Nat.le_refl _
    · intro b hb p hp _ _ _ _
      obtain rfl := List.mem_singleton.mp hb
      obtain rfl := List.mem_singleton.mp hp
      rfl

theorem mono (h : Chronicle threshold lineageOf begun records) (hsub : begun ⊆ begun') :
    Chronicle threshold lineageOf begun' records :=
  ⟨h.spaced, fun b hb hr => hsub (h.begun b hb hr), h.furthest, h.agree⟩

/-- A record that no call was turned away with must be of a lineage that has begun, be the
furthest of it, and expire with those that are as far and have its token. -/
theorem append (h : Chronicle threshold lineageOf begun records)
    (hspaced : ∀ p, records.getLast? = some p → Spaced threshold p next)
    (hbegun : next.Unrejected → lineageOf next.refreshToken ∈ begun)
    (hnext : next.Unrejected → ∀ b ∈ records, b.Unrejected →
      lineageOf b.refreshToken = lineageOf next.refreshToken → b.refreshCount ≤ next.refreshCount ∧
        (b.refreshToken = next.refreshToken → b.refreshCount = next.refreshCount →
          b.expiresAt = next.expiresAt)) :
    Chronicle threshold lineageOf begun (records ++ [next]) := by
  have hmem {b : Record} (hb : b ∈ records ++ [next]) : b ∈ records ∨ b = next := by
    simpa using hb
  refine ⟨?_, fun b hb hr => ?_, fun q hq hqr b hb hr hl => ?_,
    fun b hb q hq hr hqr ht hc => ?_⟩
  · refine h.spaced.append (.singleton next) fun p hp q hq => ?_
    cases hq
    exact hspaced p hp
  · rcases hmem hb with hb | rfl
    · exact h.begun b hb hr
    · exact hbegun hr
  · obtain rfl : q = next := by simpa using hq.symm
    rcases hmem hb with hbefore | rfl
    · exact (hnext hqr b hbefore hr hl).1
    · exact Nat.le_refl _
  · rcases hmem hb with hbefore | rfl <;> rcases hmem hq with hqbefore | rfl
    · exact h.agree b hbefore q hqbefore hr hqr ht hc
    · exact ((hnext hqr b hbefore hr (congrArg lineageOf ht.symm)).2 ht.symm hc.symm).symm
    · exact (hnext hr q hqbefore hqr (congrArg lineageOf ht)).2 ht hc
    · rfl

/-- A rejection may be stored at any time. -/
theorem rejected (h : Chronicle threshold lineageOf begun records) {f : Fault}
    (hf : next.fault = some f) (hkind : f.kind = .apiRejected) :
    Chronicle threshold lineageOf begun (records ++ [next]) := by
  have hnot : ¬next.Unrejected := fun hn => hn f hf hkind
  refine h.append (fun _ _ => ⟨fun hshown => ?_, fun _ hn => absurd hn hnot⟩)
    (fun hn => absurd hn hnot) fun hn => absurd hn hnot
  rw [Origin.shown_eq_refresh, hf] at hshown
  cases hshown.1

/-- A fault that the provider gave may be stored on the last record. -/
theorem noted (h : Chronicle threshold lineageOf begun records)
    (hp : records.getLast? = some p) (hfault : p.fault = none) (f : Fault) :
    Chronicle threshold lineageOf begun (records ++ [(p.withFault f).bare]) := by
  have hmem := List.mem_of_getLast? hp
  have hr := Record.unrejected_of_unfaulted hfault
  refine h.append (fun q hq => ⟨fun hshown => ?_, fun _ _ => ?_⟩) (fun _ => h.begun p hmem hr)
    fun _ b hb hbr hl => ⟨h.furthest p hp hr b hb hbr hl, fun ht hc =>
      h.agree p hmem b hb hr hbr ht hc⟩
  · cases (Origin.shown_eq_refresh.mp hshown).1
  · cases hp.symm.trans hq
    exact ⟨hfault, rfl⟩

/-- A refresh of the last record, or of one that expires with it, may be stored if it was due. -/
theorem refreshed (h : Chronicle threshold lineageOf begun records)
    (hp : records.getLast? = some p) (hr : p.Unrejected)
    (hcount : next.refreshCount = p.refreshCount + 1)
    (hlineage : lineageOf next.refreshToken = lineageOf p.refreshToken)
    (hfault : next.fault = none) (hdue : p.dueFrom threshold ≤ next.issuedAt) :
    Chronicle threshold lineageOf begun (records ++ [next]) := by
  refine h.append (fun q hq => ⟨fun _ => ?_, fun hn => absurd hfault hn⟩) (fun _ => ?_)
    fun _ b hb hbr hl => ?_
  · cases hp.symm.trans hq
    exact ⟨hr, hdue⟩
  · rw [hlineage]
    exact h.begun p (List.mem_of_getLast? hp) hr
  · have hle := h.furthest p hp hr b hb hbr (hl.trans hlineage)
    exact ⟨by omega, fun _ hc => absurd hc (by omega)⟩

/-- The first record of a lineage may be stored at any time. -/
theorem first (h : Chronicle threshold lineageOf begun records) (hcount : next.refreshCount = 0)
    (hfault : next.fault = none) (hbegun : lineageOf next.refreshToken ∈ begun)
    (hnew : ∀ b ∈ records, b.Unrejected →
      lineageOf b.refreshToken ≠ lineageOf next.refreshToken) :
    Chronicle threshold lineageOf begun (records ++ [next]) :=
  h.append (fun _ _ => ⟨fun hshown => absurd hcount (Origin.shown_eq_refresh.mp hshown).2,
      fun hn => absurd hfault hn⟩) (fun _ => hbegun)
    fun _ b hb hbr hl => absurd hl (hnew b hb hbr)

end Chronicle

end Coordination

end TokenCustody
