/-
TokenCustody.Proofs.Coordination.Agreement — one version, one record.

Records reach those who use them in two ways. Some are read from the
store, which tags what it holds. Others are made by the run that hands
them out: it has stored the record without a version, and adds the one
that the store has answered. Both kinds are passed around and compared by
their versions alone.

That is sound. Whatever kinds of runs share a store, and whatever a
rejection is reported of, any two records that have been made known with
the same version are equal in every field. A run knows only what the
store held at the version that it knows (`Kept`), and at one version the
store held one record (`Held.eq_of_version_eq`), however often it was
written since.
-/
import TokenCustody.Proofs.Coordination.System
import TokenCustody.Proofs.Store.Calls

namespace TokenCustody.Coordination

open TokenCustody.MemoryStore (Held)

/-- A store that all kinds of runs share. They begin as they like, and a rejection may be
reported of any record whatever. Clocks and the provider answer as they like. -/
def crowd : Surroundings where
  World := MemoryStore
  Begins _ _ _ := True
  Answers _ := MemoryStore.Answers

/-- Since `s₀` the store held all that stands in the ledgers. -/
structure CrowdInvariant (s₀ s : MemoryStore) (c : Cast) : Prop where
  becomes : s₀.Becomes s
  kept : ∀ i a, c i = some a → Kept s₀ s a.ledger

namespace CrowdInvariant

variable {s₀ s s' : MemoryStore} {c : Cast} {i : Nat}

/-- Before any run has begun there is nothing to agree on. -/
theorem start (s₀ : MemoryStore) : CrowdInvariant s₀ s₀ fun _ => none :=
  ⟨.same, fun _ _ hi => (nomatch hi)⟩

/-- A run that begins has read nothing yet. -/
theorem begin (h : CrowdInvariant s₀ s c) (o : Task) :
    CrowdInvariant s₀ s (Function.update c i (some (.begin o))) :=
  ⟨h.becomes, forall_update (.blank s₀ s) fun j b _ hj => h.kept j b hj⟩

/-- One move of one run keeps all that the others have read. -/
theorem move {a : Actor} {e : Entry Custody} {stage : Stage} (h : CrowdInvariant s₀ s c)
    (hm : Move a.task a.stage e stage) (hi : c i = some a) (ha : s.Answers e s') :
    CrowdInvariant s₀ s' (Function.update c i (some (a.after hm))) := by
  refine ⟨h.becomes.trans ha.becomes, forall_update ?_ fun j b _ hj => ?_⟩
  · exact (h.kept i a hi).enter h.becomes (.answers ha)
  · exact (h.kept j b hj).mono ha.becomes

end CrowdInvariant

/-- Every record that a run has read or ended with has a version, and is equal to any other
with the same version. -/
theorem version_agreement {s₀ : MemoryStore} {σ : System crowd}
    (h : (System.still (E := crowd) s₀).Reaches σ) {r r' : Record} (hr : σ.Gave r)
    (hr' : σ.Gave r') : r.version.isSome ∧ (r.version = r'.version → r = r') := by
  obtain ⟨c, hp, hc⟩ := h.staged (CrowdInvariant s₀) (.start s₀)
    (fun _ _ _ _ o hc _ _ _ => hc.begin o)
    (fun _ _ _ _ _ _ _ hm hc hi ha => hc.move hm hi ha)
  have hheld {r : Record} (hr : σ.Gave r) : Held s₀ σ.world r := by
    obtain ⟨i, a, ha, hg⟩ := hp.gave hr
    exact hg.held (hc.kept i a ha)
  refine ⟨?_, (hheld hr).eq_of_version_eq (hheld hr')⟩
  obtain ⟨m, -, -, hcur⟩ := hheld hr
  simp [MemoryStore.version_of_current hcur]

/-! ## Two runs to look at

The plainest run that writes ends with a record of its own making. Another one looks
afterwards, and finds it. -/

namespace Sample

/-- What a run sees that looks at the store after that. -/
def looking : List (Entry Custody) :=
  [.asked .timer .zero, .asked (.tally .attempt) (),
    .called (S := Custody) .read (.ok renewed.current), .asked .now .epoch]

theorem finds : ∃ x, looking.foldlM Program.advance (Task.inspection .default).program =
    some (.done x) ∧ x.record? = renewed.current := by
  have hrun : ((looking.foldlM Program.advance (Task.inspection .default).program).bind
      Program.result?).map Result.record? = some renewed.current := by
    decide +kernel
  obtain ⟨x, hx, hr⟩ := Option.map_eq_some_iff.mp hrun
  obtain ⟨p, hp, hx⟩ := Option.bind_eq_some_iff.mp hx
  exact ⟨x, by rw [hp, Program.eq_done_of_result hx], hr⟩

end Sample

/-- The record that one run has made and the record that another has found are the same. -/
theorem version_agreement_of_sample :
    ∃ (σ : System crowd) (x : Result) (found : Record),
      (System.still (E := crowd) (.seeded Sample.base)).Reaches σ ∧
      σ.runs 0 = some ⟨Sample.task, .of Sample.seenToEnd,
        .done (.outcome (.ok (.refreshed Sample.made)))⟩ ∧
      σ.runs 1 = some ⟨.inspection .default, .of Sample.looking, .done x⟩ ∧
      x.record? = some found ∧ Sample.made.version = found.version ∧ Sample.made = found := by
  obtain ⟨x, hx, hfound⟩ := Sample.finds
  obtain ⟨found, hcur⟩ : ∃ found, Sample.renewed.current = some found :=
    Option.isSome_iff_exists.mp (by decide +kernel)
  have hstart : (System.still (E := crowd) (.seeded Sample.base)).Reaches _ := .start
  have hfirst := hstart.lone (i := 0) (o := Sample.task) rfl trivial
    (.append .start Sample.answeredToEnd Sample.run_eq)
  have hlooked : Answered MemoryStore.Answers Sample.renewed Sample.looking Sample.renewed :=
    ⟨_, .asked .., _, .asked .., _, .read, _, .asked .., rfl⟩
  have hboth := hfirst.lone (i := 1) (o := .inspection .default) rfl trivial
    (.append .start hlooked hx)
  have hversion : Sample.made.version = found.version := by
    rw [MemoryStore.version_of_current hcur]
    decide +kernel
  refine ⟨_, x, found, hboth, rfl, rfl, hfound.trans hcur, hversion, ?_⟩
  refine (version_agreement hboth ?_ ?_).2 hversion
  · exact ⟨0, _, rfl, Or.inr ⟨_, rfl, rfl⟩⟩
  · exact ⟨1, _, rfl, Or.inr ⟨_, rfl, hfound.trans hcur⟩⟩

end TokenCustody.Coordination
