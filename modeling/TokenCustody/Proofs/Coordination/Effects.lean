/-
TokenCustody.Proofs.Coordination.Effects — what a run has done to the
store.

Whoever obtains a token or reports a rejection is told what came of it,
and can rely on that for what happened to the store. A run that failed,
or that uses a record it has not made, has written nothing. A run that
says it has refreshed has written that one record. A run that calls a
human has written at most the fault that it calls for.

This holds whatever others write between the calls of the run, whatever
the provider and the clocks answer, and also if the store is out of reach
at times.
-/
import TokenCustody.Proofs.Coordination.Following
import TokenCustody.Proofs.Coordination.Serving

namespace TokenCustody.Coordination

open TokenCustody.MemoryStore (Held)

/-- What holds of a run and the store it is served by: the store has become what it is, the
run has a reason for being where it is, and the store held what the run knows. -/
structure ServedInvariant (o : Task) (s₀ : MemoryStore) (l : Ledger) (s : MemoryStore)
    (stage : Stage) : Prop where
  becomes : s₀.Becomes s
  backed : stage.Backed o l
  kept : Kept s₀ s l

theorem ServedInvariant.move {o : Task} {s₀ s s' : MemoryStore} {l : Ledger}
    {stage stage' : Stage} {e : Entry Custody} (h : ServedInvariant o s₀ l s stage)
    (ha : s.AnswersAmongPeers e s') (hm : Move o stage e stage') :
    ServedInvariant o s₀ (l.enter e) s' stage' := by
  obtain ⟨m, hb, ha⟩ := ha
  have hbm := h.becomes.trans hb
  exact ⟨hbm.trans ha.becomes, hm.backed h.backed, (h.kept.mono hb).enter hbm ha⟩

/-- A run that has come to an outcome has written what the outcome says, and a record in
it was held by the store at the record's version. -/
theorem outcome_accounted {o : Task} {s₀ s : MemoryStore} {seen : List (Entry Custody)}
    {x : Except Error Outcome}
    (h : Course MemoryStore.AnswersAmongPeers s₀ o.program seen s (.done (.outcome x))) :
    Accounted o (.of seen) x ∧ ∀ out r, x = .ok out → out.record? = some r → Held s₀ s r := by
  have hstart : ServedInvariant o s₀ .blank s₀ o.start :=
    ⟨.same, Stage.backed_start o, .blank s₀ s₀⟩
  have hi := Task.invariant (ServedInvariant o s₀) h hstart fun _ _ _ _ _ _ hi ha hm =>
    hi.move ha hm
  have hb : Result.Backed o (.of seen) (.outcome x) := hi.backed
  refine ⟨hb, ?_⟩
  rintro out r rfl hr
  exact hi.kept.result hb hr

/-- The plainest run that writes has written the record that it ends with. -/
theorem outcome_accounted_of_sample :
    ∃ (s : MemoryStore) (r : Record),
      Course MemoryStore.AnswersAmongPeers (.seeded Sample.base) Sample.task.program
        Sample.seenToEnd s (.done (.outcome (.ok (.refreshed r)))) ∧
      Accounted Sample.task (.of Sample.seenToEnd) (.ok (.refreshed r)) ∧
      Held (.seeded Sample.base) s r := by
  have hanswered : Answered MemoryStore.AnswersAmongPeers _ _ _ :=
    Sample.answeredToEnd.mono fun _ _ _ h => h.amongPeers
  have hc := Course.append .start hanswered Sample.run_eq
  obtain ⟨hacc, hheld⟩ := outcome_accounted hc
  exact ⟨_, _, hc, hacc, hheld _ _ rfl rfl⟩

end TokenCustody.Coordination
