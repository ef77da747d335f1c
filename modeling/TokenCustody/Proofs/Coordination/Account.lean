/-
TokenCustody.Proofs.Coordination.Account — what a run can account for.

Everything that matters about what a run has done is in three lists: the
records it has read, the grants it has received and the writes it has
made. They are its `Ledger`. A stage is BACKED by a ledger (`Stage.Backed`)
if the run has a reason for being there: what it is about to replace is
what it has read, what it is about to store was granted, it has written
nothing yet, and its result says exactly what it has written.

Every move keeps the stage backed (`Move.backed`), whatever the answer
that made it, so nothing here depends on who answers.
-/
import TokenCustody.Proofs.Coordination.Stage
import TokenCustody.Proofs.Token.Record

namespace TokenCustody.Coordination

open TokenCustody.Time

/-! ## Ledgers -/

/-- What a run has read, been granted and written, oldest first. -/
structure Ledger where
  found : List Record
  granted : List Grant
  /-- The records as they were handed over, with the versions they were given. -/
  written : List (Record × Version)

namespace Ledger

/-- Before anything has happened. -/
def blank : Ledger := ⟨[], [], []⟩

/-- The ledger after one more answer. -/
def enter (l : Ledger) : Entry Custody → Ledger
  | .called .read (.ok f) => { l with found := l.found ++ f.toList }
  | .called (.refresh _) (.ok g) => { l with granted := l.granted ++ [g] }
  | .called (.write r _) (.ok v) => { l with written := l.written ++ [(r, v)] }
  | _ => l

/-- The ledger of what a run has seen. -/
def of (seen : List (Entry Custody)) : Ledger := seen.foldl enter blank

@[simp] theorem of_snoc (seen : List (Entry Custody)) (e : Entry Custody) :
    of (seen ++ [e]) = (of seen).enter e := by
  simp [of]

/-- Records enter a ledger by a read only. -/
theorem mem_found_enter {l : Ledger} {e : Entry Custody} {r : Record}
    (h : r ∈ (l.enter e).found) :
    r ∈ l.found ∨ e = .called (S := Custody) .read (.ok (some r)) := by
  unfold enter at h
  split at h
  · rcases List.mem_append.mp h with h | h
    · exact Or.inl h
    · rw [Option.mem_toList.mp h]
      exact Or.inr rfl
  · exact Or.inl h
  · exact Or.inl h
  · exact Or.inl h

/-- Grants enter a ledger by a refresh only. -/
theorem mem_granted_enter {l : Ledger} {e : Entry Custody} {g : Grant}
    (h : g ∈ (l.enter e).granted) :
    g ∈ l.granted ∨ ∃ token, e = .called (S := Custody) (.refresh token) (.ok g) := by
  unfold enter at h
  split at h
  · exact Or.inl h
  · next token g' =>
    rcases List.mem_append.mp h with h | h
    · exact Or.inl h
    · rw [List.mem_singleton.mp h]
      exact Or.inr ⟨token, rfl⟩
  · exact Or.inl h
  · exact Or.inl h

end Ledger

/-! ## Acting on a record -/

/-- The record whose rejection a task reports. -/
def Task.used? : Task → Option Record
  | rejection _ used _ => some used
  | _ => none

/-- The record that a run acts on: the one whose rejection it reports, or else the first
that it has read. -/
def Task.actsOn (o : Task) (l : Ledger) : Option Record := o.used?.or l.found.head?

/-- The run acts on `base`, and `base` was unfaulted. -/
structure Acts (o : Task) (l : Ledger) (base : Record) : Prop where
  acted : o.actsOn l = some base
  unfaulted : base.fault = none

/-- The run acts on `base` and was granted its successor `next`. -/
structure Renews (o : Task) (l : Ledger) (base next : Record) : Prop extends Acts o l base where
  granted : ∃ g ∈ l.granted, base.successor g o.settings.refreshLifetime = some (.ok next)

/-- The record that a run acts on is settled by its first read, so it stays the same. -/
theorem Acts.enter {o : Task} {l : Ledger} {base : Record} (h : Acts o l base)
    (e : Entry Custody) : Acts o (l.enter e) base := by
  refine ⟨?_, h.unfaulted⟩
  have hb : o.used?.or l.found.head? = some base := h.acted
  show o.used?.or (l.enter e).found.head? = some base
  unfold Ledger.enter
  split
  · cases hu : o.used? with
    | some _ => simpa [hu] using hb
    | none =>
      rw [hu, Option.none_or] at hb
      simp [List.head?_append, hb]
  · exact hb
  · exact hb
  · exact hb

/-- A successor that was granted stays granted. -/
theorem Renews.enter {o : Task} {l : Ledger} {base next : Record} (h : Renews o l base next)
    (e : Entry Custody) : Renews o (l.enter e) base next := by
  refine ⟨h.toActs.enter e, ?_⟩
  obtain ⟨g, hg, hn⟩ := h.granted
  refine ⟨g, ?_, hn⟩
  unfold Ledger.enter
  split
  · exact hg
  · exact List.mem_append_left _ hg
  · exact hg
  · exact hg

/-! ## Results -/

/-- What the run ends with if nothing is written has no record in it. -/
def Recordless (x : Except Error Outcome) : Prop := ∀ out, x = .ok out → out.record? = none

/-- The run has written what its outcome says, and nothing else. -/
def Accounted (o : Task) (l : Ledger) : Except Error Outcome → Prop
  | .error _ => l.written = []
  | .ok (.unchanged r) | .ok (.refreshedByPeer r) => l.written = [] ∧ r ∈ l.found
  | .ok (.refreshed r) =>
    (∃ v, r.version = some v ∧ l.written = [(r.bare, v)]) ∧ ∃ base, Renews o l base r.bare
  | .ok (.needsAuthorization _) =>
    l.written = [] ∨
      ∃ base fault v, o.actsOn l = some base ∧ l.written = [(base.withFault fault, v)]

/-- A result without a record is accounted for as long as nothing was written. -/
theorem Recordless.accounted {o : Task} {l : Ledger} {x : Except Error Outcome}
    (h : Recordless x) (hw : l.written = []) : Accounted o l x := by
  match x, h with
  | .error _, _ => exact hw
  | .ok (.needsAuthorization _), _ => exact Or.inl hw
  | .ok (.unchanged r), h => cases h _ rfl
  | .ok (.refreshed r), h => cases h _ rfl
  | .ok (.refreshedByPeer r), h => cases h _ rfl

theorem recordless_error (e : Error) : Recordless (.error e) := fun _ h => nomatch h

theorem recordless_human (why : Reason) : Recordless (.ok (.needsAuthorization why)) := by
  intro out h
  cases h
  rfl

/-- A run that looked again gives back what it has found, or else no record. -/
theorem accounted_settled {o : Task} {l : Ledger} {found : Option Record} {st : TokenState}
    {otherwise : Except Error Outcome} (hw : l.written = [])
    (hf : ∀ r, found = some r → r ∈ l.found) (h : Recordless otherwise) :
    Accounted o l (settled found st otherwise) := by
  cases found with
  | none => exact (recordless_human .noRecord).accounted hw
  | some r =>
    cases st with
    | valid => exact ⟨hw, hf r rfl⟩
    | expiringSoon => exact ⟨hw, hf r rfl⟩
    | invalid => exact (recordless_human _).accounted hw
    | expiredUnrefreshable => exact (recordless_human _).accounted hw
    | expiredRefreshable => exact h.accounted hw
    | uninitialized => exact h.accounted hw

/-- The run has written what its result says, and nothing else. -/
def Result.Backed (o : Task) (l : Ledger) : Result → Prop
  | .outcome x => Accounted o l x
  | .record (.error _) => l.written = []
  | .record (.ok r) => ∃ v, r.version = some v ∧ l.written = [(r.bare, v)]
  | .finding (.error _) => l.written = []
  | .finding (.ok (found, _)) => l.written = [] ∧ ∀ r, found = some r → r ∈ l.found

/-! ## Stages -/

/-- A run looks again only for what it was granted, or to end without a record. -/
def Goal.Backed (o : Task) (l : Ledger) : Goal → Prop
  | first => o.used? = none
  | recover base next _ => Renews o l base next
  | settle otherwise => Recordless otherwise
  | tell => True

/-- What is about to be written was granted, or is the record that was refused. -/
def Draft.Backed (o : Task) (l : Ledger) : Draft → Prop
  | successor base next => Renews o l base next
  | overShadow base next shadow =>
    Renews o l base next ∧ shadow ∈ l.found ∧ isOwnShadow base shadow = true
  | fault base _ _ otherwise => Acts o l base ∧ ∀ e, Recordless (otherwise e)
  | first r => ∃ g : Grant, g.firstRecord o.settings.refreshLifetime = some (.ok r)

/-- The run has a reason for being where it is. It has written only if it has ended. -/
def Stage.Backed (o : Task) (l : Ledger) : Stage → Prop
  | looking goal _ => l.written = [] ∧ (goal = .first → l.found = []) ∧ goal.Backed o l
  | weighing goal found =>
    l.written = [] ∧ (goal = .first → l.found = found.toList) ∧
      (∀ r, found = some r → r ∈ l.found) ∧ goal.Backed o l
  | refreshing base _ | refused base _ => l.written = [] ∧ Acts o l base
  | writing d => l.written = [] ∧ d.Backed o l
  | reporting used _ => l.written = [] ∧ Acts o l used
  | checking | exchanging | halted => l.written = []
  | ended r => r.Backed o l

namespace Stage

variable {o : Task} {l : Ledger}

/-- A run that has just read an unfaulted record acts on it. -/
theorem backed_ofState {r : Record} {st : TokenState} {threshold : Span} {t : Instant}
    (hw : l.written = []) (hu : o.used? = none) (hf : l.found = [r])
    (hst : r.stateAt threshold t .notObserved = some st) : (ofState r st).Backed o l := by
  have hact (hne : st ≠ .invalid) : Acts o l r := by
    refine ⟨by simp [Task.actsOn, hu, hf], ?_⟩
    cases hfault : r.fault with
    | none => rfl
    | some f =>
      simp only [Record.stateAt, hfault, Option.isSome_some, true_or, if_true,
        Option.some.injEq] at hst
      exact absurd hst.symm hne
  cases st with
  | valid => exact ⟨hw, by simp [hf]⟩
  | expiringSoon => exact ⟨hw, hact (by decide)⟩
  | expiredRefreshable => exact ⟨hw, hact (by decide)⟩
  | expiredUnrefreshable => exact Or.inl hw
  | invalid => exact Or.inl hw
  | uninitialized => exact Or.inl hw

/-- The look at the clock leads to a stage that the ledger backs. -/
theorem backed_weighed {g : Goal} {found : Option Record} {threshold : Span} {t : Instant}
    (h : (weighing g found).Backed o l) :
    (g.weighed found (stateOf threshold found t .notObserved)).Backed o l := by
  obtain ⟨hw, hfirst, hf, hg⟩ := h
  cases hst : stateOf threshold found t .notObserved with
  | none => cases g <;> exact hw
  | some st =>
    cases g with
    | first =>
      cases found with
      | none => exact Or.inl hw
      | some r => exact backed_ofState hw hg (hfirst rfl) hst
    | recover base next e =>
      dsimp only [Goal.weighed]
      cases hs : found.filter (isOwnShadow base) with
      | none => exact accounted_settled hw hf (recordless_error e)
      | some shadow =>
        obtain ⟨hfound, hown⟩ := Option.filter_eq_some_iff.mp hs
        exact ⟨hw, hg, hf shadow hfound, hown⟩
    | settle otherwise => exact accounted_settled hw hf hg
    | tell => exact ⟨hw, hf⟩

/-- Whatever the store answers to a write, the ledger backs what follows. -/
theorem backed_written {d : Draft} {a : Except Error Version}
    (h : (writing d).Backed o l) :
    (d.written a).Backed o (l.enter (.called (.write d.record d.condition) a)) := by
  obtain ⟨hw, hd⟩ := h
  cases a with
  | ok v =>
    have hwv : (l.enter (.called (.write d.record d.condition) (.ok v))).written =
        [(d.record, v)] := by
      show l.written ++ [(d.record, v)] = _
      rw [hw, List.nil_append]
    have hstored (next : Record) (hv : next.version = none) (hr : d.record = next) :
        ∃ v', (next.withVersion v).version = some v' ∧
          (l.enter (.called (.write d.record d.condition) (.ok v))).written =
            [((next.withVersion v).bare, v')] := by
      rw [hwv, Record.bare_withVersion hv, hr]
      exact ⟨v, rfl, rfl⟩
    cases d with
    | successor base next =>
      obtain ⟨g, -, hn⟩ := hd.granted
      have hv := (Record.successor_facts hn).2.2
      refine ⟨hstored next hv rfl, base, ?_⟩
      rw [Record.bare_withVersion hv]
      exact hd.enter _
    | overShadow base next shadow =>
      obtain ⟨g, -, hn⟩ := hd.1.granted
      have hv := (Record.successor_facts hn).2.2
      refine ⟨hstored next hv rfl, base, ?_⟩
      rw [Record.bare_withVersion hv]
      exact hd.1.enter _
    | fault base f why otherwise => exact Or.inr ⟨base, f, v, (hd.1.enter _).acted, hwv⟩
    | first r =>
      obtain ⟨g, hr⟩ := hd
      exact hstored r (Grant.firstRecord_facts hr).2.2 rfl
  | error e =>
    -- A refused write is no entry. Only its being a conflict makes a difference.
    show (d.written (.error e)).Backed o l
    rcases d.written_error e with ⟨goal, hagain, h⟩ | h
    · rw [h]
      cases d with
      | successor base next =>
        cases hagain
        exact ⟨hw, (nomatch ·), hd⟩
      | overShadow base next shadow =>
        cases hagain
        exact ⟨hw, (nomatch ·), recordless_error e⟩
      | fault base f why otherwise =>
        cases hagain
        exact ⟨hw, (nomatch ·), hd.2 e⟩
      | first r => cases hagain
    · rw [h]
      cases d with
      | fault base f why otherwise => exact (hd.2 e).accounted hw
      | _ => exact hw

/-- At its start a run has nothing to account for. -/
theorem backed_start (o : Task) : o.start.Backed o .blank := by
  cases o with
  | obtain cfg deadline => exact ⟨rfl, fun _ => rfl, rfl⟩
  | rejection cfg used why =>
    show (ofUsed used why).Backed _ _
    unfold ofUsed
    split
    · exact rfl
    · split
      · exact Or.inl rfl
      · next hf => exact ⟨rfl, rfl, Option.not_isSome_iff_eq_none.mp hf⟩
  | authorization cfg s c => exact rfl
  | inspection cfg => exact ⟨rfl, fun _ => rfl, trivial⟩

end Stage

theorem Goal.Backed.enter {o : Task} {l : Ledger} {g : Goal} (h : g.Backed o l)
    (e : Entry Custody) : g.Backed o (l.enter e) := by
  cases g with
  | first => exact h
  | recover base next e' => exact Renews.enter h e
  | settle otherwise => exact h
  | tell => exact h

/-- Every move leads from a stage that is backed to one that is, whatever the answer. -/
theorem Move.backed {o : Task} {s s' : Stage} {e : Entry Custody} {l : Ledger}
    (h : Move o s e s') (hs : s.Backed o l) : s'.Backed o (l.enter e) := by
  cases h with
  | emit m => exact hs
  | tally t h => exact hs
  | timer t => exact hs
  | draw h x => exact hs
  | sleep h d => exact hs
  | readFailed e => exact hs
  | @readGivenUp g e =>
    obtain ⟨hw, -, hg⟩ := hs
    cases g <;> exact hw
  | @read g last found =>
    obtain ⟨hw, hfirst, hg⟩ := hs
    have hweigh : (Stage.weighing g found).Backed o
        (l.enter (.called (S := Custody) .read (.ok found))) := by
      refine ⟨hw, fun h => ?_, fun r hr => ?_, hg.enter _⟩
      · show l.found ++ found.toList = found.toList
        rw [hfirst h, List.nil_append]
      · show r ∈ l.found ++ found.toList
        simp [hr]
    cases g with
    | first =>
      cases found with
      | none => exact Or.inl hw
      | some r => exact hweigh
    | _ => exact hweigh
  | weighed t => exact Stage.backed_weighed hs
  | refreshFailed e => exact hs
  | refreshRefused e h => exact hs
  | refreshGivenUp e h => exact hs.1
  | @granted base last g =>
    obtain ⟨hw, hact⟩ := hs
    cases hn : base.successor g o.settings.refreshLifetime with
    | none => exact hw
    | some r =>
      cases r with
      | error e => exact hw
      | ok next =>
        exact ⟨hw, hact.enter _, g, List.mem_append_right _ (List.mem_singleton_self g), hn⟩
  | faulted t => exact ⟨hs.1, hs.2, fun _ => recordless_human _⟩
  | wrote a => exact Stage.backed_written hs
  | @tooLate d stage t h =>
    cases d with
    | fault base f why otherwise => exact Or.inl hs.1
    | _ => exact hs.1
  | reported t => exact ⟨hs.1, hs.2, recordless_error⟩
  | notReported stage t => exact hs.1
  | beyond h t =>
    obtain ⟨used, why, rfl⟩ | rfl := h
    · exact hs.1
    · exact hs.1
  | checked t r => cases r <;> exact hs
  | exchanged code uri a =>
    cases a with
    | error e => exact hs
    | ok g =>
      have hw : l.written = [] := hs
      show (Stage.ofExchange _ (.ok g)).Backed o l
      unfold Stage.ofExchange
      dsimp only
      split
      · exact hw
      · exact hw
      · next r hr => exact ⟨hw, g, hr⟩

end TokenCustody.Coordination
