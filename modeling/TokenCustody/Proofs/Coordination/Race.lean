/-
TokenCustody.Proofs.Coordination.Race — of runs that refresh the same
record one wins.

Any number of runs have read the same record at the same version, each
has been granted a successor of its own, and nobody else writes. They
know nothing of each other. In whatever order they take their turns, one
of them stores its record, and all others end with that record, version
included. No run asks the provider twice.

The invariant (`Race`) has two phases. While the race is open the store
is as it was, and whoever comes to write will be let in. Once it is
decided the store is one write further and stays there: the version that
everybody else would replace is gone for good, so every later write comes
too late, and who looks again finds the record of the winner.
-/
import TokenCustody.Proofs.Coordination.System
import TokenCustody.Proofs.Token.State

namespace TokenCustody

/-! ## What was asked -/

/-- Whether an entry is a call for a refresh, whatever its answer. -/
def Entry.isRefresh : Entry Custody → Bool
  | .called (.refresh _) _ => true
  | _ => false

namespace Coordination

open TokenCustody.Time

theorem Ledger.length_granted_enter {l : Ledger} {e : Entry Custody}
    (h : ∀ token e', e ≠ .called (S := Custody) (.refresh token) (.error e')) :
    (l.enter e).granted.length = l.granted.length + [e].countP Entry.isRefresh := by
  cases e with
  | asked q a => rfl
  | called r a =>
    cases r with
    | refresh token =>
      cases a with
      | error e' => exact absurd rfl (h token e')
      | ok g => simp [enter, Entry.isRefresh]
    | _ => cases a <;> rfl

/-- If no call for a refresh fails, there are as many grants as calls. -/
theorem Ledger.length_granted_of {seen : List (Entry Custody)}
    (h : ∀ token e, Entry.called (S := Custody) (.refresh token) (.error e) ∉ seen) :
    (of seen).granted.length = seen.countP Entry.isRefresh := by
  have hfold (l : Ledger) : (seen.foldl enter l).granted.length =
      l.granted.length + seen.countP Entry.isRefresh := by
    induction seen generalizing l with
    | nil => rfl
    | cons e seen ih =>
      have hhead := length_granted_enter (l := l) (e := e) fun token e' he =>
        h token e' (he ▸ List.mem_cons_self)
      rw [List.foldl_cons, ih (fun token e' hm => h token e' (List.mem_cons_of_mem _ hm)), hhead,
        Nat.add_assoc, ← List.countP_append, List.singleton_append]
  exact (hfold .blank).trans (Nat.zero_add _)

/-! ## The race -/

/-- Runs that obtain a token, and nobody else, share a store. -/
def racing : Surroundings where
  World := MemoryStore
  Begins _ _ o := ∃ cfg deadline, o = .obtain cfg deadline
  Answers _ := MemoryStore.Answers

/-- The answers that suit a run in a race for the successor of `base`. The first record it
reads is `base`, a refresh of `base` is due then, its call for a refresh is granted with a valid
successor, and it never runs late. Whatever it reads later is still usable when it looks at
the clock. -/
def Favours (base : Record) (o : Task) (l : Ledger) : Entry Custody → Prop
  | .called .read a => l.found = [] → a = .ok (some base)
  | .called (.refresh _) a => ∃ g next, a = .ok g ∧
      base.successor g o.settings.refreshLifetime = some (.ok next)
  | .asked .now t =>
    match l.found with
    | [] => True
    | [r] => ∃ st, r.stateAt o.settings.refreshThreshold t .notObserved = some st ∧
        st.needsRefresh = true
    | _ :: later => ∀ r ∈ later, r.UsableAt o.settings.refreshThreshold t
  | .asked .timer t => ¬o.Late t
  | _ => True

/-- Where a run is that has not won. `won` is the record that the winner has stored. -/
def Stage.Races (base : Record) (won : Option Record) (l : Ledger) : Stage → Prop
  | looking .first last => last = none ∧ l.found = [] ∧ l.granted = []
  | weighing .first found => found = some base ∧ l.found = [base] ∧ l.granted = []
  | refreshing b last => b = base ∧ last = none ∧ l.found = [base] ∧ l.granted = []
  | writing (.successor b _) => b = base ∧ l.found = [base] ∧ l.granted.length = 1
  | looking (.recover _ _ _) last =>
    last = none ∧ won.isSome ∧ l.found = [base] ∧ l.granted.length = 1
  | weighing (.recover _ _ _) found =>
    ∃ r, won = some r ∧ found = some r ∧ l.found = [base, r] ∧ l.granted.length = 1
  | ended x => ∃ r, won = some r ∧ x = .outcome (.ok (.refreshedByPeer r)) ∧ l.granted.length = 1
  | _ => False

/-- The actor has stored `r` and ends with it. -/
def Actor.Won (a : Actor) (r : Record) : Prop :=
  a.stage = .ended (.outcome (.ok (.refreshed r))) ∧ a.ledger.granted.length = 1

/-- The winner's record is the first that was stored after `base` was read. -/
structure Winning (s₀ : MemoryStore) (base : Record) (s : MemoryStore) (r : Record) : Prop where
  current : s.current = some r
  wrote : s = s₀.write r.bare
  unfaulted : r.fault = none
  count : r.refreshCount = base.refreshCount + 1

/-- The store is as it was while nobody has won, and holds the winner's record after that. -/
def Standing (s₀ : MemoryStore) (base : Record) (s : MemoryStore) : Option Record → Prop
  | none => s = s₀
  | some r => Winning s₀ base s r

/-- How a race stands. -/
inductive Race (s₀ : MemoryStore) (base : Record) (s : MemoryStore) (c : Cast) : Prop where
  /-- Nobody has won. -/
  | undecided (hs : s = s₀) (hraces : ∀ i a, c i = some a → a.stage.Races base none a.ledger)
  /-- The run with the number `i` has won. -/
  | decided (i : Nat) (r : Record) (hs : Winning s₀ base s r) (hi : ∃ a, c i = some a ∧ a.Won r)
      (hraces : ∀ j a, j ≠ i → c j = some a → a.stage.Races base (some r) a.ledger)

/-! ## Moves -/

/-- No attempt to read has failed. -/
theorem Stage.Races.last_eq_none {base : Record} {won : Option Record} {l : Ledger} {goal : Goal}
    {last : Option Error} (h : (looking goal last).Races base won l) : last = none := by
  cases goal with
  | first => exact h.1
  | recover b next e => exact h.1
  | _ => exact h.elim

/-- Once somebody has won, it changes nothing for the others. -/
theorem Stage.Races.decided {base : Record} {l : Ledger} {stage : Stage}
    (h : stage.Races base none l) (r : Record) : stage.Races base (some r) l := by
  cases stage with
  | looking goal last =>
    cases goal with
    | recover b next e => exact absurd h.2.1 (by simp)
    | _ => exact h
  | weighing goal found =>
    cases goal with
    | recover b next e =>
      obtain ⟨r, hr, -⟩ := h
      cases hr
    | _ => exact h
  | ended x =>
    obtain ⟨r, hr, -⟩ := h
    cases hr
  | writing d => cases d <;> exact h
  | _ => exact h

section Moves

variable {s₀ s s' : MemoryStore} {base : Record} {won : Option Record} {o : Task} {l : Ledger}
variable {stage : Stage} {e : Entry Custody}

/-- The first record that is read is refreshed. -/
theorem Stage.races_weighed_first {t : Instant}
    (hr : (weighing .first (some base)).Races base won l)
    (hf : Favours base o l (.asked .now t)) :
    (Goal.first.weighed (some base)
      (stateOf o.settings.refreshThreshold (some base) t .notObserved)).Races base won l := by
  obtain ⟨-, hfound, hgranted⟩ := hr
  have hdue : ∃ st, base.stateAt o.settings.refreshThreshold t .notObserved = some st ∧
      st.needsRefresh = true := by
    simpa only [Favours, hfound] using hf
  obtain ⟨st, hst, hneeds⟩ := hdue
  have hof : Stage.ofState base st = .refreshing base none := by
    cases st with
    | expiringSoon => rfl
    | expiredRefreshable => rfl
    | _ => cases hneeds
  have hweighed : Goal.first.weighed (some base) (stateOf o.settings.refreshThreshold (some base)
      t .notObserved) = .refreshing base none := by
    simp only [stateOf, hst, Goal.weighed, hof]
  rw [hweighed]
  exact ⟨rfl, rfl, hfound, hgranted⟩

/-- Whoever looks again ends with the record of the winner. It is unfaulted, so nobody
mistakes it for what a refresh of its own has left behind. -/
theorem Stage.races_weighed_recover {b next r : Record} {e : Error} {t : Instant}
    (hunfaulted : r.fault = none) (hfound : l.found = [base, r])
    (hgranted : l.granted.length = 1) (hf : Favours base o l (.asked .now t)) :
    ((Goal.recover b next e).weighed (some r)
      (stateOf o.settings.refreshThreshold (some r) t .notObserved)).Races base (some r) l := by
  have husable : r.UsableAt o.settings.refreshThreshold t := by
    have hlater : ∀ r' ∈ [r], r'.UsableAt o.settings.refreshThreshold t := by
      simpa only [Favours, hfound] using hf
    exact hlater r (List.mem_singleton_self r)
  obtain ⟨st, hst, hu⟩ := husable
  have hother : Option.filter (isOwnShadow b) (some r) = none := by
    simp [isOwnShadow, hunfaulted]
  have hsettled : settled (some r) st (.error e) = .ok (.refreshedByPeer r) := by
    cases st with
    | valid => rfl
    | expiringSoon => rfl
    | _ => cases hu
  have hweighed : (Goal.recover b next e).weighed (some r) (stateOf o.settings.refreshThreshold
      (some r) t .notObserved) = .ended (.outcome (.ok (.refreshedByPeer r))) := by
    simp only [stateOf, hst, Goal.weighed, hother, hsettled]
  rw [hweighed]
  exact ⟨r, rfl, rfl, hgranted⟩

/-- Whoever writes first wins, and whoever writes after that looks again. -/
theorem Stage.races_written {next : Record} {a : Except Error Version} (h₀ : s₀.current = some base)
    (hs : Standing s₀ base s won) (hb : (writing (.successor base next)).Backed o l)
    (hr : (writing (.successor base next)).Races base won l)
    (ha : s.Answers (.called (.write next (.replacing base)) a) s') :
    (s' = s ∧ ((Draft.successor base next).written a).Races base won
      (l.enter (.called (.write next (.replacing base)) a))) ∨
    (won = none ∧ ∃ r, Winning s₀ base s' r ∧
      (Draft.successor base next).written a = .ended (.outcome (.ok (.refreshed r)))) := by
  obtain ⟨-, hfound, hgranted⟩ := hr
  obtain ⟨g, -, hn⟩ := hb.2.granted
  obtain ⟨hcount, hunfaulted, hversion⟩ := Record.successor_facts hn
  obtain ⟨_, _, _, -, -, hsound, -⟩ := Record.successor_ok hn
  obtain ⟨rfl, rfl⟩ := ha.write_inv
  cases won with
  | none =>
    obtain rfl : s = s₀ := hs
    have hput := MemoryStore.put_of_meets hsound (MemoryStore.meets_of_current h₀)
    rw [hput]
    have hbare : (next.withVersion (s.write next).version).bare = next :=
      Record.bare_withVersion hversion _
    exact Or.inr ⟨rfl, next.withVersion (s.write next).version,
      ⟨s.current_write next, by rw [hbare], hunfaulted, hcount⟩, rfl⟩
  | some r =>
    -- The version that was read is gone.
    have hfails : s.meets (.replacing base) = false := by
      have hne : (s₀.write r.bare).version ≠ s₀.version :=
        mt MemoryStore.versionOf_inj.mp (Nat.succ_ne_self s₀.counter)
      rw [MemoryStore.replacing_of_current h₀, hs.wrote]
      simp [MemoryStore.meets, hne]
    have hput : s.put next (.replacing base) = (.error (WriteCondition.replacing base).failed, s) :=
      MemoryStore.put_of_not_meets hsound hfails
    rw [hput]
    exact Or.inl ⟨rfl, rfl, rfl, hfound, hgranted⟩

/-- A run that has not won goes on like that, or it wins by storing its record first. -/
theorem Move.races {stage' : Stage} (h : Move o stage e stage') (h₀ : s₀.current = some base)
    (hs : Standing s₀ base s won) (hb : stage.Backed o l) (hr : stage.Races base won l)
    (ha : s.Answers e s') (hf : Favours base o l e) :
    (s' = s ∧ stage'.Races base won (l.enter e)) ∨
    (won = none ∧ ∃ r, Winning s₀ base s' r ∧ stage' = .ended (.outcome (.ok (.refreshed r))) ∧
      (l.enter e).granted.length = 1) := by
  cases h with
  | emit | tally | timer | draw | sleep => exact Or.inl ⟨ha.eq_of_asked, hr⟩
  | readFailed e => cases ha
  | readGivenUp e => cases hr.last_eq_none
  | @read goal last found =>
    cases ha
    refine Or.inl ⟨rfl, ?_⟩
    cases goal with
    | first =>
      obtain ⟨-, hfound, hgranted⟩ := hr
      have hbase : s.current = some base := Except.ok.inj (hf hfound)
      rw [hbase]
      exact ⟨rfl, by simp [Ledger.enter, hfound], hgranted⟩
    | recover b next e =>
      obtain ⟨-, hfirst, hfound, hgranted⟩ := hr
      obtain ⟨r, rfl⟩ := Option.isSome_iff_exists.mp hfirst
      have hcurrent : s.current = some r := hs.current
      rw [hcurrent]
      exact ⟨r, rfl, rfl, by simp [Ledger.enter, hfound], hgranted⟩
    | _ => exact hr.elim
  | @weighed goal found t =>
    refine Or.inl ⟨ha.eq_of_asked, ?_⟩
    cases goal with
    | first =>
      obtain rfl := hr.1
      exact Stage.races_weighed_first hr hf
    | recover b next e =>
      obtain ⟨r, rfl, rfl, hfound, hgranted⟩ := hr
      exact Stage.races_weighed_recover hs.unfaulted hfound hgranted hf
    | _ => exact hr.elim
  | refreshFailed e =>
    obtain ⟨g, next, hg, -⟩ := hf
    cases hg
  | refreshRefused e h => cases hr.2.1
  | refreshGivenUp e h => cases hr.2.1
  | granted g =>
    obtain ⟨rfl, -, hfound, hgranted⟩ := hr
    obtain ⟨g', next, hg, hn⟩ := hf
    cases hg
    cases ha
    rw [hn]
    exact Or.inl ⟨rfl, rfl, hfound, by simp [Ledger.enter, hgranted]⟩
  | faulted t => exact hr.elim
  | @wrote d a =>
    cases d with
    | successor b next =>
      obtain rfl := hr.1
      obtain h | ⟨hfirst, r, hr', hended⟩ := Stage.races_written h₀ hs hb hr ha
      · exact Or.inl h
      · refine Or.inr ⟨hfirst, r, hr', hended, ?_⟩
        cases a <;> exact hr.2.2
    | _ => exact hr.elim
  | tooLate name h => exact absurd h hf
  | reported t => exact hr.elim
  | notReported name t => exact hr.elim
  | beyond h t => obtain ⟨used, why, rfl⟩ | rfl := h <;> exact hr.elim
  | checked t r => exact hr.elim
  | exchanged code uri a => exact hr.elim

/-- Having won is the end. -/
theorem Actor.Won.move {a : Actor} {r : Record} {stage : Stage} (h : a.Won r)
    (hm : Move a.task a.stage e stage) (ha : s.Answers e s') :
    s' = s ∧ (a.after hm).Won r := by
  obtain ⟨hstage, hgranted⟩ := h
  obtain ⟨o, l, x, hb⟩ := a
  dsimp only at hstage hgranted hm
  subst hstage
  cases hm with
  | emit | tally | timer => exact ⟨ha.eq_of_asked, rfl, hgranted⟩
  | draw h | sleep h => exact h.elim
  | beyond h t => obtain ⟨used, why, h⟩ | h := h <;> cases h

end Moves

namespace Race

variable {s₀ s s' : MemoryStore} {base : Record} {c : Cast} {i : Nat}

theorem start (s₀ : MemoryStore) (base : Record) : Race s₀ base s₀ fun _ => none :=
  .undecided rfl fun _ _ h => (nomatch h)

theorem begin (h : Race s₀ base s c) (hi : c i = none) (cfg : Settings) (deadline : Deadline) :
    Race s₀ base s (Function.update c i (some (.begin (.obtain cfg deadline)))) := by
  cases h with
  | undecided hs hraces =>
    exact .undecided hs (forall_update ⟨rfl, rfl, rfl⟩ fun j b _ hj => hraces j b hj)
  | decided w r hs hw hraces =>
    obtain ⟨a, ha, hwon⟩ := hw
    have hne : w ≠ i := by
      rintro rfl
      rw [hi] at ha
      cases ha
    refine .decided w r hs ⟨a, by rwa [Function.update_of_ne hne], hwon⟩ fun j b hj hb => ?_
    exact forall_update (P := fun j b => j ≠ w → b.stage.Races base (some r) b.ledger)
      (fun _ => ⟨rfl, rfl, rfl⟩) (fun j b _ hb hj => hraces j b hj hb) j b hb hj

/-- Whoever moves, a race that is undecided is decided by that or stays as it is, and a
decision is never taken back. -/
theorem move {a : Actor} {e : Entry Custody} {stage : Stage} (h₀ : s₀.current = some base)
    (h : Race s₀ base s c) (hm : Move a.task a.stage e stage) (hi : c i = some a)
    (ha : s.Answers e s') (hf : Favours base a.task a.ledger e) :
    Race s₀ base s' (Function.update c i (some (a.after hm))) := by
  cases h with
  | undecided hs hraces =>
    have hstanding : Standing s₀ base s none := hs
    obtain ⟨rfl, hr⟩ | ⟨-, r, hfirst, hended, hgranted⟩ :=
      hm.races h₀ hstanding a.backed (hraces i a hi) ha hf
    · exact .undecided hs (forall_update hr fun j b _ hj => hraces j b hj)
    · refine .decided i r hfirst ⟨a.after hm, Function.update_self .., hended, hgranted⟩ ?_
      intro j b hj hb
      rw [Function.update_of_ne hj] at hb
      exact (hraces j b hb).decided r
  | decided w r hs hw hraces =>
    obtain ⟨b, hb, hwon⟩ := hw
    by_cases hwi : i = w
    · subst hwi
      obtain rfl : a = b := Option.some.inj (hi.symm.trans hb)
      obtain ⟨rfl, hwon⟩ := hwon.move hm ha
      refine .decided i r hs ⟨a.after hm, Function.update_self .., hwon⟩ fun j b hj hb => ?_
      rw [Function.update_of_ne hj] at hb
      exact hraces j b hj hb
    · have hstanding : Standing s₀ base s (some r) := hs
      obtain ⟨rfl, hr⟩ | ⟨hfirst, -⟩ :=
        hm.races h₀ hstanding a.backed (hraces i a hwi hi) ha hf
      · refine .decided w r hs ⟨b, by rwa [Function.update_of_ne (Ne.symm hwi)], hwon⟩ ?_
        intro j b hj hb
        exact forall_update (P := fun j b => j ≠ w → b.stage.Races base (some r) b.ledger)
          (fun _ => hr) (fun j b _ hb hj => hraces j b hj hb) j b hb hj
      · cases hfirst

/-- What an actor ends with: the winner with what it has stored, and everybody else with the
same. -/
def outcomeOf (w : Nat) (r : Record) (i : Nat) : Outcome :=
  if i = w then .refreshed r else .refreshedByPeer r

/-- A race in which nobody goes on is decided. -/
theorem ends (h : Race s₀ base s c) (hsome : ∃ i a, c i = some a)
    (hover : ∀ i a, c i = some a → (∃ x, a.stage = .ended x) ∨ a.stage = .halted) :
    ∃ w r, Winning s₀ base s r ∧ (∃ a, c w = some a) ∧ ∀ i a, c i = some a →
      a.stage = .ended (.outcome (.ok (outcomeOf w r i))) ∧ a.ledger.granted.length = 1 := by
  cases h with
  | undecided hs hraces =>
    -- Whoever has ended has found what a winner has stored.
    obtain ⟨i, a, hi⟩ := hsome
    have hr := hraces i a hi
    obtain ⟨x, hx⟩ | hx := hover i a hi
    · rw [hx] at hr
      obtain ⟨r, hr, -⟩ := hr
      cases hr
    · rw [hx] at hr
      exact hr.elim
  | decided w r hs hw hraces =>
    obtain ⟨b, hb, hwon⟩ := hw
    refine ⟨w, r, hs, ⟨b, hb⟩, fun i a hi => ?_⟩
    unfold outcomeOf
    by_cases hiw : i = w
    · subst hiw
      obtain rfl : b = a := Option.some.inj (hb.symm.trans hi)
      rw [if_pos rfl]
      exact hwon
    · rw [if_neg hiw]
      have hr := hraces i a hiw hi
      obtain ⟨x, hx⟩ | hx := hover i a hi
      · rw [hx] at hr ⊢
        obtain ⟨r', hr', rfl, hgranted⟩ := hr
        cases hr'
        exact ⟨rfl, hgranted⟩
      · rw [hx] at hr
        exact hr.elim

end Race

/-! ## The end of a race -/

/-- Where every call for a refresh was granted, the grants of a run say how often it has asked
for one. -/
theorem calls_eq_granted {s₀ : MemoryStore} {base : Record} {turns : List (Nat × Entry Custody)}
    {σ : System racing} {i : Nat} {run : Run}
    (h : (System.still (E := racing) s₀).Unfolds (Favours base) turns σ)
    (hi : σ.runs i = some run) :
    (System.seenBy i turns).countP Entry.isRefresh = run.ledger.granted.length := by
  rw [(h.ledger_eq i).1 run hi, Ledger.length_granted_of]
  intro token e hm
  obtain ⟨m, hm, he⟩ := List.mem_map.mp hm
  obtain ⟨o, l, hf⟩ := h.suits (List.mem_filter.mp hm).1
  rw [he] at hf
  obtain ⟨g, next, hg, -⟩ := hf
  cases hg

/-- When all runs of a race are over, one of them has refreshed the record, and all others end
with what it has stored. Nothing else was written, and each run has asked for one refresh. -/
theorem one_winner {s₀ : MemoryStore} {base : Record} {turns : List (Nat × Entry Custody)}
    {σ : System racing} (h₀ : s₀.current = some base)
    (h : (System.still (E := racing) s₀).Unfolds (Favours base) turns σ)
    (hsome : ∃ i run, σ.runs i = some run)
    (hover : ∀ i run, σ.runs i = some run → run.rest.IsOver) :
    ∃ w r,
      (∃ run, σ.runs w = some run ∧ run.rest = .done (.outcome (.ok (.refreshed r)))) ∧
      (∀ i run, i ≠ w → σ.runs i = some run →
        run.rest = .done (.outcome (.ok (.refreshedByPeer r)))) ∧
      σ.world = s₀.write r.bare ∧ σ.world.current = some r ∧
      r.refreshCount = base.refreshCount + 1 ∧
      ∀ i run, σ.runs i = some run → (System.seenBy i turns).countP Entry.isRefresh = 1 := by
  obtain ⟨c, hp, hrace⟩ := h.staged (Race s₀ base) (.start s₀ base)
    (by
      rintro _ c _ i o hc - hi ⟨cfg, deadline, rfl⟩
      exact hc.begin hi cfg deadline)
    (fun _ _ _ _ _ _ _ hm hc hi ha hf => hc.move h₀ hm hi ha hf)
  have hactor : ∃ i a, c i = some a := by
    obtain ⟨i, run, hi⟩ := hsome
    obtain ⟨a, ha, -⟩ := hp.actor hi
    exact ⟨i, a, ha⟩
  obtain ⟨w, r, hfirst, ⟨b, hb⟩, hends⟩ := hrace.ends hactor fun i a ha => by
    obtain ⟨run, hi, hpa⟩ := hp.run ha
    obtain ⟨x, -, hx⟩ | hx := hpa.over (hover i run hi)
    · exact Or.inl ⟨x, hx⟩
    · exact Or.inr hx
  have hrun {i : Nat} {run : Run} (hi : σ.runs i = some run) :
      run.rest = .done (.outcome (.ok (Race.outcomeOf w r i))) ∧
        run.ledger.granted.length = 1 := by
    obtain ⟨a, ha, hpa⟩ := hp.actor hi
    obtain ⟨hstage, hgranted⟩ := hends i a ha
    rw [hpa.ledger] at hgranted
    obtain ⟨x, hdone, hx⟩ | hx := hpa.over (hover i run hi)
    · rw [hstage] at hx
      cases hx
      exact ⟨hdone, hgranted⟩
    · rw [hstage] at hx
      cases hx
  obtain ⟨run, hw, -⟩ := hp.run hb
  refine ⟨w, r, ⟨run, hw, ?_⟩, fun i run hne hi => ?_, hfirst.wrote, hfirst.current, hfirst.count,
    fun i run hi => ?_⟩
  · rw [(hrun hw).1, Race.outcomeOf, if_pos rfl]
  · rw [(hrun hi).1, Race.outcomeOf, if_neg hne]
  · rw [calls_eq_granted h hi, (hrun hi).2]

/-! ## Two runs to look at

Both have read the same record and were granted a successor. The first one stores its own, and
the second one comes too late. -/

namespace Sample

/-- What another run is granted. -/
def otherGrant : Grant := { grant with accessToken := "access 3", refreshToken := some "refresh 3" }

/-- The record that the other run would store. -/
def otherNext : Record := { next with accessToken := "access 3", refreshToken := "refresh 3" }

/-- What the first run sees when it stores its record. -/
def first : List (Entry Custody) := [write, .asked (.emit (.refresh true)) ()]

/-- What the other run sees when it comes too late. -/
def late : List (Entry Custody) :=
  [.called (S := Custody) (.write otherNext (.replacing held))
      (.error (WriteCondition.replacing held).failed),
    .asked (.emit .conflict) (), .asked (.tally .attempt) (),
    .called (S := Custody) .read (.ok renewed.current), .asked .now .epoch]

/-- A run that ends has been granted something on the way. -/
theorem exists_granted {g : Grant} {t : List (Entry Custody)} {x : Result}
    (h : (granted g ++ t).foldlM Program.advance task.program = some (.done x)) :
    ∃ p, (granted g).foldlM Program.advance task.program = some p ∧
      t.foldlM Program.advance p = some (.done x) := by
  rw [List.foldlM_append] at h
  exact Option.bind_eq_some_iff.mp h

theorem suited {g : Grant}
    (hg : ((held.successor g Settings.default.refreshLifetime).bind Except.toOption).isSome) :
    System.Suited (Favours held) task .blank (granted g) := by
  have hnext : ∃ r, held.successor g Settings.default.refreshLifetime = some (.ok r) := by
    obtain ⟨r, hr⟩ := Option.isSome_iff_exists.mp hg
    obtain ⟨x, hx, hr⟩ := Option.bind_eq_some_iff.mp hr
    cases x with
    | error e => cases hr
    | ok r => exact ⟨r, hx⟩
  obtain ⟨r, hr⟩ := hnext
  exact ⟨trivial, fun _ => rfl, ⟨.expiredRefreshable, by decide +kernel, rfl⟩, trivial, trivial,
    trivial, ⟨g, r, rfl, hr⟩, not_not_intro (by decide +kernel), trivial⟩

theorem asks {g : Grant} :
    Answered MemoryStore.Answers (.seeded base) (granted g) (.seeded base) :=
  ⟨_, .asked .., _, .read, _, .asked .., _, .asked .., _, .asked .., _, .asked ..,
    _, .refresh .., _, .asked .., rfl⟩

/-- The first run stores its record. -/
theorem firstAnswered : Answered MemoryStore.Answers (.seeded base) first renewed :=
  ⟨_, written, _, .asked .., rfl⟩

/-- The version that the other run would replace is gone. -/
theorem lateAnswered : Answered MemoryStore.Answers renewed late renewed := by
  have hput : renewed.put otherNext (.replacing held) =
      (.error (WriteCondition.replacing held).failed, renewed) :=
    MemoryStore.put_of_not_meets (by decide +kernel) (by decide +kernel)
  have hwrite := MemoryStore.Answers.write (s := renewed) otherNext (.replacing held)
  rw [hput] at hwrite
  exact ⟨_, hwrite, _, .asked .., _, .asked .., _, .read, _, .asked .., rfl⟩

end Sample

/-- Both runs end with the record of the first, which is the only one that is stored. -/
theorem one_winner_of_sample :
    ∃ (turns : List (Nat × Entry Custody)) (σ : System racing) (w : Nat) (r : Record),
      (System.still (E := racing) (.seeded Sample.base)).Unfolds (Favours Sample.held) turns σ ∧
      (∃ run, σ.runs w = some run ∧ run.rest = .done (.outcome (.ok (.refreshed r)))) ∧
      (∀ i run, i ≠ w → σ.runs i = some run →
        run.rest = .done (.outcome (.ok (.refreshedByPeer r)))) ∧
      (σ.runs 0).isSome ∧ (σ.runs 1).isSome ∧
      σ.world = (MemoryStore.seeded Sample.base).write r.bare := by
  obtain ⟨p, hp, hpend⟩ := Sample.exists_granted (t := Sample.first) Sample.run_eq
  have hlost : (Sample.granted Sample.otherGrant ++ Sample.late).foldlM Program.advance
      Sample.task.program = some (.done (.outcome (.ok (.refreshedByPeer Sample.made)))) :=
    Program.ends_of_reading (fun _ => Result.eq_outcome) (by decide +kernel)
  obtain ⟨q, hq, hqend⟩ := Sample.exists_granted hlost
  have hstart : (System.still (E := racing) (.seeded Sample.base)).Unfolds (Favours Sample.held)
    [] _ := .start
  have hboth := (hstart.begin 0 Sample.task rfl ⟨_, _, rfl⟩).begin 1 Sample.task rfl ⟨_, _, rfl⟩
  have hasked := hboth.goOn (i := 0) rfl Sample.asks (Sample.suited (by decide +kernel)) hp
  have hasked' := hasked.goOn (i := 1) rfl Sample.asks (Sample.suited (by decide +kernel)) hq
  have hfirst := hasked'.goOn (i := 0) rfl Sample.firstAnswered ⟨trivial, trivial, trivial⟩ hpend
  have husable : Sample.made.UsableAt Settings.default.refreshThreshold .epoch :=
    ⟨.expiringSoon, by decide +kernel, rfl⟩
  have hlate := hfirst.goOn (i := 1) rfl Sample.lateAnswered
    ⟨trivial, trivial, trivial, nofun, List.forall_mem_singleton.mpr husable, trivial⟩ hqend
  obtain ⟨w, r, hw, hothers, hworld, -⟩ := one_winner rfl hlate ⟨0, _, rfl⟩ fun i run hi => by
    match i, hi with
    | 0, hi =>
      cases hi
      trivial
    | 1, hi =>
      cases hi
      trivial
    | n + 2, hi =>
      simp only [Function.update] at hi
      cases hi
  exact ⟨_, _, w, r, hlate, hw, hothers, rfl, rfl, hworld⟩

end Coordination

end TokenCustody
