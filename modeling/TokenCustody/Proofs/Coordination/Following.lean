/-
TokenCustody.Proofs.Coordination.Following — the programs of the custody
follow their protocol.

One lemma for each function of `Coordination`, in the order in which they
are defined: from which stage it can be entered, and at which stage it
leaves for each of its results. `Task.follows` puts them together: the
program of every task follows the protocol of that task from the task's
first stage, whatever the store, the provider and the clocks answer, and
its result is the one at which its last stage has ended.
-/
import TokenCustody.Proofs.Coordination.Account

namespace TokenCustody.Coordination

open TokenCustody.Program
open TokenCustody.Time

variable {o : Task}

/-! ## Looking -/

/-- What is counted for whoever watches does not move a run. -/
theorem follows_emit (m : Metric) (s : Stage) :
    (emit m).Follows o.protocol (fun s' _ => s' = s) s :=
  follows_asking fun _ => ⟨s, .emit m, rfl⟩

theorem follows_callHuman (why : Reason) (s : Stage) :
    (callHuman why).Follows o.protocol (fun s' r => s' = s ∧ r = .needsAuthorization why) s :=
  (follows_emit _ s).bind fun _ _ hs => ⟨hs, rfl⟩

/-- Reading the store is a retried operation. -/
def Goal.retrying (o : Task) (g : Goal) : Retrying o.protocol (Option Record) where
  waiting last := .looking g last
  succeeded found := g.looked found
  givenUp e := .ended (g.failed e)
  attempt _ := .tally _ (by decide)
  late _ := .tally _ (by decide)
  draw last x := .draw (s := .looking g last) trivial x
  timer _ t := .timer t
  sleep last d := .sleep (s := .looking g last) trivial d
  failure e := .readGivenUp e

/-- A read with its repetitions leads from looking to what was found, or to the end. -/
theorem follows_readStore (g : Goal) (d : Deadline) :
    (readStore o.settings d).Follows o.protocol (g.retrying o).Settled (.looking g none) := by
  refine (g.retrying o).follows_withRetries _ d fun last => follows_calling ?_
  rintro (e | found)
  · exact ⟨_, .readFailed e, rfl⟩
  · exact ⟨_, .read found, rfl⟩

/-- The state of what was read is told by one look at the clock. -/
theorem follows_assess (g : Goal) (found : Option Record) :
    (assess o.settings found).Follows o.protocol (fun s st => s = g.weighed found (some st))
      (.weighing g found) := by
  refine Follows.bind (Q := fun s t =>
    s = g.weighed found (stateOf o.settings.refreshThreshold found t .notObserved))
    (follows_asking fun t => ⟨_, .weighed t, rfl⟩) ?_
  rintro _ t rfl
  cases stateOf o.settings.refreshThreshold found t .notObserved with
  | none => cases g <;> rfl
  | some st => exact follows_pure rfl

/-- The end of another look: the stage is that of the state that was found. -/
def Goal.Looked (g : Goal) (s : Stage) : Except Error (Option Record × TokenState) → Prop
  | .error e => s = .ended (g.failed e)
  | .ok (found, st) => s = g.weighed found (some st)

/-- Another look is a read with its repetitions and the state of what it found. -/
theorem follows_lookAgain {g : Goal} (hg : ∀ found, g.looked found = .weighing g found)
    (d : Deadline) :
    (lookAgain o.settings d).Follows o.protocol g.Looked (.looking g none) := by
  refine (follows_readStore g d).bind ?_
  rintro s (e | found) hs
  · exact follows_pure hs
  · rw [show s = .weighing g found from hs.trans (hg found)]
    exact (follows_assess g found).bind fun _ _ h => follows_pure h

/-- An outcome is taken over without another move. -/
theorem follows_adopt (found : Option Record) (st : TokenState) (s : Stage) :
    (adopt found st).Follows o.protocol (fun s' r => s' = s ∧ r = adopted found st) s := by
  have human (why : Reason) : (do return some (← callHuman why) :
      Program Custody (Option Outcome)).Follows o.protocol
      (fun s' r => s' = s ∧ r = some (.needsAuthorization why)) s :=
    (follows_callHuman why s).bind fun _ _ h => ⟨h.1, congrArg some h.2⟩
  cases found with
  | none => exact human .noRecord
  | some r =>
    cases st with
    | invalid => exact human (.ofFault r)
    | expiredUnrefreshable => exact human .refreshTokenExpired
    | _ => exact follows_pure ⟨rfl, rfl⟩

/-- So is an error where nothing is there to be taken over. -/
theorem follows_adoptOr (e : Error) (found : Option Record) (st : TokenState) (s : Stage) :
    (adoptOr e found st).Follows o.protocol
      (fun s' r => s' = s ∧ r = settled found st (.error e)) s := by
  refine (follows_adopt found st s).bind ?_
  rintro _ r ⟨rfl, rfl⟩
  unfold settled
  cases adopted found st with
  | none => exact follows_pure ⟨rfl, rfl⟩
  | some _ => exact follows_pure ⟨rfl, rfl⟩

theorem follows_refreshFailed (e : Error) (s : Stage) :
    (refreshFailed e).Follows o.protocol (fun s' r => s' = s ∧ r = .error e) s := by
  refine (follows_emit _ s).bind ?_
  rintro _ _ rfl
  exact (follows_emit _ _).bind fun _ _ hs => ⟨hs, rfl⟩

/-! ## Writing -/

/-- The time that is left decides whether a run goes on to write. -/
theorem follows_ensureBudget {cfg : Settings} {deadline : Deadline} {name : String}
    {s late : Stage}
    (hlate : ∀ t, ¬cfg.writeGuard ≤ deadline.remainingAt t → Move o s (.asked .timer t) late) :
    (ensureBudget cfg deadline name).Follows o.protocol
      (fun s' r => (s' = s ∧ r = .ok ()) ∨
        (s' = late ∧ r = .error (.cancelled (.budgetExhausted name)))) s := by
  have htime : (deadline.hasAtLeast cfg.writeGuard : Program Custody Bool).Follows o.protocol
      (fun s' b => if b then s' = s else s' = late) s := by
    rw [deadline.hasAtLeast_eq]
    intro t
    by_cases ht : cfg.writeGuard ≤ deadline.remainingAt t
    · exact ⟨s, .timer t, by simp [Follows, ht]⟩
    · exact ⟨late, hlate t ht, by simp [Follows, ht]⟩
  refine htime.bind ?_
  rintro s' (_ | _) hs
  · rw [show s' = late from hs]
    refine (follows_emit _ _).bind ?_
    rintro _ _ rfl
    exact follows_pure (Or.inr ⟨rfl, rfl⟩)
  · rw [show s' = s from hs]
    exact follows_pure (Or.inl ⟨rfl, rfl⟩)

/-- A write leads to where its answer says. -/
theorem follows_write (d : Draft) :
    (Custody.write d.record d.condition).Follows o.protocol (fun s a => s = d.written a)
      (.writing d) :=
  follows_calling fun a => ⟨_, .wrote a, rfl⟩

/-- The stage that a run has come to is the end with its result. -/
def Ends (s : Stage) (r : Except Error Outcome) : Prop := s = .ended (.outcome r)

theorem follows_human (why : Reason) :
    (do return .ok (← callHuman why) : Program Custody (Except Error Outcome)).Follows
      o.protocol Ends (.ended (.outcome (.ok (.needsAuthorization why)))) := by
  refine (follows_callHuman why _).bind ?_
  rintro _ _ ⟨rfl, rfl⟩
  exact follows_pure rfl

/-- A run that looks again because nothing is left for it to write. -/
theorem follows_settle (d : Deadline) (otherwise : Except Error Outcome)
    {rest : Option Record → TokenState → Program Custody (Except Error Outcome)}
    (hrest : ∀ found st s, (rest found st).Follows o.protocol
      (fun s' r => s' = s ∧ r = settled found st otherwise) s) :
    (do
      match ← lookAgain o.settings d with
      | .error e => return .error e
      | .ok (found, state) => rest found state : Program Custody (Except Error Outcome)).Follows
      o.protocol Ends (.looking (.settle otherwise) none) := by
  refine (follows_lookAgain (fun _ => rfl) d).bind ?_
  rintro s (e | ⟨found, st⟩) hs
  · exact follows_pure hs
  · refine (hrest found st s).mono ?_
    rintro _ _ ⟨rfl, rfl⟩
    exact hs

section Obtain

variable {cfg : Settings} {deadline : Deadline}

/-- A run that obtains a token goes on to its write, or ends because it is too late for it. -/
theorem follows_budgetFor (d : Draft) (name : String) :
    (ensureBudget cfg deadline name).Follows (Task.obtain cfg deadline).protocol
      (fun s r => (s = .writing d ∧ r = .ok ()) ∨
        (s = .ended (d.tooLate name) ∧ r = .error (.cancelled (.budgetExhausted name))))
      (.writing d) :=
  follows_ensureBudget fun _ ht => Move.tooLate (o := .obtain cfg deadline) name ht

/-- The last write of a run: if others come before it, what they wrote decides. -/
theorem follows_replaceShadow (base next shadow : Record) :
    (replaceShadow cfg deadline next shadow).Follows (Task.obtain cfg deadline).protocol Ends
      (.writing (.overShadow base next shadow)) := by
  refine (follows_budgetFor (.overShadow base next shadow) _).bind ?_
  rintro _ _ (⟨rfl, rfl⟩ | ⟨rfl, rfl⟩)
  · refine (follows_write (.overShadow base next shadow)).bind ?_
    rintro _ (e | v) rfl
    · dsimp only [Draft.written, Draft.again]
      split
      · refine (follows_emit _ _).bind ?_
        rintro _ _ rfl
        exact follows_settle deadline _ fun found st s => follows_adoptOr e found st s
      · refine (follows_refreshFailed e _).mono ?_
        rintro _ _ ⟨rfl, rfl⟩
        rfl
    · refine (follows_emit _ _).bind ?_
      rintro _ _ rfl
      exact follows_pure rfl
  · exact follows_pure rfl

/-- The write of a successor. If it came too late the run looks for its own shadow, which it may
still write over. -/
theorem follows_storeRefreshed (base next : Record) :
    (storeRefreshed cfg deadline base next).Follows (Task.obtain cfg deadline).protocol Ends
      (.writing (.successor base next)) := by
  refine (follows_budgetFor (.successor base next) _).bind ?_
  rintro _ _ (⟨rfl, rfl⟩ | ⟨rfl, rfl⟩)
  · refine (follows_write (.successor base next)).bind ?_
    rintro _ (e | v) rfl
    · dsimp only [Draft.written, Draft.again]
      split
      · refine (follows_emit _ _).bind ?_
        rintro _ _ rfl
        refine (follows_lookAgain (g := .recover base next e) (fun _ => rfl) deadline).bind ?_
        rintro s (e' | ⟨found, st⟩) hs
        · exact follows_pure hs
        · rw [show s = Goal.weighed found (.recover base next e) (some st) from hs]
          dsimp only [Goal.weighed]
          cases found.filter (isOwnShadow base) with
          | some shadow => exact follows_replaceShadow base next shadow
          | none =>
            refine (follows_adoptOr e found st _).mono ?_
            rintro _ _ ⟨rfl, rfl⟩
            rfl
      · refine (follows_refreshFailed e _).mono ?_
        rintro _ _ ⟨rfl, rfl⟩
        rfl
    · refine (follows_emit _ _).bind ?_
      rintro _ _ rfl
      exact follows_pure rfl
  · exact follows_pure rfl

/-- The write of a refusal, which ends in a call for a human unless others did better. -/
theorem follows_storeFault (base : Record) (fault : Fault) (why : Reason) :
    (storeFault cfg deadline base fault why).Follows (Task.obtain cfg deadline).protocol Ends
      (.writing (.fault base fault why fun _ => .ok (.needsAuthorization why))) := by
  refine (follows_budgetFor (.fault base fault why _) _).bind ?_
  rintro _ _ (⟨rfl, rfl⟩ | ⟨rfl, rfl⟩)
  · refine (follows_write (.fault base fault why _)).bind ?_
    rintro _ (e | v) rfl
    · dsimp only [Draft.written, Draft.again]
      split
      · refine (follows_emit _ _).bind ?_
        rintro _ _ rfl
        refine follows_settle deadline _ fun found st s => ?_
        refine (follows_adopt found st s).bind ?_
        rintro _ _ ⟨rfl, rfl⟩
        unfold settled
        cases adopted found st with
        | some outcome => exact follows_pure ⟨rfl, rfl⟩
        | none =>
          refine (follows_callHuman why _).bind ?_
          rintro _ _ ⟨rfl, rfl⟩
          exact follows_pure ⟨rfl, rfl⟩
      · refine (follows_emit _ _).bind ?_
        rintro _ _ rfl
        exact follows_human _
    · exact follows_human _
  · exact follows_human _

/-! ## Runs -/

/-- Asking for a refresh is a retried operation. A refusal is told from other failures
when it is given up. -/
def retryingRefresh (o : Task) (base : Record) : Retrying o.protocol Grant where
  waiting last := .refreshing base last
  succeeded g := .ofSuccessor base (base.successor g o.settings.refreshLifetime)
  givenUp e := if e.needsHuman then .refused base e else .ended (.outcome (.error e))
  attempt _ := .tally _ (by decide)
  late _ := .tally _ (by decide)
  draw last x := .draw (s := .refreshing base last) trivial x
  timer _ t := .timer t
  sleep last d := .sleep (s := .refreshing base last) trivial d
  failure e := by
    cases h : e.needsHuman with
    | false => exact .refreshGivenUp e h
    | true => exact .refreshRefused e h

/-- A refresh with its repetitions leads to a successor, to a refusal or to the end. -/
theorem follows_askRefresh (base : Record) :
    (withRetries cfg.retry deadline (Custody.refresh base.refreshToken)).Follows
      (Task.obtain cfg deadline).protocol
      (retryingRefresh (.obtain cfg deadline) base).Settled (.refreshing base none) := by
  refine (retryingRefresh (.obtain cfg deadline) base).follows_withRetries _ _ fun last =>
    follows_calling ?_
  rintro (e | g)
  · exact ⟨_, .refreshFailed e, rfl⟩
  · exact ⟨_, .granted g, rfl⟩

/-- A refresh and the write that follows from it. -/
theorem follows_refresh (base : Record) :
    (refresh cfg deadline base).Follows (Task.obtain cfg deadline).protocol Ends
      (.refreshing base none) := by
  refine (follows_emit _ _).bind ?_
  rintro _ _ rfl
  refine (follows_askRefresh base).bind ?_
  rintro s (e | g) hs
  · have hgiven : s = if e.needsHuman then Stage.refused base e
        else .ended (.outcome (.error e)) := hs
    subst hgiven
    dsimp only
    split
    · refine (follows_emit _ _).bind ?_
      rintro _ _ rfl
      refine Follows.bind (Q := fun (s : Stage) t => s = .writing (.fault base
        ⟨faultKindOf e, e.message, t⟩ (.refreshRejected e.message)
        fun _ => .ok (.needsAuthorization (.refreshRejected e.message))))
        (follows_asking fun t => ⟨_, .faulted t, rfl⟩) ?_
      rintro _ t rfl
      exact follows_storeFault base _ _
    · refine (follows_refreshFailed e _).mono ?_
      rintro _ _ ⟨rfl, rfl⟩
      rfl
  · have hnext : s = .ofSuccessor base (base.successor g cfg.refreshLifetime) := hs
    subst hnext
    dsimp only
    cases base.successor g cfg.refreshLifetime with
    | none => exact rfl
    | some r =>
      cases r with
      | error e => exact rfl
      | ok next => exact follows_storeRefreshed base next

/-- The program that obtains a token, from its first look on. -/
theorem follows_obtainBy :
    (obtainBy cfg deadline).Follows (Task.obtain cfg deadline).protocol Ends
      (.looking .first none) := by
  refine (follows_readStore .first deadline).bind ?_
  rintro s (e | found) hs
  · exact follows_pure hs
  · rw [show s = Goal.first.looked found from hs]
    cases found with
    | none =>
      refine (follows_emit _ _).bind ?_
      rintro _ _ rfl
      exact follows_human _
    | some r =>
      refine (follows_assess .first (some r)).bind ?_
      rintro _ st rfl
      refine (follows_emit _ _).bind ?_
      rintro _ _ rfl
      cases st with
      | valid => exact follows_pure rfl
      | expiringSoon => exact follows_refresh r
      | expiredRefreshable => exact follows_refresh r
      | expiredUnrefreshable => exact follows_human _
      | invalid => exact follows_human _
      | uninitialized => exact follows_human _

end Obtain

/-- The deadline of a run that sets its own, or no result where the clock does not go so
far. -/
theorem follows_deadline {budget : Duration} {s : Stage}
    (hs : (∃ used why, s = .reporting used why) ∨ s = .looking .tell none) :
    (Deadline.after budget : Program Custody Deadline).Follows o.protocol (fun s' _ => s' = s)
      s := by
  intro t
  cases h : Deadline.afterAt t budget with
  | none => exact ⟨.halted, .beyond hs t, by simp [Follows, Program.bind, orHalt, h]⟩
  | some d => exact ⟨s, .timer t, by simp [Follows, Program.bind, orHalt, h]⟩

/-- The report of a rejection begins with the record that was turned away. -/
theorem follows_reportRejection (cfg : Settings) (used : Record) (why : String) :
    (reportRejection cfg used why).Follows (Task.rejection cfg used why).protocol Ends
      (.ofUsed used why) := by
  unfold reportRejection Stage.ofUsed
  cases hv : used.version with
  | none => exact follows_pure rfl
  | some version =>
    dsimp only
    split
    · exact follows_human _
    · refine (follows_deadline (Or.inl ⟨used, why, rfl⟩)).bind ?_
      rintro _ deadline rfl
      refine (follows_ensureBudget fun t _ => .notReported "rejection annotation" t).bind ?_
      rintro _ _ (⟨rfl, rfl⟩ | ⟨rfl, rfl⟩)
      · refine Follows.bind (Q := fun (s : Stage) t =>
          s = .writing (.fault used ⟨.apiRejected, why, t⟩ (.invalid why) .error))
          (follows_asking fun t => ⟨_, .reported t, rfl⟩) ?_
        rintro _ t rfl
        have hc : WriteCondition.replacing used = .holds version := by
          simp [WriteCondition.replacing, hv]
        rw [← hc]
        refine (follows_write (.fault used ⟨.apiRejected, why, t⟩ (.invalid why) .error)).bind ?_
        rintro _ (e | v) rfl
        · dsimp only [Draft.written, Draft.again]
          split
          · refine (follows_emit _ _).bind ?_
            rintro _ _ rfl
            exact follows_settle deadline _ fun found st s => follows_adoptOr e found st s
          · refine (follows_emit _ _).bind ?_
            rintro _ _ rfl
            exact follows_pure rfl
        · exact follows_human _
      · exact follows_pure rfl

/-- The program that only looks. -/
theorem follows_inspect (cfg : Settings) :
    (inspect cfg).Follows (Task.inspection cfg).protocol (fun s r => s = .ended (.finding r))
      (.looking .tell none) := by
  refine (follows_deadline (Or.inr rfl)).bind ?_
  rintro _ deadline rfl
  refine (follows_lookAgain (g := .tell) (fun _ => rfl) deadline).mono ?_
  rintro s (e | ⟨found, st⟩) hs
  · exact hs
  · exact hs

/-- The end of an authorization: the checks, the exchange and the first record. -/
theorem follows_complete (cfg : Settings) (s : Session) (c : Callback) :
    (Authorization.complete cfg s c).Follows (Task.authorization cfg s c).protocol
      (fun s r => s = .ended (.record r)) .checking := by
  refine Follows.bind (Q := fun (st : Stage) t =>
    st = .ofCheck (Authorization.acceptedCode s c t))
    (follows_asking fun t => ⟨_, .checked t _, rfl⟩) ?_
  rintro _ t rfl
  cases Authorization.acceptedCode s c t with
  | error e => exact follows_pure rfl
  | ok code =>
    refine Follows.bind (Q := fun (st : Stage) a => st = .ofExchange cfg.refreshLifetime a)
      (follows_calling fun a => ⟨_, .exchanged code s.redirectUri a, rfl⟩) ?_
    rintro _ (e | g) rfl
    · exact follows_pure rfl
    · dsimp only [Stage.ofExchange]
      cases g.firstRecord cfg.refreshLifetime with
      | none => exact rfl
      | some r =>
        cases r with
        | error e => exact rfl
        | ok r =>
          refine (follows_write (.first r)).bind ?_
          rintro _ (e | v) rfl
          · exact follows_pure rfl
          · refine (follows_emit _ _).bind ?_
            rintro _ _ rfl
            exact follows_pure rfl

/-- The program of every task follows the protocol of the task, to the stage that has
ended with its result. -/
theorem Task.follows (o : Task) :
    o.program.Follows o.protocol (fun s r => s = .ended r) o.start := by
  cases o with
  | obtain cfg deadline => exact follows_obtainBy.bind fun s r hs => hs
  | rejection cfg used why => exact (follows_reportRejection cfg used why).bind fun s r hs => hs
  | authorization cfg s c => exact (follows_complete cfg s c).bind fun s r hs => hs
  | inspection cfg => exact (follows_inspect cfg).bind fun s r hs => hs

/-- What holds where a task begins, and is kept by every move that the world answers, holds
where a run of the task has come to its result. -/
theorem Task.invariant {World : Type} {Answers : World → Entry Custody → World → Prop}
    {w w' : World} {seen : List (Entry Custody)} {x : Result} (I : Ledger → World → Stage → Prop)
    (h : Course Answers w o.program seen w' (.done x)) (hstart : I .blank w o.start)
    (hmove : ∀ l w s e w' s', I l w s → Answers w e w' → Move o s e s' → I (l.enter e) w' s') :
    I (.of seen) w' (.ended x) := by
  have hkept : ∀ t w s e w' s', I (.of t) w s → Answers w e w' → Move o s e s' →
      I (.of (t ++ [e])) w' s' := by
    intro t w s e w' s' hi ha hm
    rw [Ledger.of_snoc]
    exact hmove _ _ _ _ _ _ hi ha hm
  obtain ⟨stage, hf, hi⟩ := h.invariant (P := o.protocol) (fun t => I (.of t)) o.follows hstart
    hkept
  obtain rfl : stage = .ended x := hf
  exact hi

end TokenCustody.Coordination
