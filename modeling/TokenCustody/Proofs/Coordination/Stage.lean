/-
TokenCustody.Proofs.Coordination.Stage — how far a run of the custody has come.

A run reads, asks and writes in a fixed order, and what it may do next
depends on little of what it has seen. `Stage` keeps just that: why it
looks into the store (`Goal`), what it is about to write (`Draft`), what
it has come to (`Result`). `Move` lists every way from one stage to the
next, with the question or call that leads there and its answer.

Four kinds of runs share a store (`Task`): one that obtains a usable
token, one that reports a rejection, one that stores the grant of an
authorization by a human, and one that only looks. They go through the
same stages where they do the same thing, and the protocol of a task
(`Task.protocol`) is the moves with the settings of that task.

Stages forget the attempts of a retried call except for the last error,
which is what the run ends with if it gives up.
-/
import TokenCustody.Authorization.Flow
import TokenCustody.Coordination
import TokenCustody.Proofs.Program.Protocol

namespace TokenCustody.Coordination

open TokenCustody.Time

/-! ## Tasks -/

/-- What a run ends with. -/
inductive Result where
  | outcome (o : Except Error Outcome)
  | record (r : Except Error Record)
  | finding (f : Except Error (Option Record × TokenState))

/-- The record that a run ends with, if it ends with one. -/
def Result.record? : Result → Option Record
  | outcome (.ok out) => out.record?
  | record (.ok r) => some r
  | finding (.ok (found, _)) => found
  | _ => none

/-- The outcome that a run ends with, if it ends with one. -/
def Result.outcome? : Result → Option Outcome
  | outcome (.ok out) => some out
  | _ => none

/-- A result with an outcome is nothing but that outcome. -/
theorem Result.eq_outcome {x : Result} {out : Outcome} (h : x.outcome? = some out) :
    x = outcome (.ok out) := by
  cases x with
  | outcome o =>
    cases o with
    | error e => cases h
    | ok out' =>
      cases h
      rfl
  | record r => cases h
  | finding f => cases h

/-- What a run is for. -/
inductive Task where
  /-- To obtain a usable access token before a deadline. -/
  | obtain (cfg : Settings) (deadline : Deadline)
  /-- To report that a call with the access token of `used` was turned away. -/
  | rejection (cfg : Settings) (used : Record) (why : String)
  /-- To store the grant of an authorization by a human. -/
  | authorization (cfg : Settings) (s : Session) (c : Callback)
  /-- To look at what the store holds. -/
  | inspection (cfg : Settings)

namespace Task

/-- The settings of a task. -/
def settings : Task → Settings
  | obtain cfg _ | rejection cfg _ _ | authorization cfg _ _ | inspection cfg => cfg

/-- The program of a task. -/
def program : Task → Program Custody Result
  | obtain cfg deadline => Result.outcome <$> obtainBy cfg deadline
  | rejection cfg used why => Result.outcome <$> reportRejection cfg used why
  | authorization cfg s c => Result.record <$> Authorization.complete cfg s c
  | inspection cfg => Result.finding <$> inspect cfg

/-- Too little time is left for a write. Only the deadline of a run that obtains a token
is given from outside; the others set theirs when they begin. -/
def Late (o : Task) (t : Duration) : Prop :=
  match o with
  | obtain cfg deadline => ¬cfg.writeGuard ≤ deadline.remainingAt t
  | _ => True

end Task

/-! ## Stages -/

/-- Why a run looks into the store. -/
inductive Goal where
  /-- To find the record to keep usable. -/
  | first
  /-- To find what came before its refreshed record `next`. -/
  | recover (base next : Record) (e : Error)
  /-- To end with what is there, or else with what is known already. -/
  | settle (otherwise : Except Error Outcome)
  /-- To tell. -/
  | tell

/-- A write that a run is about to make. -/
inductive Draft where
  /-- The refreshed record in place of the one it was made from. -/
  | successor (base next : Record)
  /-- The refreshed record over the fault that its own refresh brought about. -/
  | overShadow (base next shadow : Record)
  /-- The record as refused. If that is not written the run ends otherwise. -/
  | fault (base : Record) (fault : Fault) (why : Reason)
      (otherwise : Error → Except Error Outcome)
  /-- The first record of a credential. -/
  | first (r : Record)

/-- How far a run has come. -/
inductive Stage where
  /-- It reads the store; the last attempt failed or there was none. -/
  | looking (goal : Goal) (last : Option Error)
  /-- It has read, and is about to look at the clock. -/
  | weighing (goal : Goal) (found : Option Record)
  /-- It asks the provider for a successor of `base`. -/
  | refreshing (base : Record) (last : Option Error)
  /-- The provider has refused the refresh token of `base`. -/
  | refused (base : Record) (e : Error)
  /-- It is about to write. -/
  | writing (d : Draft)
  /-- It is about to note that `used` was turned away. -/
  | reporting (used : Record) (why : String)
  /-- It is about to check what a browser brought back. -/
  | checking
  /-- It trades a code for a grant. -/
  | exchanging
  /-- It has come to its result. -/
  | ended (r : Result)
  /-- It has ended without a result. -/
  | halted

/-! ## Where answers lead -/

/-- The outcome that a record found after a lost write stands for, if it does. -/
def adopted : Option Record → TokenState → Option Outcome
  | none, _ => some (.needsAuthorization .noRecord)
  | some r, .valid | some r, .expiringSoon => some (.refreshedByPeer r)
  | some r, .invalid => some (.needsAuthorization (.ofFault r))
  | some _, .expiredUnrefreshable => some (.needsAuthorization .refreshTokenExpired)
  | some _, .expiredRefreshable | some _, .uninitialized => none

/-- What a run ends with after it looked again. -/
def settled (found : Option Record) (state : TokenState) (otherwise : Except Error Outcome) :
    Except Error Outcome :=
  match adopted found state with
  | some o => .ok o
  | none => otherwise

/-- After the state of the first record that was read. -/
def Stage.ofState (r : Record) : TokenState → Stage
  | .valid => ended (.outcome (.ok (.unchanged r)))
  | .expiringSoon | .expiredRefreshable => refreshing r none
  | .expiredUnrefreshable => ended (.outcome (.ok (.needsAuthorization .refreshTokenExpired)))
  | .invalid => ended (.outcome (.ok (.needsAuthorization (.ofFault r))))
  | .uninitialized => ended (.outcome (.ok (.needsAuthorization .noRecord)))

/-- After a grant, if the refreshed record is sound. -/
def Stage.ofSuccessor (base : Record) : Option (Except Error Record) → Stage
  | none => halted
  | some (.error e) => ended (.outcome (.error e))
  | some (.ok next) => writing (.successor base next)

/-- After the exchange of a code. -/
def Stage.ofExchange (refreshLifetime : Span) : Except Error Grant → Stage
  | .error e => ended (.record (.error e))
  | .ok g =>
    match g.firstRecord refreshLifetime with
    | none => halted
    | some (.error e) => ended (.record (.error e))
    | some (.ok r) => writing (.first r)

/-- After the checks on what a browser brought back. -/
def Stage.ofCheck : Except Error String → Stage
  | .error e => ended (.record (.error e))
  | .ok _ => exchanging

/-- Before a rejection is noted: it can be noted only on an unfaulted record that the store
has tagged. -/
def Stage.ofUsed (used : Record) (why : String) : Stage :=
  match used.version with
  | none => ended (.outcome (.error (.store .missingVersion)))
  | some _ =>
    if used.fault.isSome then ended (.outcome (.ok (.needsAuthorization (.ofFault used))))
    else reporting used why

namespace Goal

/-- The result of a run whose reads were given up. -/
def failed : Goal → Error → Result
  | tell, e => .finding (.error e)
  | _, e => .outcome (.error e)

/-- After the store was read. Where nothing was ever stored no clock is needed. -/
def looked : Goal → Option Record → Stage
  | first, none => .ended (.outcome (.ok (.needsAuthorization .noRecord)))
  | goal, found => .weighing goal found

/-- After the state of what was read; there is none beyond the calendar. -/
def weighed (found : Option Record) : Goal → Option TokenState → Stage
  | _, none => .halted
  | first, some state =>
    match found with
    | some r => .ofState r state
    | none => .ended (.outcome (.ok (.needsAuthorization .noRecord)))
  | recover base next e, some state =>
    match found.filter (isOwnShadow base) with
    | some shadow => .writing (.overShadow base next shadow)
    | none => .ended (.outcome (settled found state (.error e)))
  | settle otherwise, some state => .ended (.outcome (settled found state otherwise))
  | tell, some state => .ended (.finding (.ok (found, state)))

end Goal

namespace Draft

/-- The record that is written. -/
def record : Draft → Record
  | successor _ next | overShadow _ next _ | first next => next
  | fault base f _ _ => base.withFault f

/-- What must hold for the write to be made. -/
def condition : Draft → WriteCondition
  | successor base _ | fault base _ _ _ => .replacing base
  | overShadow _ _ shadow => .replacing shadow
  | first _ => .always

/-- The result of a run that has written. -/
def stored (v : Version) : Draft → Result
  | successor _ next | overShadow _ next _ => .outcome (.ok (.refreshed (next.withVersion v)))
  | fault _ _ why _ => .outcome (.ok (.needsAuthorization why))
  | first r => .record (.ok (r.withVersion v))

/-- The result of a run that could not write, and not because it came too late. -/
def refused (e : Error) : Draft → Result
  | successor _ _ | overShadow _ _ _ => .outcome (.error e)
  | fault _ _ _ otherwise => .outcome (otherwise e)
  | first _ => .record (.error e)

/-- Why a run that came too late looks again. A first record never comes too late. -/
def again (e : Error) : Draft → Option Goal
  | successor base next => some (.recover base next e)
  | overShadow _ _ _ => some (.settle (.error e))
  | fault _ _ _ otherwise => some (.settle (otherwise e))
  | first _ => none

/-- After the answer to the write. -/
def written (d : Draft) : Except Error Version → Stage
  | .ok v => .ended (d.stored v)
  | .error e =>
    match d.again e with
    | some goal => if e.isConflict then .looking goal none else .ended (d.refused e)
    | none => .ended (d.refused e)

/-- A run that could not write looks again, if there is a reason to, or it ends. -/
theorem written_error (d : Draft) (e : Error) :
    (∃ goal, d.again e = some goal ∧ d.written (.error e) = .looking goal none) ∨
      d.written (.error e) = .ended (d.refused e) := by
  unfold written
  dsimp only
  cases d.again e with
  | none => exact Or.inr rfl
  | some goal =>
    dsimp only
    split
    · exact Or.inl ⟨goal, rfl, rfl⟩
    · exact Or.inr rfl

/-- The result of a run that has too little time left to write. -/
def tooLate (stage : String) : Draft → Result
  | fault _ _ why _ => .outcome (.ok (.needsAuthorization why))
  | _ => .outcome (.error (.cancelled (.budgetExhausted stage)))

end Draft

/-! ## Moves -/

/-- In this stage a run tries again after a pause. -/
def Stage.Retries : Stage → Prop
  | looking _ _ | refreshing _ _ => True
  | _ => False

/-- The moves of a run, with the question or call that makes each and its answer. -/
inductive Move (o : Task) : Stage → Entry Custody → Stage → Prop where
  /-- Something is counted for whoever watches. -/
  | emit {s : Stage} (m : Metric) : Move o s (.asked (.emit m) ()) s
  /-- Something is counted for the report. -/
  | tally {s : Stage} (t : Tally) (h : t ≠ .failure) : Move o s (.asked (.tally t) ()) s
  /-- The clock of the deadline is looked at. -/
  | timer {s : Stage} (t : Duration) : Move o s (.asked .timer t) s
  | draw {s : Stage} (h : s.Retries) (x : Float) : Move o s (.asked .draw x) s
  | sleep {s : Stage} (h : s.Retries) (d : Duration) : Move o s (.asked (.sleep d) ()) s
  | readFailed {g : Goal} {last : Option Error} (e : Error) :
      Move o (.looking g last) (.called .read (.error e)) (.looking g (some e))
  | readGivenUp {g : Goal} (e : Error) :
      Move o (.looking g (some e)) (.asked (.tally .failure) ()) (.ended (g.failed e))
  | read {g : Goal} {last : Option Error} (found : Option Record) :
      Move o (.looking g last) (.called .read (.ok found)) (g.looked found)
  | weighed {g : Goal} {found : Option Record} (t : Instant) :
      Move o (.weighing g found) (.asked .now t)
        (g.weighed found (stateOf o.settings.refreshThreshold found t .notObserved))
  | refreshFailed {base : Record} {last : Option Error} (e : Error) :
      Move o (.refreshing base last) (.called (.refresh base.refreshToken) (.error e))
        (.refreshing base (some e))
  | refreshRefused {base : Record} (e : Error) (h : e.needsHuman = true) :
      Move o (.refreshing base (some e)) (.asked (.tally .failure) ()) (.refused base e)
  | refreshGivenUp {base : Record} (e : Error) (h : e.needsHuman = false) :
      Move o (.refreshing base (some e)) (.asked (.tally .failure) ())
        (.ended (.outcome (.error e)))
  | granted {base : Record} {last : Option Error} (g : Grant) :
      Move o (.refreshing base last) (.called (.refresh base.refreshToken) (.ok g))
        (.ofSuccessor base (base.successor g o.settings.refreshLifetime))
  | faulted {base : Record} {e : Error} (t : Instant) :
      Move o (.refused base e) (.asked .now t)
        (.writing (.fault base ⟨faultKindOf e, e.message, t⟩ (.refreshRejected e.message)
          fun _ => .ok (.needsAuthorization (.refreshRejected e.message))))
  | wrote {d : Draft} (a : Except Error Version) :
      Move o (.writing d) (.called (.write d.record d.condition) a) (d.written a)
  | tooLate {d : Draft} (stage : String) {t : Duration} (h : o.Late t) :
      Move o (.writing d) (.asked .timer t) (.ended (d.tooLate stage))
  | reported {used : Record} {why : String} (t : Instant) :
      Move o (.reporting used why) (.asked .now t)
        (.writing (.fault used ⟨.apiRejected, why, t⟩ (.invalid why) .error))
  | notReported {used : Record} {why : String} (stage : String) (t : Duration) :
      Move o (.reporting used why) (.asked .timer t)
        (.ended (.outcome (.error (.cancelled (.budgetExhausted stage)))))
  /-- The deadline would lie beyond the clock. -/
  | beyond {s : Stage} (h : (∃ used why, s = .reporting used why) ∨ s = .looking .tell none)
      (t : Duration) : Move o s (.asked .timer t) .halted
  | checked (t : Instant) (r : Except Error String) :
      Move o .checking (.asked .now t) (.ofCheck r)
  | exchanged (code uri : String) (a : Except Error Grant) :
      Move o .exchanging (.called (.exchange code uri) a)
        (.ofExchange o.settings.refreshLifetime a)

/-- Records are read only by a run that looks, for what it looks for. -/
theorem Move.read_inv {o : Task} {s s' : Stage} {found : Option Record}
    (h : Move o s (.called (S := Custody) .read (.ok found)) s') :
    ∃ goal last, s = .looking goal last ∧ s' = goal.looked found := by
  cases h with
  | read found => exact ⟨_, _, rfl, rfl⟩

/-- A grant is answered only to a run that refreshes, and for the token of its record. -/
theorem Move.granted_inv {o : Task} {s s' : Stage} {token : String} {g : Grant}
    (h : Move o s (.called (S := Custody) (.refresh token) (.ok g)) s') :
    ∃ base last, s = .refreshing base last ∧ base.refreshToken = token ∧
      s' = .ofSuccessor base (base.successor g o.settings.refreshLifetime) := by
  cases h with
  | granted g => exact ⟨_, _, rfl, rfl, rfl⟩

/-- A refresh fails only in a run that refreshes, and the error is kept for what follows. -/
theorem Move.refreshFailed_inv {o : Task} {s s' : Stage} {token : String} {e : Error}
    (h : Move o s (.called (S := Custody) (.refresh token) (.error e)) s') :
    ∃ base last, s = .refreshing base last ∧ base.refreshToken = token ∧
      s' = .refreshing base (some e) := by
  cases h with
  | refreshFailed e => exact ⟨_, _, rfl, rfl, rfl⟩

/-- Only drafts are written, and a draft is all that a write says. -/
theorem Move.write_inv {o : Task} {s s' : Stage} {r : Record} {c : WriteCondition}
    {a : Except Error Version} (h : Move o s (.called (.write r c) a) s') :
    ∃ d : Draft, s = .writing d ∧ d.record = r ∧ d.condition = c ∧ s' = d.written a := by
  cases h with
  | wrote a => exact ⟨_, rfl, rfl, rfl, rfl⟩

/-- The protocol of a task. -/
abbrev Task.protocol (o : Task) : Protocol Custody := ⟨Stage, Move o, .halted⟩

/-- The stage at which a task begins. -/
def Task.start : Task → Stage
  | obtain _ _ => .looking .first none
  | rejection _ used why => .ofUsed used why
  | authorization _ _ _ => .checking
  | inspection _ => .looking .tell none

end TokenCustody.Coordination
