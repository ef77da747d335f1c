/-
TokenCustody.Proofs.Coordination.Evidence — a human is called only on
evidence.

A run that obtains a token over HTTP meets all kinds of answers: none at
all, those of servers that are busy or broken, bodies that nobody can
read, writes that were lost. None of these calls a human. A run that does
has seen an answer that says why (`Justifies`): the store has no record,
or holds one whose refresh token has expired or that carries a fault, or
the token endpoint has refused the refresh token and this was the last
that it has answered. And before such a refusal no fault is ever sent to
the store (`Http.Traffic.FaultsRefused`), not even by a run that is not
over yet.

The proof follows the stages of a run. At each of them it is known which
answer led there (`Stage.Attested`), and a move keeps that, because what
it does over HTTP is known (`Proofs.Http.Calls`, `Proofs.Http.Traffic`).
-/
import TokenCustody.Proofs.Coordination.Following
import TokenCustody.Proofs.Coordination.Serving
import TokenCustody.Proofs.Http.Traffic
import TokenCustody.Proofs.Token.State

namespace TokenCustody.Coordination

open TokenCustody.Http
open TokenCustody.Http.Traffic (RefusedWith refusedWith_of_refresh putsFault_inv)
open TokenCustody.Time

/-! ## Evidence -/

/-- A question other than that for the time of the calendar. -/
def Idle (e : Entry Network) : Prop := ∃ q a, e = .asked q a ∧ q ≠ .now

/-- What was read: no record, whenever that was, or else a record, since when all that has
happened is idle. -/
def JustRead (store : RemoteStore) (t : Traffic) : Option Record → Prop
  | none => ∃ resp, .called (S := Network) store.readRequest (.ok resp) ∈ t ∧ resp.status = 404
  | some r => ∃ before resp idle,
      t = before ++ .called (S := Network) store.readRequest (.ok resp) :: idle ∧
      (∀ e ∈ idle, Idle e) ∧ RemoteStore.Tells resp r

/-- What was seen is a reason to call a human. A refresh token has expired if the clock said so
when it was looked at after the record was read. -/
def Justifies (store : RemoteStore) (t : Traffic) : Reason → Prop
  | .noRecord => ∃ resp, .called (S := Network) store.readRequest (.ok resp) ∈ t ∧
      resp.status = 404
  | .refreshTokenExpired => ∃ before resp idle now after r,
      t = before ++ .called (S := Network) store.readRequest (.ok resp) ::
        (idle ++ .asked .now now :: after) ∧
      (∀ e ∈ idle, Idle e) ∧ RemoteStore.Tells resp r ∧ r.fault = none ∧ r.refreshExpiresAt ≤ now
  | .invalid message => ∃ resp r fault,
      .called (S := Network) store.readRequest (.ok resp) ∈ t ∧ RemoteStore.Tells resp r ∧
      r.fault = some fault ∧ message = fault.message
  | .refreshRejected message => ∃ refusal, t.Refused refusal ∧
      message = (Error.provider refusal.meaning).message

section Evidence

variable {store : RemoteStore} {t s : Traffic} {e : Entry Network}

theorem Idle.posted_eq_none (h : Idle e) : posted? e = none := by
  obtain ⟨q, a, rfl, -⟩ := h
  rfl

theorem JustRead.idle {found : Option Record} (h : JustRead store t found) (he : Idle e) :
    JustRead store (t ++ [e]) found := by
  cases found with
  | none =>
    obtain ⟨resp, hmem, hstatus⟩ := h
    exact ⟨resp, List.mem_append_left _ hmem, hstatus⟩
  | some r =>
    obtain ⟨before, resp, idle, rfl, hidle, htells⟩ := h
    refine ⟨before, resp, idle ++ [e], by simp, fun e' he' => ?_, htells⟩
    obtain he' | he' := List.mem_append.mp he'
    · exact hidle e' he'
    · rwa [List.mem_singleton.mp he']

/-- A reason stays one as long as nothing else is posted. -/
theorem Justifies.append {why : Reason} (h : Justifies store t why)
    (hs : ∀ e ∈ s, posted? e = none) : Justifies store (t ++ s) why := by
  cases why with
  | noRecord =>
    obtain ⟨resp, hmem, hstatus⟩ := h
    exact ⟨resp, List.mem_append_left _ hmem, hstatus⟩
  | refreshTokenExpired =>
    obtain ⟨before, resp, idle, now, after, r, rfl, hidle, htells, hfault, hnow⟩ := h
    exact ⟨before, resp, idle, now, after ++ s, r, by simp, hidle, htells, hfault, hnow⟩
  | invalid message =>
    obtain ⟨resp, r, fault, hmem, hr⟩ := h
    exact ⟨resp, r, fault, List.mem_append_left _ hmem, hr⟩
  | refreshRejected message =>
    obtain ⟨refusal, hrefused, hmessage⟩ := h
    exact ⟨refusal, hrefused.append hs, hmessage⟩

/-- No reason is given by failures, by servers that are busy or broken, or by answers to
writes. -/
theorem Justifies.telling {why : Reason} (h : Justifies store t why) : ∃ e ∈ t, Telling e := by
  have hread {resp : Response} (hmem : .called (S := Network) store.readRequest (.ok resp) ∈ t)
      (hs : resp.status = 404 ∨ resp.isSuccess = true) : ∃ e ∈ t, Telling e := by
    have hrange : resp.status = 404 ∨ 200 ≤ resp.status ∧ resp.status < 300 := by
      simpa [Response.isSuccess] using hs
    exact ⟨_, hmem, nofun, by omega, by omega⟩
  cases why with
  | noRecord =>
    obtain ⟨resp, hmem, hstatus⟩ := h
    exact hread hmem (Or.inl hstatus)
  | refreshTokenExpired =>
    obtain ⟨before, resp, idle, now, after, r, rfl, -, htells, -⟩ := h
    exact hread (by simp) (Or.inr htells.success)
  | invalid message =>
    obtain ⟨resp, r, fault, hmem, htells, -⟩ := h
    exact hread hmem (Or.inr htells.success)
  | refreshRejected message =>
    obtain ⟨refusal, ⟨resp, hlast, hrefuses⟩, -⟩ := h
    obtain ⟨e, he, hposted⟩ := List.mem_filterMap.mp (List.mem_of_getLast? hlast)
    refine ⟨e, he, ?_⟩
    cases e with
    | asked q a => cases hposted
    | called r a =>
      dsimp only [posted?] at hposted
      split at hposted
      · next hpost =>
        cases hposted
        refine ⟨?_, hrefuses.notRateLimited, hrefuses.notBroken⟩
        rw [hpost]
        decide
      · cases hposted

end Evidence

/-! ## Stages -/

/-- If the run ends so, it has been seen why. -/
def Grounded (store : RemoteStore) (t : Traffic) (x : Except Error Outcome) : Prop :=
  ∀ why, x = .ok (.needsAuthorization why) → Justifies store t why

def Goal.Attested (store : RemoteStore) (t : Traffic) : Goal → Prop
  | first | recover _ _ _ => True
  | settle otherwise => Grounded store t otherwise
  | tell => False

def Draft.Attested (t : Traffic) : Draft → Prop
  | fault _ _ why otherwise => (∃ e, RefusedWith t e ∧ why = .refreshRejected e.message) ∧
      ∀ e, otherwise e = .ok (.needsAuthorization why)
  | _ => True

/-- What a run that obtains a token has seen when it is at a stage. -/
def Stage.Attested (store : RemoteStore) (t : Traffic) : Stage → Prop
  | looking goal _ => goal.Attested store t
  | weighing goal found => goal.Attested store t ∧ JustRead store t found
  | refreshing _ last => ∀ e, last = some e → e.needsHuman = true → RefusedWith t e
  | refused _ e => RefusedWith t e
  | writing d => d.Attested t
  | ended (.outcome x) => Grounded store t x
  | ended _ | halted => True
  | reporting _ _ | checking | exchanging => False

section Stages

variable {store : RemoteStore} {client : ClientConfig} {t t' s : Traffic} {e : Entry Network}
variable {u u' : Unit} {o : Task} {stage stage' : Stage}

theorem justifies_of_refusedWith {err : Error} (h : RefusedWith t err) :
    Justifies store t (.refreshRejected err.message) := by
  obtain ⟨refusal, hrefused, rfl⟩ := h
  exact ⟨refusal, hrefused, rfl⟩

theorem Grounded.append {x : Except Error Outcome} (h : Grounded store t x)
    (hs : ∀ e ∈ s, posted? e = none) : Grounded store (t ++ s) x :=
  fun why hx => (h why hx).append hs

theorem grounded_error (err : Error) : Grounded store t (.error err) := nofun

theorem grounded_human {why : Reason} (h : Justifies store t why) :
    Grounded store t (.ok (.needsAuthorization why)) := by
  intro why' hx
  cases hx
  exact h

theorem Goal.Attested.append {g : Goal} (h : g.Attested store t)
    (hs : ∀ e ∈ s, posted? e = none) : g.Attested store (t ++ s) := by
  cases g with
  | settle otherwise => exact Grounded.append h hs
  | _ => exact h

theorem Draft.Attested.append {d : Draft} (h : d.Attested t)
    (hs : ∀ e ∈ s, posted? e = none) : d.Attested (t ++ s) := by
  cases d with
  | fault base f why otherwise =>
    obtain ⟨⟨err, hrefused, hwhy⟩, hotherwise⟩ := h
    exact ⟨⟨err, hrefused.append hs, hwhy⟩, hotherwise⟩
  | _ => exact h

theorem Stage.Attested.idle (h : stage.Attested store t) (he : Idle e) :
    stage.Attested store (t ++ [e]) := by
  have hs : ∀ e' ∈ [e], posted? e' = none := by
    intro e' he'
    rw [List.mem_singleton.mp he']
    exact he.posted_eq_none
  cases stage with
  | looking goal last => exact Goal.Attested.append h hs
  | weighing goal found => exact ⟨h.1.append hs, h.2.idle he⟩
  | refreshing base last => exact fun err hlast hn => (h err hlast hn).append hs
  | refused base err => exact RefusedWith.append h hs
  | writing d => exact Draft.Attested.append h hs
  | ended x =>
    cases x with
    | outcome x => exact Grounded.append h hs
    | _ => exact trivial
  | _ => exact h

/-! ## Moves -/

/-- A store that has no record is a reason. -/
theorem JustRead.grounded (h : JustRead store t none) :
    Grounded store t (.ok (.needsAuthorization .noRecord)) := grounded_human h

/-- A record that is faulted when the clock is looked at is a reason. -/
theorem JustRead.justifies_fault {r : Record} {threshold : Span} {now : Instant}
    (h : JustRead store t (some r))
    (hst : r.stateAt threshold now .notObserved = some .invalid) :
    Justifies store (t ++ [.asked .now now]) (.ofFault r) := by
  obtain ⟨before, resp, idle, rfl, -, htells⟩ := h
  obtain ⟨-, hfault⟩ | ⟨hst, -⟩ | ⟨hst, -⟩ := Record.stateAt_cases hst
  · obtain ⟨fault, hfault⟩ := Option.ne_none_iff_exists'.mp hfault
    refine ⟨resp, r, fault, by simp, htells, hfault, ?_⟩
    rw [hfault]
    rfl
  · cases hst
  · simp at hst

/-- So is one whose refresh token has expired by then. -/
theorem JustRead.justifies_expired {r : Record} {threshold : Span} {now : Instant}
    (h : JustRead store t (some r))
    (hst : r.stateAt threshold now .notObserved = some .expiredUnrefreshable) :
    Justifies store (t ++ [.asked .now now]) .refreshTokenExpired := by
  obtain ⟨before, resp, idle, rfl, hidle, htells⟩ := h
  obtain ⟨hst, -⟩ | ⟨-, hfault, hnow⟩ | ⟨hst, -⟩ := Record.stateAt_cases hst
  · cases hst
  · exact ⟨before, resp, idle, now, [], r, by simp, hidle, htells, hfault, hnow⟩
  · simp at hst

theorem posted_now {now : Instant} :
    ∀ e ∈ ([.asked .now now] : Traffic), posted? e = none :=
  List.forall_mem_singleton.mpr rfl

theorem JustRead.grounded_settled {found : Option Record} {st : TokenState} {threshold : Span}
    {now : Instant} {otherwise : Except Error Outcome} (h : JustRead store t found)
    (hst : stateOf threshold found now .notObserved = some st)
    (hother : Grounded store t otherwise) :
    Grounded store (t ++ [.asked .now now]) (settled found st otherwise) := by
  cases found with
  | none => exact h.grounded.append posted_now
  | some r =>
    cases st with
    | valid => exact nofun
    | expiringSoon => exact nofun
    | invalid => exact grounded_human (h.justifies_fault hst)
    | expiredUnrefreshable => exact grounded_human (h.justifies_expired hst)
    | expiredRefreshable => exact hother.append posted_now
    | uninitialized => exact hother.append posted_now

/-- Looking at the clock, after what was read. -/
theorem Stage.attested_weighed {g : Goal} {found : Option Record} {threshold : Span}
    {now : Instant} (h : (weighing g found).Attested store t) :
    (g.weighed found (stateOf threshold found now .notObserved)).Attested store
      (t ++ [.asked .now now]) := by
  obtain ⟨hg, hread⟩ := h
  cases hst : stateOf threshold found now .notObserved with
  | none => cases g <;> exact trivial
  | some st =>
    cases g with
    | first =>
      cases found with
      | none => exact hread.grounded.append posted_now
      | some r =>
        cases st with
        | valid => exact nofun
        | expiringSoon => exact nofun
        | expiredRefreshable => exact nofun
        | expiredUnrefreshable => exact grounded_human (hread.justifies_expired hst)
        | invalid => exact grounded_human (hread.justifies_fault hst)
        | uninitialized => simpa using Record.stateAt_cases hst
    | recover base next err =>
      dsimp only [Goal.weighed]
      cases found.filter (isOwnShadow base) with
      | none => exact hread.grounded_settled hst (grounded_error err)
      | some shadow => exact trivial
    | settle otherwise => exact hread.grounded_settled hst hg
    | tell => exact hg.elim

/-- A write that was answered, or that was not sent at all. -/
theorem Stage.attested_written {d : Draft} {a : Except Error Version}
    (h : (writing d).Attested store t) (hs : ∀ e ∈ s, posted? e = none) :
    (d.written a).Attested store (t ++ s) := by
  cases d with
  | fault base f why otherwise =>
    obtain ⟨⟨err, hrefused, rfl⟩, hotherwise⟩ := h
    have hgrounded : Grounded store (t ++ s)
        (.ok (.needsAuthorization (.refreshRejected err.message))) :=
      grounded_human (justifies_of_refusedWith (hrefused.append hs))
    cases a with
    | ok v => exact hgrounded
    | error err' =>
      have hother : Grounded store (t ++ s) (otherwise err') := by
        rw [hotherwise]
        exact hgrounded
      obtain ⟨goal, hagain, hw⟩ | hw :=
        Draft.written_error (.fault base f (.refreshRejected err.message) otherwise) err'
      · cases hagain
        rw [hw]
        exact hother
      · rw [hw]
        exact hother
  | successor base next =>
    cases a with
    | ok v => exact nofun
    | error err =>
      obtain ⟨goal, hagain, hw⟩ | hw := Draft.written_error (.successor base next) err
      · cases hagain
        rw [hw]
        exact trivial
      · rw [hw]
        exact grounded_error err
  | overShadow base next shadow =>
    cases a with
    | ok v => exact nofun
    | error err =>
      obtain ⟨goal, hagain, hw⟩ | hw := Draft.written_error (.overShadow base next shadow) err
      · cases hagain
        rw [hw]
        exact grounded_error err
      · rw [hw]
        exact grounded_error err
  | first r => cases a <;> exact trivial

/-- A read that succeeded has found what the answer says. -/
theorem justRead_of_read {x : Except Error Response} {found : Option Record}
    (h : .ok found = x.bind RemoteStore.readAnswer) :
    JustRead store (t ++ [.called (S := Network) store.readRequest x]) found := by
  cases x with
  | error err => cases h
  | ok resp =>
    cases found with
    | none => exact ⟨resp, by simp, RemoteStore.status_of_readAnswer h.symm⟩
    | some r =>
      exact ⟨t, resp, [], rfl, List.forall_mem_nil _, RemoteStore.tells_of_readAnswer h.symm⟩

/-- Whatever the network brings, a run has seen why it is where it is. -/
theorem Move.attested {e : Entry Custody} (h : Move o stage e stage')
    (ha : Served delivering (answerOverHttp client store) (u, t) e (u', t'))
    (hs : stage.Attested store t) : stage'.Attested store t' := by
  cases h with
  | emit | tally | timer | draw | sleep =>
    cases ha
    exact hs.idle ⟨_, _, rfl, nofun⟩
  | readFailed err =>
    cases ha with
    | called _ _ hc =>
      obtain ⟨-, hdone⟩ | ⟨x, rfl, -⟩ := RemoteStore.read_inv hc
      · exact absurd rfl (hdone _)
      · exact Goal.Attested.append hs (List.forall_mem_singleton.mpr rfl)
  | @readGivenUp g err =>
    cases g with
    | tell => exact hs.elim
    | _ => exact grounded_error err
  | @read g last found =>
    cases ha with
    | called _ _ hc =>
      obtain ⟨-, hdone⟩ | ⟨x, rfl, hx⟩ := RemoteStore.read_inv hc
      · exact absurd rfl (hdone _)
      · have hread : JustRead store (t ++ [.called (S := Network) store.readRequest x]) found :=
          justRead_of_read (Program.done.inj hx)
        cases g with
        | first =>
          cases found with
          | none => exact hread.grounded
          | some r => exact ⟨trivial, hread⟩
        | tell => exact hs.elim
        | _ => exact ⟨Goal.Attested.append hs (List.forall_mem_singleton.mpr rfl), hread⟩
  | weighed now =>
    cases ha
    exact Stage.attested_weighed hs
  | refreshFailed err =>
    cases ha with
    | called _ _ hc =>
      intro err' herr hn
      cases herr
      exact refusedWith_of_refresh hc hn
  | refreshRefused err hn =>
    cases ha
    exact (hs err rfl hn).append (List.forall_mem_singleton.mpr rfl)
  | refreshGivenUp err hn => exact grounded_error err
  | @granted base last g =>
    cases base.successor g o.settings.refreshLifetime with
    | none => exact trivial
    | some r =>
      cases r with
      | error err => exact grounded_error err
      | ok next => exact trivial
  | faulted now =>
    cases ha
    exact ⟨⟨_, RefusedWith.append hs posted_now, rfl⟩, fun _ => rfl⟩
  | @wrote d a =>
    cases ha with
    | called _ _ hc =>
      refine Stage.attested_written hs ?_
      obtain rfl | ⟨x, rfl⟩ := RemoteStore.write_inv hc
      · exact List.forall_mem_nil _
      · exact List.forall_mem_singleton.mpr rfl
  | @tooLate d name time hlate =>
    cases ha
    cases d with
    | fault base f why otherwise =>
      obtain ⟨⟨err, hrefused, rfl⟩, -⟩ := hs
      have hagain : RefusedWith (t ++ [.asked .timer time]) err :=
        hrefused.append (List.forall_mem_singleton.mpr rfl)
      exact grounded_human (justifies_of_refusedWith hagain)
    | _ => exact grounded_error _
  | reported now => exact hs.elim
  | notReported name time => exact hs.elim
  | beyond hb time => exact trivial
  | checked now r => exact hs.elim
  | exchanged code uri a => exact hs.elim

/-! ## Faults that are put -/

/-- A run writes a faulted record only if the refresh token was refused just before. -/
theorem Stage.refused_of_write {l : Ledger} {r : Record} {cond : WriteCondition}
    {a : Except Error Version} (h : Move o stage (.called (.write r cond) a) stage')
    (hb : stage.Backed o l) (hs : stage.Attested store t) (hr : r.fault.isSome = true) :
    ∃ refusal, t.Refused refusal := by
  obtain ⟨d, rfl, rfl, -, -⟩ := h.write_inv
  have hunfaulted (hnone : d.record.fault = none) : ∃ refusal, t.Refused refusal := by
    rw [hnone] at hr
    cases hr
  cases d with
  | fault base f why otherwise =>
    obtain ⟨⟨err, ⟨refusal, hrefused, -⟩, -⟩, -⟩ := hs
    exact ⟨refusal, hrefused⟩
  | successor base next =>
    obtain ⟨g, -, hn⟩ := hb.2.granted
    exact hunfaulted (Record.successor_facts hn).2.1
  | overShadow base next shadow =>
    obtain ⟨g, -, hn⟩ := hb.2.1.granted
    exact hunfaulted (Record.successor_facts hn).2.1
  | first r =>
    obtain ⟨g, hfirst⟩ := hb.2
    exact hunfaulted (Grant.firstRecord_facts hfirst).2.1

/-- What is seen while a call is answered, wholly or in part, puts no fault but after a
refusal. -/
theorem faultsRefused_append {World : Type} {Answers : World → Entry Network → World → Prop}
    {w w' : World} {l : Ledger} {c : CustodyCall} {q : Program Network c.Reply}
    (h : t.FaultsRefused) (hc : Course Answers w (answerOverHttp client store c) s w' q)
    (hb : stage.Backed o l) (hs : stage.Attested store t)
    (hm : ∀ r cond, c = .write r cond →
      ∃ a stage', Move o stage (.called (S := Custody) (.write r cond) a) stage') :
    Traffic.FaultsRefused (t ++ s) := by
  refine h.append fun e he hputs => ?_
  obtain ⟨hone, r, cond, hcall, hr⟩ := putsFault_inv hc he hputs
  obtain ⟨a, stage', hm⟩ := hm r cond hcall
  exact ⟨hone, Stage.refused_of_write hm hb hs hr⟩

end Stages

/-! ## Runs -/

/-- What holds of a run at a stage, of its ledger and of what it has seen over HTTP. -/
structure Evident (o : Task) (store : RemoteStore) (l : Ledger) (t : Traffic) (stage : Stage) :
    Prop where
  backed : stage.Backed o l
  attested : stage.Attested store t
  faults : t.FaultsRefused

theorem Evident.move {o : Task} {store : RemoteStore} {client : ClientConfig} {l : Ledger}
    {t t' : Traffic} {u u' : Unit} {stage stage' : Stage} {e : Entry Custody}
    (h : Evident o store l t stage)
    (ha : Served delivering (answerOverHttp client store) (u, t) e (u', t'))
    (hm : Move o stage e stage') : Evident o store (l.enter e) t' stage' := by
  refine ⟨hm.backed h.backed, hm.attested ha h.attested, ?_⟩
  cases ha with
  | asked q a ha =>
    refine h.faults.append fun e he hputs => ?_
    rw [List.mem_singleton.mp he] at hputs
    exact hputs.elim
  | called c a hc =>
    refine faultsRefused_append h.faults hc h.backed h.attested fun r cond hcall => ?_
    subst hcall
    exact ⟨a, stage', hm⟩

/-- Whatever the network brings: a run that obtains a token has put a fault only after the
token endpoint had refused its refresh token, and if it has come to call a human it has seen
why. -/
theorem human_on_evidence {cfg : Settings} {deadline : Deadline} {client : ClientConfig}
    {store : RemoteStore} {t : Traffic} {u : Unit} {p : Program Network Result}
    (h : Course delivering () ((Task.obtain cfg deadline).program.overHttp client store) t u p) :
    t.FaultsRefused ∧ ∀ why, p = .done (.outcome (.ok (.needsAuthorization why))) →
      Justifies store t why ∧ ∃ e ∈ t, Telling e := by
  let o : Task := .obtain cfg deadline
  have hstart : Evident o store .blank [] o.start :=
    ⟨Stage.backed_start o, trivial, fun before e after heq _ => by simp at heq⟩
  have hrun {seen : List (Entry Custody)} {w : Unit × Traffic} {q : Program Custody Result}
      (hc : Course (Served delivering (answerOverHttp client store)) ((), []) o.program seen w q) :
      ∃ stage, q.Follows o.protocol (fun s x => s = .ended x) stage ∧
        Evident o store (.of seen) w.2 stage := by
    refine hc.invariant (P := o.protocol) (fun seen (w : Unit × Traffic) stage =>
      Evident o store (.of seen) w.2 stage) o.follows hstart ?_
    rintro seen ⟨u, t⟩ stage e ⟨u', t'⟩ stage' hi ha hm
    rw [Ledger.of_snoc]
    exact hi.move ha hm
  refine ⟨?_, ?_⟩
  · -- The run may be in the middle of an answer.
    obtain ⟨seen, m, t', s, q, hc, hr, rfl⟩ := h.unserve
    obtain ⟨stage, hf, hi⟩ := hrun hc
    cases q with
    | call c next =>
      obtain ⟨rest, hcall, -⟩ := hr
      refine faultsRefused_append hi.faults hcall hi.backed hi.attested fun r cond hc => ?_
      subst hc
      obtain ⟨stage', hm, -⟩ := hf (.error (.store .missingVersion))
      exact ⟨_, stage', hm⟩
    | _ =>
      obtain ⟨rfl, -⟩ := hr
      rw [List.append_nil]
      exact hi.faults
  · rintro why rfl
    obtain ⟨seen, hc⟩ := h.unserve_done
    obtain ⟨stage, hf, hi⟩ := hrun hc
    obtain rfl : stage = .ended (.outcome (.ok (.needsAuthorization why))) := hf
    have hjust := hi.attested why rfl
    exact ⟨hjust, hjust.telling⟩

/-! ## A run to look at

The store holds a record whose access token has expired, and the token endpoint refuses to
refresh it. The run notes that in the store and calls a human. -/

namespace Sample

def store : RemoteStore :=
  ⟨⟨"https://store.example", "token", none, .ofSeconds 5⟩, "https://store.example/token"⟩

def client : ClientConfig :=
  ⟨⟨"https://auth.example/authorize", "https://auth.example/token"⟩, ⟨"client", none, .post⟩,
    "https://client.example/callback", [], .ofSeconds 5⟩

/-- The answer of a store that holds the record, as the array of its members. -/
def telling : Response :=
  ⟨200, [("etag", "1")], "[\"access 1\",\"refresh 1\",\"Bearer\",null,
    \"1970-01-01T00:00:00Z\",\"1970-01-01T00:00:00Z\",\"1970-01-02T00:00:00Z\"]"⟩

/-- The answer of a token endpoint that refuses. -/
def refusing : Response := ⟨400, [], "\x7b\"error\":\"invalid_grant\"\x7d"⟩

/-- The answer of a store that has written. -/
def storing : Response := ⟨200, [("etag", "2")], ""⟩

/-- The error that the refusal reads as. -/
def refusedError : Error := .provider (.invalidGrant "Invalid grant")

/-- The record as the run notes it. -/
def noted : Record := base.withFault ⟨.invalidGrant, refusedError.message, .epoch⟩

/-- What the run sees. -/
def refused : List (Entry Custody) :=
  [.asked (.tally .attempt) (),
    .called (S := Custody) .read (.ok (some (base.withVersion ⟨"1"⟩))),
    .asked .now .epoch, .asked (.emit (.state "expired_refreshable")) (),
    .asked (.emit .refreshAttempt) (), .asked (.tally .attempt) (),
    .called (S := Custody) (.refresh "refresh 1") (.error refusedError),
    .asked (.tally .failure) (), .asked (.emit (.refresh false)) (), .asked .now .epoch,
    .asked .timer .zero, .called (S := Custody) (.write noted (.holds ⟨"1"⟩)) (.ok ⟨"2"⟩),
    .asked (.emit (.authorizationNeeded "refresh_rejected")) ()]

/-- What that is over HTTP. -/
def traffic : Traffic :=
  [.asked (.tally .attempt) (), .called (S := Network) store.readRequest (.ok telling),
    .asked .now .epoch, .asked (.emit (.state "expired_refreshable")) (),
    .asked (.emit .refreshAttempt) (), .asked (.tally .attempt) (),
    .called (S := Network) (client.tokenRequest .refreshToken [("refresh_token", "refresh 1")])
      (.ok refusing),
    .asked (.tally .failure) (), .asked (.emit (.refresh false)) (), .asked .now .epoch,
    .asked .timer .zero,
    .called (S := Network) (store.writeRequest noted (.holds ⟨"1"⟩)) (.ok storing),
    .asked (.emit (.authorizationNeeded "refresh_rejected")) ()]

theorem refused_ends : refused.foldlM Program.advance task.program =
    some (.done (.outcome (.ok (.needsAuthorization (.refreshRejected refusedError.message))))) :=
  Program.ends_of_reading (fun _ => Result.eq_outcome) (by decide +kernel)

theorem reads : Course delivering () (answerOverHttp client store .read)
    [.called (S := Network) store.readRequest (.ok telling)] ()
    (.done (.ok (some (base.withVersion ⟨"1"⟩)))) := by
  have hanswer : (RemoteStore.readAnswer telling).toOption =
      some (some (base.withVersion ⟨"1"⟩)) := by
    decide +kernel
  have hread : RemoteStore.readAnswer telling = .ok (some (base.withVersion ⟨"1"⟩)) := by
    cases h : RemoteStore.readAnswer telling with
    | error err =>
      rw [h] at hanswer
      cases hanswer
    | ok found =>
      rw [h] at hanswer
      cases hanswer
      rfl
  rw [← hread]
  exact RemoteStore.read_answered trivial

theorem refuses : Course delivering () (answerOverHttp client store (.refresh "refresh 1"))
    [.called (S := Network) (client.tokenRequest .refreshToken [("refresh_token", "refresh 1")])
      (.ok refusing)] () (.done (.error refusedError)) := by
  have hanswer : refusing.refusal = refusedError := by decide +kernel
  rw [← hanswer]
  exact ClientConfig.requestGrant_refused rfl trivial

theorem stores : Course delivering () (answerOverHttp client store (.write noted (.holds ⟨"1"⟩)))
    [.called (S := Network) (store.writeRequest noted (.holds ⟨"1"⟩)) (.ok storing)] ()
    (.done (.ok ⟨"2"⟩)) := by
  have hanswer : RemoteStore.writeAnswer (.holds ⟨"1"⟩) storing = .ok ⟨"2"⟩ := rfl
  have hwrite : Course delivering () (store.write noted (.holds ⟨"1"⟩))
      [.called (S := Network) (store.writeRequest noted (.holds ⟨"1"⟩)) (.ok storing)] ()
      (.done (RemoteStore.writeAnswer (.holds ⟨"1"⟩) storing)) :=
    RemoteStore.write_answered rfl trivial
  rw [hanswer] at hwrite
  exact hwrite

/-- What the run sees is what the network brings. -/
theorem brings : Answered (Served delivering (answerOverHttp client store)) ((), []) refused
    ((), traffic) := by
  have asked (t : Traffic) (q : Ambient) (a : q.Reply) :
      Served (S := Custody) delivering (answerOverHttp client store) ((), t) (.asked q a)
        ((), t ++ [.asked q a]) := .asked q a trivial
  exact ⟨_, asked .., _, .called _ _ reads, _, asked .., _, asked .., _, asked .., _, asked ..,
    _, .called _ _ refuses, _, asked .., _, asked .., _, asked .., _, asked ..,
    _, .called _ _ stores, _, asked .., rfl⟩

end Sample

/-- The run has put a fault after a refusal, and calls a human for it. -/
theorem human_on_evidence_of_sample :
    Course delivering () (Sample.task.program.overHttp Sample.client Sample.store) Sample.traffic ()
      (.done (.outcome (.ok (.needsAuthorization
        (.refreshRejected Sample.refusedError.message))))) ∧
    Sample.traffic.FaultsRefused ∧
    Justifies Sample.store Sample.traffic (.refreshRejected Sample.refusedError.message) := by
  obtain ⟨t, ht, hcourse⟩ := (Course.append .start Sample.brings Sample.refused_ends).serve
  obtain rfl : t = Sample.traffic := ht.symm
  obtain ⟨hfaults, hwhy⟩ := human_on_evidence hcourse
  exact ⟨hcourse, hfaults, (hwhy _ rfl).1⟩

end TokenCustody.Coordination
