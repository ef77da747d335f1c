/-
TokenCustody.Proofs.Coordination.Usability — whether a returned token can
be presented.

A run that hands out a record it has found has looked at the clock just
before, and the record is usable. A run that hands out a record it has
refreshed has NOT looked at it again. Such a record is usable exactly if
its access token has not expired by then, and even if nothing takes any
time that is not always so: a provider may announce a lifetime of no
seconds, for the access token or for a new refresh token, and a grant of
that kind is stored and handed out like any other.

The clock of a run is the time at which it is asked. It moves while a run
sleeps or waits for an answer, and in no other way than `Passes` allows.
-/
import TokenCustody.Proofs.Coordination.Following
import TokenCustody.Proofs.Coordination.Serving
import TokenCustody.Proofs.Token.State

namespace TokenCustody

open TokenCustody.Time

/-! ## A store and a clock -/

/-- A store, and what the clock says. -/
structure Timed where
  store : MemoryStore
  clock : Instant

/-- What the provider grants was made of an answer that was received at this instant. -/
def Entry.GrantedAt (t : Instant) : Entry Custody → Prop
  | .called (.refresh _) (.ok g) => ∃ resp, Grant.ofResponse resp t = .ok g
  | _ => True

/-- The clock tells the time, the store answers, with others writing in between, and what is
granted is received when it is answered. Time passes during calls and while the run sleeps. -/
inductive Timed.Answers (Passes : Instant → Instant → Prop) (w : Timed) :
    Entry Custody → Timed → Prop where
  | now : Answers Passes w (.asked .now w.clock) w
  | asked (q : Ambient) (a : q.Reply) (hn : q ≠ .now) (hs : ∀ d, q ≠ .sleep d) :
      Answers Passes w (.asked q a) w
  | slept (d : Duration) {t : Instant} (ht : Passes w.clock t) :
      Answers Passes w (.asked (.sleep d) ()) ⟨w.store, t⟩
  | called {r : Custody.Request} {a : Custody.Reply r} {s : MemoryStore} {t : Instant}
      (hs : w.store.AnswersAmongPeers (.called r a) s) (ht : Passes w.clock t)
      (hg : Entry.GrantedAt t (.called r a)) : Answers Passes w (.called r a) ⟨s, t⟩

/-- No time passes. -/
def Instantaneous (Passes : Instant → Instant → Prop) : Prop := ∀ t t', Passes t t' → t' = t

namespace Timed.Answers

variable {Passes : Instant → Instant → Prop} {w w' : Timed} {e : Entry Custody}

/-- An answer adds to the history of a store at most. -/
theorem becomes (h : w.Answers Passes e w') : w.store.Becomes w'.store := by
  cases h with
  | now => exact .same
  | asked q a hn hs => exact .same
  | slept d ht => exact .same
  | called hs ht hg =>
    obtain ⟨m, hb, ha⟩ := hs
    exact hb.trans ha.becomes

/-- If no time passes, the clock is where it was. -/
theorem clock_eq (h : w.Answers Passes e w') (hp : Instantaneous Passes) :
    w'.clock = w.clock := by
  cases h with
  | now => rfl
  | asked q a hn hs => rfl
  | slept d ht => exact hp _ _ ht
  | called hs ht hg => exact hp _ _ ht

theorem granted (h : w.Answers Passes e w') : e.GrantedAt w'.clock := by
  cases h with
  | called hs ht hg => exact hg
  | _ => exact trivial

/-- What is read is what the store holds at that time. -/
theorem read {found : Option Record}
    (h : w.Answers Passes (.called (S := Custody) .read (.ok found)) w') :
    w'.store.current = found := by
  cases h with
  | called hs ht hg =>
    obtain ⟨m, -, ha⟩ := hs
    cases ha with
    | answers ha =>
      cases ha with
      | read => rfl

theorem asked_eq {q : Ambient} {a : q.Reply} (h : w.Answers Passes (.asked q a) w')
    (hs : ∀ d, q ≠ .sleep d) : w' = w := by
  cases h with
  | now => rfl
  | asked q a hn hs => rfl
  | slept d ht => exact absurd rfl (hs d)

/-- The clock is told as it is. -/
theorem now_eq {t : Instant} (h : w.Answers Passes (.asked .now t) w') :
    t = w.clock ∧ w' = w := by
  cases h with
  | now => exact ⟨rfl, rfl⟩
  | asked q a hn hs => exact absurd rfl hn

end Timed.Answers

namespace Coordination

variable {o : Task} {l : Ledger} {Passes : Instant → Instant → Prop}

/-! ## Stages and the clock -/

/-- If no time passes, the refresh token of the record that the run acts on has not expired. -/
def Renewable (Passes : Instant → Instant → Prop) (o : Task) (l : Ledger) (t : Instant) : Prop :=
  Instantaneous Passes → ∃ base, Acts o l base ∧ t < base.refreshExpiresAt

/-- A refresh token that has not expired does not expire if no time passes. -/
theorem Renewable.enter {w w' : Timed} {e : Entry Custody} (h : Renewable Passes o l w.clock)
    (ha : w.Answers Passes e w') : Renewable Passes o (l.enter e) w'.clock := by
  intro hp
  obtain ⟨base, hact, ht⟩ := h hp
  refine ⟨base, hact.enter e, ?_⟩
  rwa [ha.clock_eq hp]

/-- What the clock says about where a run is: a record that it has found and ends with is
usable, and a record that it refreshes can be refreshed. -/
def Stage.Timely (Passes : Instant → Instant → Prop) (o : Task) (l : Ledger) (t : Instant) :
    Stage → Prop
  | ended (.outcome (.ok (.unchanged r))) | ended (.outcome (.ok (.refreshedByPeer r))) =>
    r.UsableAt o.settings.refreshThreshold t
  | refreshing _ _ | writing (.successor _ _) | writing (.overShadow _ _ _)
  | looking (.recover _ _ _) _ | weighing (.recover _ _ _) _
  | ended (.outcome (.ok (.refreshed _))) => Renewable Passes o l t
  | _ => True

/-- A result without a record says nothing about the clock. -/
theorem Recordless.timely {x : Except Error Outcome} (h : Recordless x) (t : Instant) :
    (Stage.ended (.outcome x)).Timely Passes o l t := by
  match x, h with
  | .error _, _ => exact trivial
  | .ok (.needsAuthorization _), _ => exact trivial
  | .ok (.unchanged r), h => cases h _ rfl
  | .ok (.refreshed r), h => cases h _ rfl
  | .ok (.refreshedByPeer r), h => cases h _ rfl

/-- A run that looked again ends with what it has found only if that is usable. -/
theorem Stage.timely_settled {found : Option Record} {st : TokenState} {t : Instant}
    {otherwise : Except Error Outcome}
    (hst : stateOf o.settings.refreshThreshold found t .notObserved = some st)
    (h : Recordless otherwise) :
    (ended (.outcome (settled found st otherwise))).Timely Passes o l t := by
  cases found with
  | none => exact trivial
  | some r =>
    cases st with
    | valid => exact ⟨_, hst, rfl⟩
    | expiringSoon => exact ⟨_, hst, rfl⟩
    | invalid => exact trivial
    | expiredUnrefreshable => exact trivial
    | expiredRefreshable => exact h.timely t
    | uninitialized => exact h.timely t

/-- A run that has just looked at the clock ends with its first record only if that is
usable, and refreshes it only if that can be done. -/
theorem Stage.timely_ofState {r : Record} {st : TokenState} {t : Instant}
    (hst : r.stateAt o.settings.refreshThreshold t .notObserved = some st)
    (hb : (ofState r st).Backed o l) : (ofState r st).Timely Passes o l t := by
  have hrenew (hneeds : st.needsRefresh = true) (hact : Acts o l r) : Renewable Passes o l t :=
    fun _ => ⟨r, hact, Record.lt_refreshExpiresAt hst hneeds⟩
  cases st with
  | valid => exact ⟨_, hst, rfl⟩
  | expiringSoon => exact hrenew rfl hb.2
  | expiredRefreshable => exact hrenew rfl hb.2
  | expiredUnrefreshable => exact trivial
  | invalid => exact trivial
  | uninitialized => exact trivial

/-- A run that has just looked at the clock goes on in time. -/
theorem Stage.timely_weighed {g : Goal} {found : Option Record} {t : Instant}
    (hb : (weighing g found).Backed o l) (h : (weighing g found).Timely Passes o l t) :
    (g.weighed found (stateOf o.settings.refreshThreshold found t .notObserved)).Timely
      Passes o l t := by
  have hb' : (g.weighed found (stateOf o.settings.refreshThreshold found t .notObserved)).Backed
    o l := backed_weighed hb
  obtain ⟨-, -, -, hg⟩ := hb
  cases hst : stateOf o.settings.refreshThreshold found t .notObserved with
  | none => cases g <;> exact trivial
  | some st =>
    rw [hst] at hb'
    cases g with
    | first =>
      cases found with
      | none => exact trivial
      | some r => exact timely_ofState hst hb'
    | recover base next e =>
      dsimp only [Goal.weighed]
      cases found.filter (isOwnShadow base) with
      | none => exact timely_settled hst (recordless_error e)
      | some shadow => exact h
    | settle otherwise => exact timely_settled hst hg
    | tell => exact trivial

theorem Stage.timely_written {l' : Ledger} {d : Draft} {t : Instant} (hd : d.Backed o l)
    (h : (writing d).Timely Passes o l' t) (a : Except Error Version) :
    (d.written a).Timely Passes o l' t := by
  cases a with
  | ok v =>
    cases d with
    | successor base next => exact h
    | overShadow base next shadow => exact h
    | fault base f why otherwise => exact trivial
    | first r => exact trivial
  | error e =>
    rcases d.written_error e with ⟨goal, hagain, hw⟩ | hw
    · rw [hw]
      cases d with
      | successor base next =>
        cases hagain
        exact h
      | overShadow base next shadow =>
        cases hagain
        exact trivial
      | fault base f why otherwise =>
        cases hagain
        exact trivial
      | first r => cases hagain
    · rw [hw]
      cases d with
      | fault base f why otherwise => exact (hd.2 e).timely t
      | _ => exact trivial

/-- The run has come to its result. -/
def Stage.HasEnded : Stage → Prop
  | ended _ => True
  | _ => False

/-- Where a run is in time it stays so for as long as no time passes. Only a run that has
ended has something that time could take away. -/
theorem Stage.Timely.enter {w w' : Timed} {e : Entry Custody} {s : Stage}
    (h : s.Timely Passes o l w.clock) (ha : w.Answers Passes e w')
    (hs : s.HasEnded → w' = w) : s.Timely Passes o (l.enter e) w'.clock := by
  have hrenew : Renewable Passes o l w.clock → Renewable Passes o (l.enter e) w'.clock :=
    fun h => h.enter ha
  cases s with
  | looking goal last =>
    cases goal with
    | recover base next e' => exact hrenew h
    | _ => exact trivial
  | weighing goal found =>
    cases goal with
    | recover base next e' => exact hrenew h
    | _ => exact trivial
  | refreshing base last => exact hrenew h
  | writing d =>
    cases d with
    | successor base next => exact hrenew h
    | overShadow base next shadow => exact hrenew h
    | _ => exact trivial
  | ended r =>
    obtain rfl := hs trivial
    cases r with
    | outcome x =>
      match x with
      | .ok (.unchanged r) => exact h
      | .ok (.refreshedByPeer r) => exact h
      | .ok (.refreshed r) => exact hrenew h
      | .ok (.needsAuthorization why) => exact trivial
      | .error e => exact trivial
    | _ => exact trivial
  | _ => exact trivial

/-- Every move of a run leads to where it is in time. -/
theorem Move.timely {w w' : Timed} {e : Entry Custody} {s s' : Stage} (h : Move o s e s')
    (ha : w.Answers Passes e w') (hb : s.Backed o l) (hs : s.Timely Passes o l w.clock) :
    s'.Timely Passes o (l.enter e) w'.clock := by
  cases h with
  | emit m => exact hs.enter ha fun _ => ha.asked_eq nofun
  | tally t h => exact hs.enter ha fun _ => ha.asked_eq nofun
  | timer t => exact hs.enter ha fun _ => ha.asked_eq nofun
  | draw h x => exact hs.enter ha fun _ => ha.asked_eq nofun
  | sleep h d =>
    refine hs.enter ha fun he => ?_
    cases s with
    | ended r => exact h.elim
    | _ => exact he.elim
  | @readFailed g last e =>
    have hlook := hs.enter ha False.elim
    cases g <;> exact hlook
  | @readGivenUp g e => cases g <;> exact trivial
  | @read g last found =>
    have hlook := hs.enter ha False.elim
    cases g with
    | first => cases found <;> exact trivial
    | recover base next e => exact hlook
    | settle otherwise => exact trivial
    | tell => exact trivial
  | weighed t =>
    obtain ⟨rfl, rfl⟩ := ha.now_eq
    exact Stage.timely_weighed hb hs
  | refreshFailed e => exact hs.enter ha False.elim
  | refreshRefused e h => exact trivial
  | refreshGivenUp e h => exact trivial
  | @granted base last g =>
    have hrefresh := hs.enter ha False.elim
    cases base.successor g o.settings.refreshLifetime with
    | none => exact trivial
    | some r =>
      cases r with
      | error e => exact trivial
      | ok next => exact hrefresh
  | faulted t => exact trivial
  | wrote a => exact Stage.timely_written hb.2 (hs.enter ha False.elim) a
  | @tooLate d stage t h => cases d <;> exact trivial
  | reported t => exact trivial
  | notReported stage t => exact trivial
  | beyond h t => exact trivial
  | checked t r => cases r <;> exact trivial
  | exchanged code uri a =>
    unfold Stage.ofExchange
    cases a with
    | error e => exact trivial
    | ok g =>
      dsimp only
      split <;> exact trivial

/-! ## Two runs to look at

The plainest run again, in no time at all, with an answer that lasts and with one that does
not. -/

namespace Sample

/-- The answer that grants an access token for so many seconds. -/
def response (seconds : Nat) : TokenResponse :=
  { accessToken := some "access 2", tokenType := "Bearer", expiresIn := some seconds
    refreshToken := some "refresh 2", refreshTokenExpiresIn := some 3600, scope := none
    extra := [] }

/-- The grant of an access token that has expired when it is received. -/
def spent : Grant := { grant with lifetime := .ofSeconds 0 }

/-- The record that is stored for it. -/
def spentNext : Record := { next with expiresAt := .epoch }

theorem sound : (MemoryStore.seeded base).Sound := by
  intro r hr
  obtain rfl : held = r := Option.some.inj hr
  decide +kernel

theorem served {g : Grant} {r : Record} {resp : TokenResponse}
    (hg : Grant.ofResponse resp .epoch = .ok g) (hr : r.defect? = none) :
    Answered (Timed.Answers fun t t' => t' = t) ⟨.seeded base, .epoch⟩ (refreshed g r)
      ⟨((MemoryStore.seeded base).put r (.replacing held)).2, .epoch⟩ := by
  have asked (q : Ambient) (a : q.Reply) (hn : q ≠ .now) (hs : ∀ d, q ≠ .sleep d) :
      Timed.Answers (fun t t' => t' = t) ⟨.seeded base, .epoch⟩ (.asked q a)
        ⟨.seeded base, .epoch⟩ := .asked q a hn hs
  exact ⟨_, asked _ _ nofun nofun, _, .called MemoryStore.Answers.read.amongPeers rfl trivial,
    _, .now, _, asked _ _ nofun nofun, _, asked _ _ nofun nofun, _, asked _ _ nofun nofun,
    _, .called (MemoryStore.Answers.refresh _ _).amongPeers rfl ⟨resp, hg⟩,
    _, asked _ _ nofun nofun,
    _, .called (stored hr).amongPeers rfl trivial, _, .asked _ _ nofun nofun, rfl⟩

/-- The run ends in no time with the record that it has stored. -/
theorem course {g : Grant} {r : Record} {resp : TokenResponse}
    (hg : Grant.ofResponse resp .epoch = .ok g) (hr : r.defect? = none)
    (hout : (((refreshed g r).foldlM Program.advance task.program).bind Program.result?).bind
      Result.outcome? = some (.refreshed (r.withVersion (MemoryStore.versionOf 2)))) :
    Course (Timed.Answers fun t t' => t' = t) ⟨.seeded base, .epoch⟩ task.program
      (refreshed g r) ⟨((MemoryStore.seeded base).put r (.replacing held)).2, .epoch⟩
      (.done (.outcome (.ok (.refreshed (r.withVersion (MemoryStore.versionOf 2)))))) := by
  have hends := Program.ends_of_reading (fun _ => Result.eq_outcome) hout
  have h := Course.append .start (served hg hr) hends
  exact h

end Sample

/-! ## Runs -/

/-- What holds of a run, of the store that it is served by and of its clock: the run has a
reason for being where it is and is there in time, and all that it has read and was granted is
sound and was received when it was answered. -/
structure TimedInvariant (Passes : Instant → Instant → Prop) (o : Task) (l : Ledger)
    (w : Timed) (s : Stage) : Prop where
  backed : s.Backed o l
  timely : s.Timely Passes o l w.clock
  sound : w.store.Sound
  found : ∀ r ∈ l.found, r.defect? = none
  granted : ∀ g ∈ l.granted, ∃ resp t, Grant.ofResponse resp t = .ok g ∧
    (Instantaneous Passes → t = w.clock)

theorem TimedInvariant.move {w w' : Timed} {e : Entry Custody} {s s' : Stage}
    (h : TimedInvariant Passes o l w s) (ha : w.Answers Passes e w') (hm : Move o s e s') :
    TimedInvariant Passes o (l.enter e) w' s' := by
  have hsound := ha.becomes.sound h.sound
  refine ⟨hm.backed h.backed, hm.timely ha h.backed h.timely, hsound, fun r hr => ?_,
    fun g hg => ?_⟩
  · rcases Ledger.mem_found_enter hr with hr | rfl
    · exact h.found r hr
    · exact hsound r ha.read
  · rcases Ledger.mem_granted_enter hg with hg | ⟨token, rfl⟩
    · obtain ⟨resp, t, hresp, ht⟩ := h.granted g hg
      exact ⟨resp, t, hresp, fun hp => (ht hp).trans (ha.clock_eq hp).symm⟩
    · obtain ⟨resp, hresp⟩ := ha.granted
      exact ⟨resp, w'.clock, hresp, fun _ => rfl⟩

/-- The run acts on a record whose successor is `next`, for the grant of an answer that was
received at `t`. -/
def RefreshedWith (o : Task) (l : Ledger) (next : Record) (resp : TokenResponse) (t : Instant) :
    Prop :=
  ∃ base g, Acts o l base ∧ g ∈ l.granted ∧ Grant.ofResponse resp t = .ok g ∧
    base.successor g o.settings.refreshLifetime = some (.ok next)

/-- A record that a run ends with is unfaulted and has an access token. It is usable if the
run has found it. If the run has refreshed it, it is usable exactly as long as it has not
expired, and if no time passes exactly if the answer that it was made of lasts. -/
theorem usable_on_return {cfg : Settings} {deadline : Deadline}
    {Passes : Instant → Instant → Prop} {w₀ w : Timed} {seen : List (Entry Custody)}
    {out : Outcome} {r : Record} (hsound : w₀.store.Sound)
    (h : Course (Timed.Answers Passes) w₀ (Task.obtain cfg deadline).program seen w
      (.done (.outcome (.ok out))))
    (hr : out.record? = some r) :
    r.fault = none ∧ r.accessToken ≠ "" ∧
      (out ≠ .refreshed r → r.UsableAt cfg.refreshThreshold w.clock) ∧
      (out = .refreshed r → ∃ resp t,
        RefreshedWith (.obtain cfg deadline) (.of seen) r.bare resp t ∧
        (r.UsableAt cfg.refreshThreshold w.clock ↔
          w.clock < r.expiresAt ∧ (r.expiresAt.sub cfg.refreshThreshold).isSome) ∧
        (Instantaneous Passes → (r.UsableAt cfg.refreshThreshold w.clock ↔
          resp.Lasting cfg.refreshLifetime ∧
            (r.expiresAt.sub cfg.refreshThreshold).isSome))) := by
  have hstart : TimedInvariant Passes (.obtain cfg deadline) .blank w₀ (.looking .first none) :=
    ⟨Stage.backed_start (.obtain cfg deadline), trivial, hsound, fun _ h => (nomatch h),
      fun _ h => (nomatch h)⟩
  have hi := Task.invariant (TimedInvariant Passes (.obtain cfg deadline)) h hstart
    fun _ _ _ _ _ _ hi ha hm => hi.move ha hm
  have hacc : Accounted (.obtain cfg deadline) (.of seen) (.ok out) := hi.backed
  have hfound (hmem : r ∈ (Ledger.of seen).found)
      (hu : r.UsableAt cfg.refreshThreshold w.clock) : r.fault = none ∧ r.accessToken ≠ "" := by
    have hd := hi.found r hmem
    have hfault := ((Record.usableAt_iff hd).mp hu).1
    exact ⟨hfault, Record.accessToken_ne hd hfault⟩
  cases out with
  | needsAuthorization why => cases hr
  | unchanged r' =>
    cases hr
    obtain ⟨hfault, htoken⟩ := hfound hacc.2 hi.timely
    exact ⟨hfault, htoken, fun _ => hi.timely, fun h => by cases h⟩
  | refreshedByPeer r' =>
    cases hr
    obtain ⟨hfault, htoken⟩ := hfound hacc.2 hi.timely
    exact ⟨hfault, htoken, fun _ => hi.timely, fun h => by cases h⟩
  | refreshed r' =>
    cases hr
    obtain ⟨-, base, hrenews⟩ := hacc
    obtain ⟨g, hg, hnext⟩ := hrenews.granted
    obtain ⟨resp, t, hresp, ht⟩ := hi.granted g hg
    obtain ⟨_, _, _, -, -, hd, -⟩ := Record.successor_ok hnext
    have hfault : r.fault = none := (Record.successor_facts hnext).2.1
    have hd : r.defect? = none := hd
    have husable : r.UsableAt cfg.refreshThreshold w.clock ↔ r.fault = none ∧
        w.clock < r.expiresAt ∧ (r.expiresAt.sub cfg.refreshThreshold).isSome :=
      Record.usableAt_iff hd
    refine ⟨hfault, Record.accessToken_ne hd hfault, fun h => absurd rfl h, fun _ =>
      ⟨resp, t, ⟨base, g, hrenews.toActs, hg, hresp, hnext⟩, ?_, fun hp => ?_⟩⟩
    · rw [husable]
      exact ⟨And.right, fun h => ⟨hfault, h⟩⟩
    · obtain ⟨base', hact, hlives⟩ := hi.timely hp
      obtain rfl : base = base' := Option.some.inj (hrenews.acted.symm.trans hact.acted)
      obtain rfl := ht hp
      have hlasts : w.clock < r.bare.expiresAt ↔ resp.Lasting cfg.refreshLifetime :=
        Record.lt_expiresAt_iff hresp hnext hlives
      rw [husable, ← hlasts]
      exact ⟨And.right, fun h => ⟨hfault, h⟩⟩

/-- With an access token for a minute the record is usable. -/
theorem usable_on_return_of_sample : ∃ (w : Timed) (r : Record),
    Course (Timed.Answers fun t t' => t' = t) ⟨.seeded Sample.base, .epoch⟩ Sample.task.program
      (Sample.refreshed Sample.grant Sample.next) w (.done (.outcome (.ok (.refreshed r)))) ∧
    r.fault = none ∧ r.accessToken ≠ "" ∧
    (r.UsableAt Settings.default.refreshThreshold w.clock ↔
      w.clock < r.expiresAt ∧ (r.expiresAt.sub Settings.default.refreshThreshold).isSome) ∧
    r.UsableAt Settings.default.refreshThreshold w.clock := by
  have hg : Grant.ofResponse (Sample.response 60) .epoch = .ok Sample.grant := rfl
  have hr : Sample.next.defect? = none := by decide +kernel
  have hcourse := Sample.course hg hr (by decide +kernel)
  obtain ⟨hfault, htoken, -, hrefreshed⟩ := usable_on_return Sample.sound hcourse rfl
  obtain ⟨resp, t, -, husable, -⟩ := hrefreshed rfl
  exact ⟨_, _, hcourse, hfault, htoken, husable, husable.mpr (by decide +kernel)⟩

/-- With an access token for no time the record is handed out and can only be refreshed. -/
theorem not_usable_on_return : ∃ (w : Timed) (r : Record),
    (MemoryStore.seeded Sample.base).Sound ∧
    Course (Timed.Answers fun t t' => t' = t) ⟨.seeded Sample.base, .epoch⟩ Sample.task.program
      (Sample.refreshed Sample.spent Sample.spentNext) w
      (.done (.outcome (.ok (.refreshed r)))) ∧
    r.stateAt Settings.default.refreshThreshold w.clock .notObserved =
      some .expiredRefreshable ∧
    ¬r.UsableAt Settings.default.refreshThreshold w.clock := by
  have hg : Grant.ofResponse (Sample.response 0) .epoch = .ok Sample.spent := rfl
  have hr : Sample.spentNext.defect? = none := by decide +kernel
  have hcourse := Sample.course hg hr (by decide +kernel)
  refine ⟨_, _, Sample.sound, hcourse, by decide +kernel, ?_⟩
  rintro ⟨st, hst, husable⟩
  obtain rfl : st = .expiredRefreshable := Option.some.inj (hst.symm.trans (by decide +kernel))
  cases husable

end Coordination

end TokenCustody
