/-
TokenCustody.Proofs.Coordination.Punctuality — runs and their deadline.

A run looks at the timer before everything that must not come too late: a
write, which needs the guard time, and a pause, which must be over before
the deadline. Time passes only while a call is answered and while the run
sleeps (`Ticks`), so what the timer said is still true when the write is
issued or the pause begins.

Looks come in two kinds. One follows a draw and is about the pause whose
length was drawn; the others are about a write (`AboutWrite`). Where one of
these finds too little time the run is over but for what it counts, and
its result depends on what it wanted to write (`resultIfLate`): a refreshed
record or a rejection that is not stored is a failure, and a refusal by the
provider is told to a human all the same.
-/
import TokenCustody.Proofs.Coordination.Serving
import TokenCustody.Proofs.Coordination.Transcript

namespace TokenCustody.Coordination

open TokenCustody.Time

/-! ## The timer -/

/-- The timer goes on while a call is answered, however long that takes, and while the run
sleeps, and else it stands still. -/
inductive Ticks (w : Duration) : Entry Custody → Duration → Prop where
  | timer : Ticks w (.asked .timer w) w
  | slept (d : Duration) : Ticks w (.asked (.sleep d) ()) (w + d)
  | asked (q : Ambient) (a : q.Reply) (ht : q ≠ .timer) (hs : ∀ d, q ≠ .sleep d) :
      Ticks w (.asked q a) w
  | called (r : Custody.Request) (a : Custody.Reply r) (latency : Duration) :
      Ticks w (.called r a) (w + latency)

/-- The timer was looked at, and after that at most the calendar. -/
def JustLooked (h : List (Entry Custody)) (now : Duration) : Prop :=
  ∃ before nows, h = before ++ .asked .timer now :: nows ∧
    ∀ e ∈ nows, ∃ t, e = .asked .now t

/-- What the timer said is still true. -/
theorem JustLooked.eq {h : List (Entry Custody)} {now w₀ w : Duration}
    (hlooked : JustLooked h now) (hanswered : Answered Ticks w₀ h w) : w = now := by
  obtain ⟨before, nows, rfl, hnows⟩ := hlooked
  obtain ⟨m, -, m', hm, ha⟩ := answered_append.mp hanswered
  have hnow : m' = now := by
    cases hm with
    | timer => rfl
    | asked _ _ ht => exact absurd rfl ht
  clear hm hanswered
  subst hnow
  induction nows generalizing m' with
  | nil => exact ha
  | cons e nows ih =>
    obtain ⟨m, he, hrest⟩ := ha
    obtain ⟨t, rfl⟩ := hnows e List.mem_cons_self
    cases he with
    | asked =>
      exact ih (fun e he => hnows e (List.mem_cons_of_mem _ he)) _ hrest

/-! ## Being in time -/

/-- A look at the timer is about a write, unless it sets the deadline, which is the first that
is seen, or follows a draw. -/
def AboutWrite (before : List (Entry Custody)) : Prop :=
  ∃ e, before.getLast? = some e ∧ ∀ x, e ≠ .asked .draw x

/-- What a run ends with that has too little time left for its write. The answer to its last
refresh tells what it would have written. -/
def resultIfLate (before : List (Entry Custody)) : Except Error Outcome :=
  match (pick Entry.refresh? before).getLast? with
  | none => .error (.cancelled (.budgetExhausted "rejection annotation"))
  | some (_, .ok _) => .error (.cancelled (.budgetExhausted "refresh write"))
  | some (_, .error e) => .ok (.needsAuthorization (.refreshRejected e.message))

/-- An entry of a run that ends with `x` is in time, given what came before it and what comes
after it: the timer was looked at before a write or a pause and left time for it, and if it
leaves no time for a write, there is none. -/
def InTime (cfg : Settings) (d : Deadline) (x : Option (Except Error Outcome))
    (before : List (Entry Custody)) : Entry Custody → List (Entry Custody) → Prop
  | .called (.write _ _) _, _ => ∃ now, JustLooked before now ∧ cfg.writeGuard ≤ d.remainingAt now
  | .asked (.sleep δ) _, _ => ∃ now, JustLooked before now ∧ δ ≤ d.remainingAt now
  | .asked .timer now, after =>
    AboutWrite before → ¬cfg.writeGuard ≤ d.remainingAt now →
      pick Entry.write? after = [] ∧ x = some (resultIfLate before)
  | _, _ => True

/-- A run is punctual at the time `w` when it has seen `t` and `p` is left of it. -/
structure Punctual (cfg : Settings) (d : Deadline) (t : List (Entry Custody)) (w : Duration)
    (p : Program Custody (Except Error Outcome)) : Prop where
  /-- If it writes now there is enough time left. -/
  write : ∀ r c a p', p.Step (.called (S := Custody) (.write r c) a) p' →
    cfg.writeGuard ≤ d.remainingAt w
  /-- If it sleeps now there is as much time left, and it sleeps no longer than the deadline. -/
  sleep : ∀ δ a p', p.Step (.asked (.sleep δ) a) p' →
    δ ≤ d.remainingAt w ∧ (δ ≠ .zero → w + δ ≤ d.at_)
  /-- If there was too little time for a write it does not write any more, and it comes to the
  result that this means. -/
  late : ∀ before now after, t = before ++ .asked .timer now :: after → AboutWrite before →
    ¬cfg.writeGuard ≤ d.remainingAt now → ∀ u x, p.Yields u x →
      pick Entry.write? (after ++ u) = [] ∧ x = some (resultIfLate before)

section Stretches

variable {cfg : Settings} {d : Deadline} {h s t : List (Entry Custody)}
variable {x : Option (Except Error Outcome)}

/-- A look at the timer that follows a draw is in time. -/
theorem inTime_of_draw (y : Float) (now : Duration) (u : List (Entry Custody)) :
    InTime cfg d x (h ++ [.asked .draw y]) (.asked .timer now) u := by
  rintro ⟨e, he, hdraw⟩
  rw [List.getLast?_concat] at he
  cases he
  exact absurd rfl (hdraw y)

/-- Attempts are in time if the calls are. The induction is on the attempts. -/
theorem inTime_attempts {α : Type} {made : Except Error α → Entry Custody} {left : Nat}
    {b : Backoff} {r : Except Error α} (hs : Attempts d made left b s r)
    (hmade : ∀ a h u, InTime cfg d x h (made a) u) :
    Throughout (fun h e u => InTime cfg d x h e (u ++ t)) h s := by
  induction hs generalizing h with
  | succeeds a => exact ⟨trivial, hmade _ _ _, trivial⟩
  | succeedsLate a => exact ⟨trivial, hmade _ _ _, trivial, trivial⟩
  | exhausted e => exact ⟨trivial, hmade _ _ _, trivial, trivial⟩
  | hopeless e => exact ⟨trivial, hmade _ _ _, trivial, trivial⟩
  | tooShort e y now hretry hlate =>
    exact ⟨trivial, hmade _ _ _, trivial, inTime_of_draw y now _, trivial, trivial⟩
  | again e y now hretry hfits hs ih =>
    refine ⟨trivial, hmade _ _ _, trivial, inTime_of_draw y now _, ?_, ih⟩
    exact ⟨now, ⟨_, [], rfl, by simp⟩, hfits⟩

theorem inTime_counted {f : List (Entry Custody) → List (Entry Custody)} (ms : List Metric) :
    Throughout (fun h e u => InTime cfg d x h e (f u)) h (counted ms) := by
  refine .of_forall fun e he h u => ?_
  obtain ⟨m, rfl⟩ := mem_counted he
  trivial

/-- What is known of the past of a run that has come to a stage. -/
def Stage.Told (h : List (Entry Custody)) : Stage → Prop
  | .writing (.successor _ _) | .writing (.overShadow _ _ _) | .looking (.recover _ _ _) _ =>
    ∃ token g, (pick Entry.refresh? h).getLast? = some (token, .ok g)
  | .writing (.fault _ _ why _) =>
    ∃ token e, (pick Entry.refresh? h).getLast? = some (token, .error e) ∧
      why = .refreshRejected e.message
  | .writing (.first _) => False
  | .reporting _ _ => pick Entry.refresh? h = []
  | _ => True

/-- The last answer of the provider is the one that the repetitions ended with. -/
theorem Asks.getLast?_eq {token : String} {r : Except Error Grant} (hs : Asks cfg d token s r) :
    (pick Entry.refresh? (h ++ s)).getLast? = some (token, r) := by
  have hlast : (pick Entry.refresh? s).getLast? = some (token, r) :=
    hs.getLast?_pick (fun _ => rfl) (fun _ => Entry.eq_none_of_isRetry fun _ _ _ => rfl) rfl
  rw [pick_append, List.getLast?_append, hlast]
  rfl

/-- What was not asked of the provider is not known of a stage. -/
theorem Stage.Told.append {stage : Stage} (hk : stage.Told h)
    (hs : pick Entry.refresh? s = []) : stage.Told (h ++ s) := by
  unfold Told at *
  rw [pick_append, hs, List.append_nil]
  exact hk

theorem Stage.told_weighed {g : Goal} {found : Option Record} {st : TokenState}
    (hk : (looking g none).Told h) : (g.weighed found (some st)).Told h := by
  cases g with
  | first =>
    cases found with
    | none => trivial
    | some r => cases st <;> trivial
  | recover base next e =>
    dsimp only [Goal.weighed]
    cases found.filter (isOwnShadow base) with
    | none => trivial
    | some shadow => exact hk
  | settle otherwise => trivial
  | tell => trivial

theorem Stage.told_ofSuccessor {base : Record} {r : Option (Except Error Record)}
    (hk : ∃ token g, (pick Entry.refresh? h).getLast? = some (token, .ok g)) :
    (ofSuccessor base r).Told h := by
  rcases r with _ | _ | next
  · trivial
  · trivial
  · exact hk

/-- A write that came too late is followed by what the provider has said before. -/
theorem Stage.told_written {dr : Draft} (hk : (writing dr).Told h) (a : Except Error Version) :
    (dr.written a).Told h := by
  cases a with
  | ok v => trivial
  | error e =>
    cases dr with
    | successor base next =>
      cases he : e.isConflict with
      | true => simpa [Draft.written, Draft.again, he, Told] using hk
      | false => simp [Draft.written, Draft.again, he, Told]
    | first r => trivial
    | _ => cases he : e.isConflict <;> simp [Draft.written, Draft.again, he, Told]

/-- Each pause between two reads is one that leaves time enough. -/
theorem inTime_reads {r : Except Error (Option Record)} (hs : Reads cfg d s r) :
    Throughout (fun h e u => InTime cfg d x h e (u ++ t)) h s :=
  inTime_attempts hs fun _ _ _ => trivial

/-- So is each pause between two requests of a refresh. -/
theorem inTime_asks {token : String} {r : Except Error Grant} (hs : Asks cfg d token s r) :
    Throughout (fun h e u => InTime cfg d x h e (u ++ t)) h s :=
  inTime_attempts hs fun _ _ _ => trivial

/-- What a run has seen tells what it ends with that has too little time left for a write. -/
theorem Stage.Told.tooLate {dr : Draft} (hk : (writing dr).Told h) :
    dr.tooLate dr.title = .outcome (resultIfLate h) := by
  cases dr with
  | successor base next =>
    obtain ⟨token, g, hlast⟩ := hk
    simp [Draft.tooLate, Draft.title, resultIfLate, hlast]
  | overShadow base next shadow =>
    obtain ⟨token, g, hlast⟩ := hk
    simp [Draft.tooLate, Draft.title, resultIfLate, hlast]
  | fault base f why otherwise =>
    obtain ⟨token, e, hlast, rfl⟩ := hk
    simp [Draft.tooLate, resultIfLate, hlast]
  | first r => exact hk.elim

/-- Every entry of a run is in time. The induction is on the transcript, and what is known of
the past carries what was answered to the last refresh. -/
theorem Transcript.inTime {stage : Stage} (ht : Transcript cfg d stage t x)
    (hk : stage.Told h) : Throughout (InTime cfg d x) h t := by
  have hcounted (ms : List Metric) : pick Entry.refresh? (counted ms) = [] :=
    pick_counted ms fun _ => rfl
  have hreads {s : List (Entry Custody)} {r : Except Error (Option Record)}
      (hs : Reads cfg d s r) : pick Entry.refresh? s = [] :=
    hs.pick_eq (fun _ _ _ => rfl) fun _ => rfl
  induction ht generalizing h with
  | ended x => exact inTime_counted _
  | halted => trivial
  | @unread g s e hs =>
    rw [← List.append_nil s]
    exact throughout_append.mpr ⟨inTime_reads hs, trivial⟩
  | nothing hs ht ih =>
    exact throughout_append.mpr ⟨inTime_reads hs,
      throughout_append.mpr ⟨inTime_counted _, ih trivial⟩⟩
  | beyond hs hg hst => exact throughout_append.mpr ⟨inTime_reads hs, trivial, trivial⟩
  | weighed hs hg hst ht ih =>
    refine throughout_append.mpr ⟨inTime_reads hs, trivial,
      throughout_append.mpr ⟨inTime_counted _, ih ?_⟩⟩
    exact (((Stage.told_weighed hk).append (hreads hs)).append rfl).append (hcounted _)
  | granted hs ht ih =>
    exact throughout_append.mpr ⟨inTime_counted _, throughout_append.mpr ⟨inTime_asks hs,
      ih (Stage.told_ofSuccessor ⟨_, _, hs.getLast?_eq⟩)⟩⟩
  | @refused base e s t now x hs he ht ih =>
    refine throughout_append.mpr ⟨inTime_counted _, throughout_append.mpr ⟨inTime_asks hs,
      throughout_append.mpr ⟨inTime_counted _, trivial, ih ?_⟩⟩⟩
    have htold : (Stage.writing (.fault base ⟨faultKindOf e, e.message, now⟩
        (.refreshRejected e.message) fun _ =>
          .ok (.needsAuthorization (.refreshRejected e.message)))).Told
        (h ++ counted [.refreshAttempt] ++ s) :=
      ⟨_, e, hs.getLast?_eq, rfl⟩
    exact (htold.append (hcounted _)).append rfl
  | failed hs he =>
    exact throughout_append.mpr ⟨inTime_counted _, throughout_append.mpr ⟨inTime_asks hs,
      inTime_counted _⟩⟩
  | late dr hlate ht ih =>
    rw [hk.tooLate] at ht
    cases ht with
    | ended =>
      refine ⟨?_, throughout_append.mpr ⟨inTime_counted _, inTime_counted _⟩⟩
      intro _ _
      rw [pick_append, pick_counted _ fun _ => rfl, pick_counted _ fun _ => rfl]
      exact ⟨rfl, rfl⟩
  | @wrote dr now t x hfits a ht ih =>
    refine ⟨?_, ⟨now, ⟨_, [], rfl, by simp⟩, hfits⟩,
      throughout_append.mpr ⟨inTime_counted _, ih ?_⟩⟩
    · exact fun _ hlate => absurd hfits hlate
    · exact (((Stage.told_written hk a).append rfl).append rfl).append (hcounted _)
  | notReported hlate =>
    refine ⟨?_, inTime_counted _⟩
    intro _ _
    have hresult : resultIfLate h =
        .error (.cancelled (.budgetExhausted "rejection annotation")) := by
      have hnone : pick Entry.refresh? h = [] := hk
      rw [resultIfLate, hnone]
      rfl
    exact ⟨pick_counted _ fun _ => rfl, by rw [hresult]⟩
  | @reported used why now at_ dr t x hfits hdr a ht ih =>
    refine ⟨?_, trivial, ⟨now, ⟨h, [.asked .now at_], by simp, by simp⟩, hfits⟩,
      throughout_append.mpr ⟨inTime_counted _, ih ?_⟩⟩
    · exact fun _ hlate => absurd hfits hlate
    · subst hdr
      cases a with
      | ok v => trivial
      | error e => cases he : e.isConflict <;> simp [Draft.written, Draft.again, he, Stage.Told]

end Stretches

/-! ## All runs -/

section Runs

variable {cfg : Settings} {d : Deadline} {t : List (Entry Custody)} {w₀ w : Duration}
variable {p : Program Custody (Except Error Outcome)}

/-- If the timer is looked at before anything else, it says this. -/
def BeginsAt (w₀ : Duration) (t : List (Entry Custody)) : Prop :=
  ∀ now u, t = .asked .timer now :: u → now = w₀

/-- What was answered by the clock tells when it began, whatever is seen later. -/
theorem beginsAt_of_answered (ha : Answered Ticks w₀ t w) (ht : t ≠ [])
    (u : List (Entry Custody)) : BeginsAt w₀ (t ++ u) := by
  rintro now v heq
  cases t with
  | nil => exact absurd rfl ht
  | cons e t =>
    obtain ⟨rfl, -⟩ := List.cons.inj heq
    obtain ⟨m, he, -⟩ := ha
    cases he with
    | timer => rfl
    | asked _ _ htimer => exact absurd rfl htimer

/-- A run whose entries are in time, however it goes on, is punctual. -/
theorem punctual_of_inTime (ha : Answered Ticks w₀ t w)
    (ht : ∀ u x, p.Yields u x → BeginsAt w₀ (t ++ u) →
      Throughout (InTime cfg d x) [] (t ++ u)) :
    Punctual cfg d t w p := by
  have hnext {e : Entry Custody} {p' : Program Custody (Except Error Outcome)} (hs : p.Step e p')
      (he : ∀ now, e ≠ .asked .timer now) : ∃ u x, InTime cfg d x t e u := by
    obtain ⟨u, x, hu⟩ := p'.exists_yields Custody.nonempty_reply
    refine ⟨u, x, throughout_iff.mp (ht _ x (hs.yields hu) ?_) t e u rfl⟩
    by_cases hnil : t = []
    · subst hnil
      intro now v heq
      exact absurd (List.cons.inj heq).1 (he now)
    · exact beginsAt_of_answered ha hnil _
  refine ⟨?_, ?_, ?_⟩
  · intro r c a p' hs
    obtain ⟨u, x, now, hlooked, hfits⟩ := hnext hs nofun
    rwa [hlooked.eq ha]
  · intro δ a p' hs
    obtain ⟨u, x, now, hlooked, hfits⟩ := hnext hs nofun
    rw [hlooked.eq ha]
    refine ⟨hfits, fun hδ => ?_⟩
    have hpos : δ.nanos ≠ 0 := fun hzero => hδ (by cases δ; cases hzero; rfl)
    have hle : δ.nanos ≤ d.at_.nanos - now.nanos := hfits
    show now.nanos + δ.nanos ≤ d.at_.nanos
    omega
  · intro before now after heq habout hlate u x hu
    have hbegins := beginsAt_of_answered ha (by simp [heq]) u
    have hthroughout := ht u x hu hbegins
    rw [heq, List.append_assoc, List.cons_append] at hthroughout
    exact throughout_iff.mp hthroughout before _ _ rfl habout hlate

/-- A report of a rejection sets its deadline by the first look at the timer, if it looks at it
at all. -/
theorem inTime_of_reportRejection {used : Record} {why : String}
    {x : Option (Except Error Outcome)} (ht : (reportRejection cfg used why).Yields t x)
    (hbegins : BeginsAt w₀ t) : Throughout (InTime cfg ⟨w₀ + cfg.budget⟩ x) [] t := by
  obtain ⟨r, -, hended⟩ | ⟨now, u, rfl, hu⟩ := of_reportRejection ht
  · exact (hended _).inTime trivial
  obtain rfl := hbegins now u rfl
  refine ⟨fun habout => ?_, ?_⟩
  · obtain ⟨e, he, -⟩ := habout
    cases he
  obtain ⟨-, rfl, -⟩ | ⟨d, hd, hu⟩ := hu
  · trivial
  · unfold Deadline.afterAt at hd
    split at hd
    · cases hd
      exact hu.inTime rfl
    · cases hd

/-- Runs keep to their deadline, whatever their settings are, however long calls take, whatever
they are answered, and whatever is drawn. -/
theorem punctuality :
    (∀ d, Course Ticks w₀ (obtainBy cfg d) t w p → Punctual cfg d t w p) ∧
    ∀ used why, Course Ticks w₀ (reportRejection cfg used why) t w p →
      Punctual cfg ⟨w₀ + cfg.budget⟩ t w p := by
  constructor
  · intro d hc
    exact punctual_of_inTime hc.answered fun u x hu _ =>
      (of_obtainBy (hc.yields hu)).inTime trivial
  · intro used why hc
    exact punctual_of_inTime hc.answered fun u x hu hbegins =>
      inTime_of_reportRejection (hc.yields hu) hbegins

end Runs

namespace Sample

/-- What the run sees whose first read takes all but one second of its time. -/
def seenLate : List (Entry Custody) :=
  [.asked (.tally .attempt) (), .called (S := Custody) .read (.ok (some held)),
    .asked .now .epoch, .asked (.emit (.state "expired_refreshable")) (),
    .asked (.emit .refreshAttempt) (), .asked (.tally .attempt) (),
    .called (S := Custody) (.refresh "refresh 1") (.ok grant), .asked .timer (.ofSeconds 49)]

/-- What a run sees that reports a rejection, before it writes. -/
def turnedAway : List (Entry Custody) :=
  [.asked .timer .zero, .asked .timer .zero, .asked .now .epoch]

theorem ticksToWrite : Answered Ticks .zero seen .zero :=
  ⟨_, .asked _ _ nofun nofun, _, .called _ _ .zero, _, .asked _ _ nofun nofun,
    _, .asked _ _ nofun nofun, _, .asked _ _ nofun nofun, _, .asked _ _ nofun nofun,
    _, .called _ _ .zero, _, .timer, rfl⟩

theorem ticksLate : Answered Ticks .zero seenLate (.ofSeconds 49) :=
  ⟨_, .asked _ _ nofun nofun, _, .called _ _ (.ofSeconds 49), _, .asked _ _ nofun nofun,
    _, .asked _ _ nofun nofun, _, .asked _ _ nofun nofun, _, .asked _ _ nofun nofun,
    _, .called _ _ .zero, _, .timer, rfl⟩

theorem ticksTurnedAway : Answered Ticks .zero turnedAway .zero :=
  ⟨_, .timer, _, .timer, _, .asked _ _ nofun nofun, rfl⟩

theorem exists_punctual : ∃ p q, seen.foldlM Program.advance
    (obtainBy .default ⟨.ofSeconds 50⟩) = some p ∧ p.advance write = some q := by
  have h : ((seen.foldlM Program.advance (obtainBy .default ⟨.ofSeconds 50⟩)).bind
      (·.advance write)).isSome = true := by
    decide +kernel
  obtain ⟨q, hq⟩ := Option.isSome_iff_exists.mp h
  obtain ⟨p, hp, hq⟩ := Option.bind_eq_some_iff.mp hq
  exact ⟨p, q, hp, hq⟩

theorem exists_late : ∃ p, seenLate.foldlM Program.advance
    (obtainBy .default ⟨.ofSeconds 50⟩) = some p :=
  Option.isSome_iff_exists.mp (by decide +kernel)

theorem exists_turnedAway : ∃ p, turnedAway.foldlM Program.advance
    (reportRejection .default held "revoked") = some p :=
  Option.isSome_iff_exists.mp (by decide +kernel)

end Sample

/-- A run that takes no time may write. A run whose first read takes too long does not, and
fails; one that reports a rejection is punctual as well. -/
theorem punctuality_of_sample :
    (∃ p q, Course Ticks .zero (obtainBy .default ⟨.ofSeconds 50⟩) Sample.seen .zero p ∧
      p.Step Sample.write q ∧
      Settings.default.writeGuard ≤ Deadline.remainingAt ⟨.ofSeconds 50⟩ .zero) ∧
    (∃ p, Course Ticks .zero (obtainBy .default ⟨.ofSeconds 50⟩) Sample.seenLate
        (.ofSeconds 49) p ∧
      ∀ u x, p.Yields u x → pick Entry.write? u = [] ∧
        x = some (.error (.cancelled (.budgetExhausted "refresh write")))) ∧
    ∃ p, Course Ticks .zero (reportRejection .default Sample.held "revoked") Sample.turnedAway
        .zero p ∧
      Punctual .default ⟨.zero + Settings.default.budget⟩ Sample.turnedAway .zero p := by
  obtain ⟨p, q, hp, hq⟩ := Sample.exists_punctual
  obtain ⟨late, hlate⟩ := Sample.exists_late
  obtain ⟨away, haway⟩ := Sample.exists_turnedAway
  have hwriting := Course.append .start Sample.ticksToWrite hp
  have hlateRun := Course.append .start Sample.ticksLate hlate
  have hawayRun := Course.append .start Sample.ticksTurnedAway haway
  refine ⟨⟨p, q, hwriting, Program.step_of_advance hq, ?_⟩, ⟨late, hlateRun, ?_⟩,
    away, hawayRun, punctuality.2 _ _ hawayRun⟩
  · exact (punctuality.1 _ hwriting).write _ _ _ q (Program.step_of_advance hq)
  · intro u x hu
    exact (punctuality.1 _ hlateRun).late (Sample.seenLate.take 7) (.ofSeconds 49) [] rfl
      ⟨_, rfl, nofun⟩ (by decide) u x hu

end TokenCustody.Coordination
