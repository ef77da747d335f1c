/-
TokenCustody.Proofs.Coordination.Measured — whether a failed refresh is
counted.

Whoever watches a keeper sees what it counts, and nothing else. A run that
asks for a refresh and fails should have counted why: that the refresh
failed, that its write came too late, or which error it was.

All ways to fail but one do so. From where a run is about to write
(`Transcript.measured_of_writing`) there is no way around it. But the
check of the refreshed record comes before, and a run whose grant makes no
sound successor of its record ends there and counts nothing
(`Unsound`). A provider that grants a new access token and no new refresh
token brings this about if its answer arrives after the refresh token that
is kept has expired (`Record.successor_error_iff`), and in no other way.
-/
import TokenCustody.Proofs.Coordination.Transcript
import TokenCustody.Proofs.Coordination.Usability

namespace TokenCustody

open TokenCustody.Time

/-- What is counted when something goes wrong: a refresh has failed, a write came too late, or
there was an error. -/
def Metric.isFailure : Metric → Bool
  | .refresh success => !success
  | .conflict | .error _ => true
  | _ => false

/-- What is counted at the start of a run. -/
def Metric.opens : Metric → Bool
  | .state _ | .refreshAttempt => true
  | _ => false

/-- What a run sees at its start only: it counts a state or an attempt, or the provider is
asked for a refresh. -/
def Entry.opens : Entry Custody → Bool
  | .asked (.emit m) _ => m.opens
  | .called (.refresh _) _ => true
  | _ => false

/-- What the provider has granted for a refresh token. -/
def Entry.granted? : Entry Custody → Option Grant
  | .called (.refresh _) (.ok g) => some g
  | _ => none

namespace Coordination

/-- A failure was counted. -/
def Measured (t : List (Entry Custody)) : Prop := ∃ m ∈ pick Entry.metric? t, m.isFailure = true

instance (t : List (Entry Custody)) : Decidable (Measured t) :=
  inferInstanceAs (Decidable (∃ m ∈ pick Entry.metric? t, m.isFailure = true))

/-- What was granted makes no sound successor of the record that was read first, and this is
what is wrong with it. -/
def Unsound (cfg : Settings) (t : List (Entry Custody)) (e : Error) : Prop :=
  ∃ base g, (pick Entry.found? t).head? = some base ∧ g ∈ pick Entry.granted? t ∧
    base.successor g cfg.refreshLifetime = some (.error e)

/-! ## Stretches -/

section Stretches

variable {cfg : Settings} {d : Deadline} {s t : List (Entry Custody)} {e : Error}

theorem measured_append : Measured (s ++ t) ↔ Measured s ∨ Measured t := by
  simp [Measured, or_and_right, exists_or]

theorem Measured.of_mem {m : Metric} (hm : m ∈ pick Entry.metric? t) (h : m.isFailure = true) :
    Measured t := ⟨m, hm, h⟩

/-- A write that is refused is counted, unless it is that of a first record. -/
theorem Draft.exists_isFailure_notes {dr : Draft} (hdr : ∀ r, dr ≠ .first r) (e : Error) :
    ∃ m ∈ dr.notes (.error e), m.isFailure = true := by
  cases he : e.isConflict with
  | true =>
    refine ⟨.conflict, ?_, rfl⟩
    cases dr with
    | first r => exact absurd rfl (hdr r)
    | _ => simp [notes, he]
  | false =>
    refine ⟨.error e.code, ?_, rfl⟩
    cases dr with
    | first r => exact absurd rfl (hdr r)
    | _ => simp [notes, he]

/-- A run that fails after it was about to write has counted a failure: the lack of time, or
the refusal of its write. -/
theorem Transcript.measured_of_writing {dr : Draft} (hdr : ∀ r, dr ≠ .first r)
    (ht : Transcript cfg d (.writing dr) t (some (.error e))) : Measured t := by
  cases ht with
  | late _ hlate ht => exact .of_mem (m := outOfTime dr.title) (by simp [Entry.metric?]) rfl
  | wrote hfits a ht =>
    cases a with
    | ok v =>
      -- Who has written does not fail.
      cases dr <;> cases ht
    | error e' =>
      obtain ⟨m, hm, hfailure⟩ := Draft.exists_isFailure_notes hdr e'
      exact .of_mem (by simp [hm]) hfailure

/-- Where a run can be that may yet ask for a refresh. -/
def Stage.MayAsk : Stage → Prop
  | .looking .first _ | .refreshing _ _ => True
  | _ => False

theorem Draft.not_mayAsk_written (dr : Draft) (a : Except Error Version) :
    ¬(dr.written a).MayAsk := by
  cases a with
  | ok v => exact id
  | error e =>
    obtain ⟨goal, hagain, hlooking⟩ | hended := dr.written_error e
    · rw [hlooking]
      cases dr <;> cases hagain <;> exact id
    · rw [hended]
      exact id

theorem filter_opens_counted {ms : List Metric} (h : ms.filter Metric.opens = []) :
    (counted ms).filter Entry.opens = [] := by
  have hmap : (counted ms).filter Entry.opens = counted (ms.filter Metric.opens) := List.filter_map
  rw [hmap, h]
  rfl

theorem filter_opens_summons (x : Except Error Outcome) :
    (summons x).filter Metric.opens = [] := by
  unfold summons
  split <;> rfl

theorem Draft.filter_opens_notes (dr : Draft) (a : Except Error Version) :
    (dr.notes a).filter Metric.opens = [] := by
  cases a with
  | ok v => cases dr <;> rfl
  | error e => cases he : e.isConflict <;> cases dr <;> simp [notes, he, Metric.opens]

theorem Reads.filter_opens {r : Except Error (Option Record)} (hs : Reads cfg d s r) :
    s.filter Entry.opens = [] := by
  refine List.filter_eq_nil_iff.mpr fun e he => ?_
  obtain hretry | ⟨a, rfl⟩ := hs.isRetry_or_made (fun _ => rfl) he
  · unfold Entry.opens
    split
    · cases hretry
    · cases hretry
    · exact Bool.false_ne_true
  · exact Bool.false_ne_true

/-- The start of a run is over where it asks for no refresh any more. -/
theorem Transcript.filter_opens {stage : Stage} {x : Option (Except Error Outcome)}
    (ht : Transcript cfg d stage t x) (hstage : ¬stage.MayAsk) :
    t.filter Entry.opens = [] := by
  induction ht with
  | ended x => exact filter_opens_counted (filter_opens_summons x)
  | halted => rfl
  | unread hs => exact hs.filter_opens
  | nothing hs ht ih => exact absurd trivial hstage
  | beyond hs hg hst => simp [hs.filter_opens, Entry.opens]
  | @weighed g s t found now st x hs hg hst ht ih =>
    have hnext : ¬(g.weighed found (some st)).MayAsk := by
      cases g with
      | first => exact absurd trivial hstage
      | recover base next e =>
        dsimp only [Goal.weighed]
        cases found.filter (isOwnShadow base) <;> exact id
      | settle otherwise => exact id
      | tell => exact id
    have hnotes : g.notes st = [] := by
      cases g with
      | first => exact absurd trivial hstage
      | _ => rfl
    simp [hs.filter_opens, hnotes, counted, ih hnext, Entry.opens]
  | granted hs ht ih => exact absurd trivial hstage
  | refused hs he ht ih => exact absurd trivial hstage
  | failed hs he => exact absurd trivial hstage
  | late dr hlate ht ih =>
    have hnext : ¬(Stage.ended (dr.tooLate dr.title)).MayAsk := id
    simp [counted, outOfTime, ih hnext, Entry.opens, Metric.opens]
  | @wrote dr now t x hfits a ht ih =>
    simp [filter_opens_counted (dr.filter_opens_notes a), ih (dr.not_mayAsk_written a),
      Entry.opens]
  | notReported hlate => simp [counted, outOfTime, Entry.opens, Metric.opens]
  | @reported used why now at_ dr t x hfits hdr a ht ih =>
    simp [filter_opens_counted (dr.filter_opens_notes a), ih (dr.not_mayAsk_written a),
      Entry.opens]

/-- Whoever knows the start of a run only sees nothing where it is over. -/
theorem Transcript.pick_eq_nil {β : Type} {f : Entry Custody → Option β} {stage : Stage}
    {x : Option (Except Error Outcome)} (hf : ∀ e : Entry Custody, e.opens = false → f e = none)
    (ht : Transcript cfg d stage t x) (hstage : ¬stage.MayAsk) : pick f t = [] := by
  rw [← pick_filter hf, ht.filter_opens hstage, pick_nil]

/-- A run asks for refreshes at the one place only, and never comes back to it. -/
theorem Transcript.pick_refresh_eq_nil {stage : Stage} {x : Option (Except Error Outcome)}
    (ht : Transcript cfg d stage t x) (hstage : ¬stage.MayAsk) :
    pick Entry.refresh? t = [] := by
  refine ht.pick_eq_nil (fun e he => ?_) hstage
  unfold Entry.refresh?
  split
  · cases he
  · rfl

/-- Who has asked for no refresh was granted none. -/
theorem pick_granted_eq_nil (h : pick Entry.refresh? t = []) : pick Entry.granted? t = [] := by
  refine pick_eq_nil_iff.mpr fun e he => ?_
  have hnone : e.refresh? = none := pick_eq_nil_iff.mp h e he
  unfold Entry.granted?
  split
  · cases hnone
  · rfl

theorem Asks.pick_granted {token : String} {r : Except Error Grant}
    (hs : Asks cfg d token s r) : pick Entry.granted? s = r.toOption.toList := by
  rw [hs.pick_eq (fun _ _ _ => rfl) fun _ => rfl]
  cases r <;> rfl

/-- What a run has seen, from where it asks for a refresh, that was granted something of which
it makes no sound successor: it has counted that it asks, and that is all. -/
structure Dropped (cfg : Settings) (base : Record) (t : List (Entry Custody)) (e : Error) :
    Prop where
  granted : ∃ g, pick Entry.granted? t = [g] ∧
    base.successor g cfg.refreshLifetime = some (.error e)
  metrics : pick Entry.metric? t = [.refreshAttempt]
  unwritten : pick Entry.write? t = []

theorem Dropped.not_measured {base : Record} (h : Dropped cfg base t e) : ¬Measured t := by
  rintro ⟨m, hm, hfailure⟩
  rw [h.metrics] at hm
  obtain rfl := List.mem_singleton.mp hm
  cases hfailure

/-- A run that asks for a refresh and fails has counted a failure, and whatever it was granted
makes a sound successor; or it was granted something that makes none. -/
theorem Transcript.measured_or_dropped {base : Record}
    (ht : Transcript cfg d (.refreshing base none) t (some (.error e))) :
    (Measured t ∧ ∀ g ∈ pick Entry.granted? t,
      ∃ next, base.successor g cfg.refreshLifetime = some (.ok next)) ∨
      Dropped cfg base t e := by
  have hcounted (ms : List Metric) : pick Entry.granted? (counted ms) = [] :=
    pick_counted ms fun _ => rfl
  have hwriting {dr : Draft} {u : List (Entry Custody)} {x : Option (Except Error Outcome)}
      (ht : Transcript cfg d (.writing dr) u x) : pick Entry.granted? u = [] :=
    pick_granted_eq_nil (ht.pick_refresh_eq_nil id)
  cases ht with
  | @granted _ g s u _ hs ht =>
    cases hnext : base.successor g cfg.refreshLifetime with
    | none =>
      rw [hnext] at ht
      cases ht
    | some r =>
      rw [hnext] at ht
      cases r with
      | error e' =>
        cases ht
        refine Or.inr ⟨⟨g, by simp [hcounted, hs.pick_granted, Except.toOption], hnext⟩, ?_, ?_⟩
        · simp [hs.pick_metric (fun _ => rfl) fun _ => rfl, summons]
        · have hunwritten : pick Entry.write? s = [] :=
            hs.pick_eq (fun _ _ _ => rfl) fun _ => rfl
          simp [hunwritten, pick_counted (f := Entry.write?) _ fun _ => rfl]
      | ok next =>
        have ht : Transcript cfg d (.writing (.successor base next)) u (some (.error e)) := ht
        have hmeasured : Measured u := ht.measured_of_writing fun _ h => by cases h
        refine Or.inl ⟨measured_append.mpr (.inr (measured_append.mpr (.inr hmeasured))),
          fun g' hg' => ?_⟩
        obtain rfl : g' = g := by
          simpa [hcounted, hs.pick_granted, hwriting ht, Except.toOption] using hg'
        exact ⟨next, hnext⟩
  | refused hs he ht =>
    refine Or.inl ⟨.of_mem (m := .refresh false) (by simp) rfl, ?_⟩
    simp [hcounted, hs.pick_granted, hwriting ht, Except.toOption, Entry.granted?]
  | failed hs he =>
    refine Or.inl ⟨.of_mem (m := .refresh false) (by simp) rfl, ?_⟩
    simp [hcounted, hs.pick_granted, Except.toOption]

/-- A run that fails has asked for no refresh, or it has read a record and seen that a refresh
is due. -/
theorem Transcript.looking_first_inv
    (ht : Transcript cfg d (.looking .first none) t (some (.error e))) :
    pick Entry.refresh? t = [] ∨ ∃ base, ∃ st : TokenState, ∃ s now u,
      Reads cfg d s (.ok (some base)) ∧
      t = (s ++ .asked .now now :: counted [.state st.name]) ++ u ∧
      Transcript cfg d (.refreshing base none) u (some (.error e)) := by
  cases ht with
  | unread hs => exact Or.inl (hs.pick_eq (fun _ _ _ => rfl) fun _ => rfl)
  | nothing hs ht => cases ht
  | @weighed _ s u found now st _ hs hg hst ht =>
    cases found with
    | none => cases hg
    | some base =>
      refine Or.inr ⟨base, st, s, now, u, hs, by simp [Goal.notes], ?_⟩
      cases st with
      | expiringSoon => exact ht
      | expiredRefreshable => exact ht
      | _ => cases ht

end Stretches

/-! ## All runs -/

/-- A run that asks for a refresh and fails has counted a failure, unless what it was granted
makes no sound successor of the record it has read. Then it has counted the state of the record
and that it asks, and has written nothing. -/
theorem measured_unless_unsound {World : Type} {Answers : World → Entry Custody → World → Prop}
    {w w' : World} {cfg : Settings} {d : Deadline} {t : List (Entry Custody)} {e : Error}
    (hc : Course Answers w (obtainBy cfg d) t w' (.done (.error e)))
    (hcalled : pick Entry.refresh? t ≠ []) :
    (Measured t ↔ ¬Unsound cfg t e) ∧
      (Unsound cfg t e → ∃ st : TokenState,
        pick Entry.metric? t = [.state st.name, .refreshAttempt] ∧
          pick Entry.write? t = []) := by
  obtain hnone | ⟨base, st, s, now, u, hs, rfl, ht⟩ :=
    (of_obtainBy hc.yields_done).looking_first_inv
  · exact absurd hnone hcalled
  generalize hbefore : s ++ .asked .now now :: counted [.state st.name] = before
  have hfound : pick Entry.found? before = [base] := by
    rw [← hbefore]
    exact hs.pick_assessed (fun _ _ _ => rfl) (fun _ => rfl) now _
  have hgranted : pick Entry.granted? before = [] := by
    rw [← hbefore]
    exact hs.pick_assessed (fun _ _ _ => rfl) (fun _ => rfl) now _
  have hwritten : pick Entry.write? before = [] := by
    rw [← hbefore]
    exact hs.pick_assessed (fun _ _ _ => rfl) (fun _ => rfl) now _
  have hmetrics : pick Entry.metric? before = [.state st.name] := by
    simp [← hbefore, hs.pick_metric (fun _ => rfl) fun _ => rfl, Entry.metric?]
  have hunsound : Unsound cfg (before ++ u) e ↔
      ∃ g ∈ pick Entry.granted? u, base.successor g cfg.refreshLifetime = some (.error e) := by
    simp [Unsound, hfound, hgranted]
  have hmeasured : Measured (before ++ u) ↔ Measured u := by
    simp [Measured, hmetrics, Metric.isFailure]
  rw [hunsound, hmeasured]
  obtain ⟨hu, hsound⟩ | hdropped := ht.measured_or_dropped
  · have hnot : ¬∃ g ∈ pick Entry.granted? u,
        base.successor g cfg.refreshLifetime = some (.error e) := by
      rintro ⟨g, hg, herror⟩
      obtain ⟨next, hnext⟩ := hsound g hg
      rw [hnext] at herror
      cases herror
    exact ⟨iff_of_true hu hnot, fun h => absurd h hnot⟩
  · obtain ⟨g, hg, herror⟩ := hdropped.granted
    constructor
    · exact iff_of_false hdropped.not_measured (not_not_intro ⟨g, by simp [hg], herror⟩)
    · intro _
      refine ⟨st, ?_, ?_⟩
      · rw [pick_append, hmetrics, hdropped.metrics]
        rfl
      · rw [pick_append, hwritten, hdropped.unwritten, List.append_nil]

/-- Among sound records and answers of the token endpoint there is one way to be unsound: no
refresh token is granted, and the answer arrives after the one that is kept has expired. -/
theorem unsound_iff {cfg : Settings} {t : List (Entry Custody)} {e : Error}
    (hfound : ∀ base ∈ pick Entry.found? t, base.defect? = none)
    (hgranted : ∀ g ∈ pick Entry.granted? t,
      ∃ resp, Grant.ofResponse resp g.receivedAt = .ok g)
    (hlifetime : 0 ≤ cfg.refreshLifetime.nanos) :
    Unsound cfg t e ↔ ∃ base g, (pick Entry.found? t).head? = some base ∧
      g ∈ pick Entry.granted? t ∧ g.refreshToken = none ∧
      base.refreshExpiresAt < g.receivedAt ∧ (g.receivedAt.add g.lifetime).isSome ∧
      base.refreshCount + 1 < Text.wordCount ∧
      e = .protocol (.invalidRecord "issued_at is after expires_at") := by
  refine exists_congr fun base => exists_congr fun g => and_congr_right fun hbase =>
    and_congr_right fun hg => ?_
  obtain ⟨resp, hresp⟩ := hgranted g hg
  exact Record.successor_error_iff (hfound base (List.mem_of_head? hbase)) hresp hlifetime

/-! ## Two runs that fail

The record is due, and its refresh token lives for one second more. One run is answered after
two seconds with an access token and no refresh token; the other is answered with something
that is no grant. -/

namespace Sample

/-- A record whose access token has expired, and whose refresh token lives for a second. -/
def fading : Record := { base with refreshExpiresAt := after 1 }

/-- The record as it is read. -/
def heldFading : Record := fading.withVersion (MemoryStore.seeded fading).version

/-- An answer that grants an access token for a minute and keeps the refresh token. -/
def keeping : TokenResponse :=
  { accessToken := some "access 2", tokenType := "Bearer", expiresIn := some 60
    refreshToken := none, refreshTokenExpiresIn := none, scope := none, extra := [] }

/-- What it grants when it arrives after two seconds. -/
def belatedGrant : Grant :=
  { accessToken := "access 2", refreshToken := none, tokenType := "Bearer", scope := none
    lifetime := .ofSeconds 60, refreshLifetime := none, receivedAt := after 2 }

/-- What is wrong with the successor. -/
def misdated : Error := .protocol (.invalidRecord "issued_at is after expires_at")

/-- What a run sees that asks for a refresh and is answered by `a`. -/
def asking (a : Except Error Grant) : List (Entry Custody) :=
  [.asked (.tally .attempt) (), .called (S := Custody) .read (.ok (some heldFading)),
    .asked .now .epoch, .asked (.emit (.state "expired_refreshable")) (),
    .asked (.emit .refreshAttempt) (), .asked (.tally .attempt) (),
    .called (S := Custody) (.refresh "refresh 1") a]

/-- What the run sees whose grant arrives too late. -/
def dropped : List (Entry Custody) := asking (.ok belatedGrant)

/-- An answer that grants nothing. -/
def ungranted : Error := .protocol (.missingField "access_token")

/-- What the run sees that is granted nothing. -/
def failing : List (Entry Custody) :=
  asking (.error ungranted) ++ [.asked (.tally .failure) (), .asked (.emit (.refresh false)) (),
    .asked (.emit (.error ungranted.code)) ()]

/-- Time goes on. -/
abbrev Onward (t t' : Time.Instant) : Prop := t ≤ t'

theorem answeredAsking {a : Except Error Grant} {t : Time.Instant} (ht : Onward .epoch t)
    (ha : Entry.GrantedAt t (.called (S := Custody) (.refresh "refresh 1") a)) :
    Answered (Timed.Answers Onward) ⟨.seeded fading, .epoch⟩ (asking a) ⟨.seeded fading, t⟩ :=
  ⟨_, .asked _ _ nofun nofun,
    _, .called MemoryStore.Answers.read.amongPeers (Time.Instant.le_refl _) trivial,
    _, .now, _, .asked _ _ nofun nofun, _, .asked _ _ nofun nofun, _, .asked _ _ nofun nofun,
    _, .called (MemoryStore.Answers.refresh ..).amongPeers ht ha, rfl⟩

/-- What a run has failed with. -/
def failure? : Except Error Outcome → Option Error
  | .error e => some e
  | .ok _ => none

theorem eq_error_of_failure {x : Except Error Outcome} {e : Error} (h : failure? x = some e) :
    x = .error e := by
  cases x with
  | ok o => cases h
  | error e' =>
    cases h
    rfl

theorem courseDropped : Course (Timed.Answers Onward) ⟨.seeded fading, .epoch⟩
    (obtainBy .default ⟨.ofSeconds 50⟩) dropped ⟨.seeded fading, after 2⟩
    (.done (.error misdated)) :=
  .append .start (answeredAsking (by decide +kernel) ⟨keeping, rfl⟩)
    (Program.ends_of_reading (fun _ => eq_error_of_failure) (by decide +kernel))

theorem courseFailing : Course (Timed.Answers Onward) ⟨.seeded fading, .epoch⟩
    (obtainBy .default ⟨.ofSeconds 50⟩) failing ⟨.seeded fading, .epoch⟩
    (.done (.error ungranted)) := by
  have hanswered : Answered (Timed.Answers Onward) ⟨.seeded fading, .epoch⟩ failing
      ⟨.seeded fading, .epoch⟩ :=
    answered_append.mpr ⟨_, answeredAsking (Time.Instant.le_refl _) trivial,
      _, .asked _ _ nofun nofun, _, .asked _ _ nofun nofun, _, .asked _ _ nofun nofun, rfl⟩
  have hends : failing.foldlM Program.advance (obtainBy .default ⟨.ofSeconds 50⟩) =
      some (.done (.error ungranted)) :=
    Program.ends_of_reading (fun _ => eq_error_of_failure) (by decide +kernel)
  have hcourse := Course.append .start hanswered hends
  exact hcourse

end Sample

/-- The run that is granted nothing has counted that. The run whose grant arrives too late has
counted no failure, and its grant makes no sound successor. -/
theorem measured_unless_unsound_of_sample :
    Measured Sample.failing ∧ ¬Unsound .default Sample.failing Sample.ungranted ∧
      Unsound .default Sample.dropped Sample.misdated ∧
      pick Entry.write? Sample.dropped = [] := by
  have hmeasured : Measured Sample.failing := by decide
  have hnot : ¬Measured Sample.dropped := by decide
  obtain ⟨hfailing, -⟩ := measured_unless_unsound Sample.courseFailing nofun
  obtain ⟨hdropped, hcounted⟩ := measured_unless_unsound Sample.courseDropped nofun
  have hunsound : Unsound .default Sample.dropped Sample.misdated :=
    Classical.byContradiction fun h => hnot (hdropped.mpr h)
  obtain ⟨st, -, hunwritten⟩ := hcounted hunsound
  exact ⟨hmeasured, hfailing.mp hmeasured, hunsound, hunwritten⟩

/-- A run can ask for a refresh and fail without counting that it has failed. -/
theorem failed_unmeasured : ∃ (w : Timed) (e : Error),
    Course (Timed.Answers Sample.Onward) ⟨.seeded Sample.fading, .epoch⟩
      (obtainBy .default ⟨.ofSeconds 50⟩) Sample.dropped w (.done (.error e)) ∧
    pick Entry.refresh? Sample.dropped ≠ [] ∧ ¬Measured Sample.dropped :=
  ⟨_, _, Sample.courseDropped, nofun, by decide⟩

end Coordination

end TokenCustody
