/-
TokenCustody.Proofs.Coordination.Metered — what is counted is what happened.

Metrics are counted all over a run, some in helpers that are called from
many places. Still they can be taken at their word. A run counts the
state of the record if its first read succeeds, and that it asks for a
refresh if it does. It counts a success if it ends with a refreshed
record, a conflict for every write that was answered by one, and a reason
if it ends by calling a human (`metrics_agree`).

The state and the attempt are counted at the start only, where a run may
yet ask for a refresh (`Stage.MayAsk`). The end of a refresh is counted
either where the refreshed record is stored or where it is given up, and
from there on nothing leads to another one (`Stage.Barren`).
-/
import TokenCustody.Proofs.Coordination.Measured
import TokenCustody.Proofs.Coordination.Race

namespace TokenCustody

/-! ## Kinds of metrics -/

namespace Metric

/-- The state that is counted. -/
def state? : Metric → Option String
  | .state name => some name
  | _ => none

/-- The success of the refresh whose end is counted. -/
def success? : Metric → Option Bool
  | .refresh success => some success
  | _ => none

@[simp] theorem success?_refresh (success : Bool) : (refresh success).success? = some success := rfl

@[simp] theorem success?_refreshAttempt : refreshAttempt.success? = none := rfl

@[simp] theorem success?_error (code : String) : (error code).success? = none := rfl

/-- The reason for which a human is needed. -/
def reason? : Metric → Option String
  | .authorizationNeeded reason => some reason
  | _ => none

end Metric

/-- The error of a write that came too late. -/
def Entry.conflict? : Entry Custody → Option Error
  | .called (.write _ _) (.error e) => if e.isConflict then some e else none
  | _ => none

namespace Coordination

variable {cfg : Settings} {d : Deadline} {s t u v : List (Entry Custody)}

/-! ## Statement -/

/-- What a run has counted, oldest first. -/
abbrev metrics (t : List (Entry Custody)) : List Metric := pick Entry.metric? t

/-- The first look into the store has come to this. -/
def FirstRead (cfg : Settings) (d : Deadline) (t : List (Entry Custody))
    (r : Except Error (Option Record)) : Prop := ∃ s u, t = s ++ u ∧ Reads cfg d s r

/-- A run has one first look. -/
theorem FirstRead.unique {r r' : Except Error (Option Record)} (h : FirstRead cfg d t r)
    (h' : FirstRead cfg d t r') : r = r' := by
  obtain ⟨s, u, rfl, hs⟩ := h
  obtain ⟨s', u', heq, hs'⟩ := h'
  exact (hs.append_inj (fun _ _ h => by cases h; rfl) hs' heq).2

/-- The run has ended with a record that it has refreshed. -/
def Renewed (x : Option (Except Error Outcome)) : Prop := ∃ r, x = some (.ok (.refreshed r))

/-- The reason for which the run has called a human at its end. -/
def reasons : Option (Except Error Outcome) → List String
  | some (.ok (.needsAuthorization why)) => [why.name]
  | _ => []

/-- The metrics of a run agree with what it has seen and what has come of it, which is nothing
if a date lay beyond the calendar. -/
structure Agrees (cfg : Settings) (d : Deadline) (t : List (Entry Custody))
    (x : Option (Except Error Outcome)) : Prop where
  /-- One state is counted if the first look succeeds, and only then. A date beyond the calendar
  can keep a run from finding it out, and then it ends there. -/
  state : ∃ r, FirstRead cfg d t r ∧
    match r with
    | .ok _ => (∃ st : TokenState, pick Metric.state? (metrics t) = [st.name]) ∨
        x = none ∧ metrics t = []
    | .error _ => pick Metric.state? (metrics t) = []
  /-- One attempt is counted if the provider was asked, and only then. -/
  attempt : (metrics t).count .refreshAttempt = if pick Entry.refresh? t = [] then 0 else 1
  /-- One success is counted if the run has refreshed the record, and only then. -/
  success : (Renewed x ∧ pick Metric.success? (metrics t) = [true]) ∨
    (¬Renewed x ∧ pick Metric.success? (metrics t) ∈ [[], [false]])
  conflicts : (metrics t).count .conflict = (pick Entry.conflict? t).length
  /-- The reason is counted if the run calls a human, and only then. -/
  summons : pick Metric.reason? (metrics t) = reasons x

/-! ## The start of a run -/

theorem Reads.metrics_eq_nil {r : Except Error (Option Record)} (hs : Reads cfg d s r) :
    metrics s = [] := hs.pick_metric (fun _ => rfl) fun _ => rfl

theorem Asks.metrics_eq_nil {token : String} {r : Except Error Grant}
    (hs : Asks cfg d token s r) : metrics s = [] := hs.pick_metric (fun _ => rfl) fun _ => rfl

/-- Only at the start of a run its state and its attempt are counted. -/
theorem Transcript.filter_opens_metrics {stage : Stage} {x : Option (Except Error Outcome)}
    (ht : Transcript cfg d stage t x) (hstage : ¬stage.MayAsk) :
    (metrics t).filter Metric.opens = [] := by
  refine List.filter_eq_nil_iff.mpr fun m hm hopens => ?_
  obtain ⟨e, he, hmetric⟩ := List.mem_filterMap.mp hm
  have hnot : ¬e.opens = true := List.filter_eq_nil_iff.mp (ht.filter_opens hstage) e he
  unfold Entry.metric? at hmetric
  split at hmetric
  · cases hmetric
    exact hnot hopens
  · cases hmetric

theorem Asks.pick_refresh_ne_nil {token : String} {r : Except Error Grant}
    (hs : Asks cfg d token s r) : pick Entry.refresh? s ≠ [] := by
  have hlast : (pick Entry.refresh? s).getLast? = some (token, r) :=
    hs.getLast?_pick (fun _ => rfl) (fun _ => Entry.eq_none_of_isRetry fun _ _ _ => rfl) rfl
  intro hnil
  rw [hnil] at hlast
  cases hlast

/-- After a grant no refresh is asked for any more. -/
theorem Stage.not_mayAsk_ofSuccessor (base : Record) (r : Option (Except Error Record)) :
    ¬(Stage.ofSuccessor base r).MayAsk := by
  unfold ofSuccessor
  split <;> exact id

/-- A run that is about to ask for a refresh asks for one, and counts that and nothing else of
its start. -/
theorem Transcript.opens_of_refreshing {base : Record} {x : Option (Except Error Outcome)}
    (ht : Transcript cfg d (.refreshing base none) t x) :
    (metrics t).filter Metric.opens = [.refreshAttempt] ∧ pick Entry.refresh? t ≠ [] := by
  cases ht with
  | granted hs ht =>
    have hnext := ht.filter_opens_metrics (Stage.not_mayAsk_ofSuccessor _ _)
    exact ⟨by simp [hs.metrics_eq_nil, hnext, Metric.opens, List.filter_cons],
      by simp [hs.pick_refresh_ne_nil]⟩
  | refused hs he ht =>
    have hnext := ht.filter_opens_metrics id
    exact ⟨by simp [hs.metrics_eq_nil, hnext, Metric.opens, List.filter_cons, Entry.metric?],
      by simp [hs.pick_refresh_ne_nil]⟩
  | failed hs he =>
    exact ⟨by simp [hs.metrics_eq_nil, Metric.opens, List.filter_cons],
      by simp [hs.pick_refresh_ne_nil]⟩

/-- What a whole run counts of its start: nothing if its first look fails; or else a state, and
an attempt if the provider is asked. A date beyond the calendar may end it before. -/
theorem Transcript.opens_of_looking {x : Option (Except Error Outcome)}
    (ht : Transcript cfg d (.looking .first none) t x) : ∃ r, FirstRead cfg d t r ∧
      ((∃ e, r = .error e) ∧ metrics t = [] ∧ pick Entry.refresh? t = [] ∨
        (∃ found, r = .ok found) ∧ x = none ∧ metrics t = [] ∧ pick Entry.refresh? t = [] ∨
        (∃ found, r = .ok found) ∧ ∃ st : TokenState,
          (metrics t).filter Metric.opens = .state st.name ::
            if pick Entry.refresh? t = [] then [] else [.refreshAttempt]) := by
  have hunasked {s : List (Entry Custody)} {r : Except Error (Option Record)}
      (hs : Reads cfg d s r) : pick Entry.refresh? s = [] :=
    hs.pick_eq (fun _ _ _ => rfl) fun _ => rfl
  have hcounted (ms : List Metric) : pick Entry.refresh? (counted ms) = [] :=
    pick_counted ms fun _ => rfl
  cases ht with
  | @unread _ _ e hs =>
    exact ⟨_, ⟨t, [], by simp, hs⟩, Or.inl ⟨⟨e, rfl⟩, hs.metrics_eq_nil, hunasked hs⟩⟩
  | nothing hs ht =>
    refine ⟨_, ⟨_, _, rfl, hs⟩, Or.inr (Or.inr ⟨⟨_, rfl⟩, .uninitialized, ?_⟩)⟩
    have hrest := ht.pick_refresh_eq_nil id
    have hopens := ht.filter_opens_metrics id
    simp [hs.metrics_eq_nil, hunasked hs, hcounted, hrest, hopens, Metric.opens, List.filter_cons]
  | beyond hs hg hst =>
    refine ⟨_, ⟨_, _, rfl, hs⟩, Or.inr (Or.inl ⟨⟨_, rfl⟩, rfl, ?_, ?_⟩)⟩
    · simp [hs.metrics_eq_nil, Entry.metric?]
    · simp [hunasked hs, Entry.refresh?]
  | @weighed _ s u found now st _ hs hg hst ht =>
    refine ⟨_, ⟨_, _, rfl, hs⟩, Or.inr (Or.inr ⟨⟨_, rfl⟩, st, ?_⟩)⟩
    obtain ⟨base, hdue⟩ | hended : (∃ base, Goal.first.weighed found (some st) =
        .refreshing base none) ∨ ¬(Goal.first.weighed found (some st)).MayAsk := by
      cases found with
      | none => exact Or.inr id
      | some base =>
        cases st with
        | expiringSoon => exact Or.inl ⟨base, rfl⟩
        | expiredRefreshable => exact Or.inl ⟨base, rfl⟩
        | _ => exact Or.inr id
    · rw [hdue] at ht
      obtain ⟨hopens, hasked⟩ := ht.opens_of_refreshing
      simp [hs.metrics_eq_nil, hunasked hs, hcounted, hopens, hasked, Goal.notes, Metric.opens,
        List.filter_cons, Entry.metric?, Entry.refresh?]
    · have hopens := ht.filter_opens_metrics hended
      have hrest := ht.pick_refresh_eq_nil hended
      simp [hs.metrics_eq_nil, hunasked hs, hcounted, hopens, hrest, Goal.notes, Metric.opens,
        List.filter_cons, Entry.metric?, Entry.refresh?]

/-! ## The end of a refresh -/

/-- The end of a refresh is not counted from here on, and none comes of it. -/
def Stage.Barren : Stage → Prop
  | .looking (.settle otherwise) _ => ¬Renewed (some otherwise)
  | .writing (.fault _ _ _ otherwise) => ∀ e, ¬Renewed (some (otherwise e))
  | .ended (.outcome x) => ¬Renewed (some x)
  | .halted => True
  | _ => False

theorem not_renewed_none : ¬Renewed none := by
  rintro ⟨r, hr⟩
  cases hr

theorem not_renewed_error (e : Error) : ¬Renewed (some (.error e)) := by
  rintro ⟨r, hr⟩
  cases hr

theorem not_renewed_human (why : Reason) : ¬Renewed (some (.ok (.needsAuthorization why))) := by
  rintro ⟨r, hr⟩
  cases hr

/-- What a run has found that looked again is not what it has refreshed. -/
theorem not_renewed_settled {found : Option Record} {st : TokenState}
    {otherwise : Except Error Outcome} (h : ¬Renewed (some otherwise)) :
    ¬Renewed (some (settled found st otherwise)) := by
  unfold settled
  split
  · next o ho =>
    rintro ⟨r, hr⟩
    cases hr
    unfold adopted at ho
    split at ho <;> cases ho
  · exact h

theorem Draft.barren_tooLate {dr : Draft} (hdr : ∀ r, dr ≠ .first r) (name : String) :
    (Stage.ended (dr.tooLate name)).Barren := by
  cases dr with
  | first r => exact absurd rfl (hdr r)
  | fault base f why otherwise => exact not_renewed_human why
  | _ => exact not_renewed_error _

/-- The write of a fault leads to no refreshed record. -/
theorem Draft.barren_written {base : Record} {f : Fault} {why : Reason}
    {otherwise : Error → Except Error Outcome} (h : ∀ e, ¬Renewed (some (otherwise e)))
    (a : Except Error Version) : ((Draft.fault base f why otherwise).written a).Barren := by
  cases a with
  | ok v => exact not_renewed_human why
  | error e =>
    obtain ⟨goal, hagain, hlooking⟩ | hended := (fault base f why otherwise).written_error e
    · rw [hlooking]
      cases hagain
      exact h e
    · rw [hended]
      exact h e

theorem summons_success (x : Except Error Outcome) :
    pick Metric.success? (summons x) = [] := by
  unfold summons
  split <;> rfl

/-- From where no refresh is stored any more the end of none is counted. -/
theorem Transcript.of_barren {stage : Stage} {x : Option (Except Error Outcome)}
    (ht : Transcript cfg d stage t x) (hstage : stage.Barren) :
    ¬Renewed x ∧ pick Metric.success? (metrics t) = [] := by
  induction ht with
  | ended x => exact ⟨hstage, by simp [summons_success]⟩
  | halted => exact ⟨not_renewed_none, rfl⟩
  | unread hs => exact ⟨not_renewed_error _, by simp [hs.metrics_eq_nil]⟩
  | nothing hs ht ih => exact hstage.elim
  | beyond hs hg hst =>
    exact ⟨not_renewed_none, by simp [hs.metrics_eq_nil, Entry.metric?]⟩
  | @weighed g s t found now st x hs hg hst ht ih =>
    cases g with
    | settle otherwise =>
      obtain ⟨hx, ht⟩ := ih (not_renewed_settled hstage)
      exact ⟨hx, by simp [hs.metrics_eq_nil, Goal.notes, Entry.metric?, ht]⟩
    | _ => exact hstage.elim
  | granted hs ht ih => exact hstage.elim
  | refused hs he ht ih => exact hstage.elim
  | failed hs he => exact hstage.elim
  | @late dr now t x hlate ht ih =>
    cases dr with
    | fault base f why otherwise =>
      obtain ⟨hx, ht⟩ := ih (Draft.barren_tooLate (fun _ h => by cases h) _)
      exact ⟨hx, ht⟩
    | _ => exact hstage.elim
  | @wrote dr now t x hfits a ht ih =>
    cases dr with
    | fault base f why otherwise =>
      obtain ⟨hx, ht⟩ := ih (Draft.barren_written hstage a)
      have hnotes : pick Metric.success? ((Draft.fault base f why otherwise).notes a) = [] := by
        cases a with
        | ok v => rfl
        | error e => cases he : e.isConflict <;> simp [Draft.notes, he, Metric.success?]
      exact ⟨hx, by simp [Entry.metric?, hnotes, ht]⟩
    | _ => exact hstage.elim
  | notReported hlate => exact hstage.elim
  | reported hfits hdr a ht ih => exact hstage.elim

/-- What a run counts of the end of a refresh agrees with what comes of it: one success if the
record was refreshed, and otherwise one failure or nothing. -/
def EndsAs (t : List (Entry Custody)) (x : Option (Except Error Outcome)) : Prop :=
  (Renewed x ∧ pick Metric.success? (metrics t) = [true]) ∨
    (¬Renewed x ∧ pick Metric.success? (metrics t) ∈ [[], [false]])

/-- From where no refresh is stored any more, what was counted agrees with the result. -/
theorem Transcript.endsAs_of_barren {stage : Stage} {x : Option (Except Error Outcome)}
    (ht : Transcript cfg d stage t x) (hstage : stage.Barren) : EndsAs t x := by
  obtain ⟨hx, ht⟩ := ht.of_barren hstage
  exact Or.inr ⟨hx, by simp [ht]⟩

/-- What does not count the end of a refresh can stand before it. -/
theorem EndsAs.append {x : Option (Except Error Outcome)} (h : EndsAs t x)
    (hs : pick Metric.success? (metrics s) = []) : EndsAs (s ++ t) x := by
  simpa [EndsAs, hs] using h

theorem Draft.Renewal.ne_first {dr : Draft} {next : Record} (hdr : dr.Renewal next)
    (r : Record) : dr ≠ .first r := by
  rintro rfl
  cases hdr

/-- The write of a refreshed record ends as it is counted, if what follows a conflict does. -/
theorem Transcript.endsAs_of_renewal {dr : Draft} {next : Record} (hdr : dr.Renewal next)
    {x : Option (Except Error Outcome)} (ht : Transcript cfg d (.writing dr) t x)
    (hagain : ∀ e goal u, dr.again e = some goal →
      Transcript cfg d (.looking goal none) u x → EndsAs u x) : EndsAs t x := by
  cases ht with
  | @late _ now u _ hlate ht => exact ht.endsAs_of_barren (Draft.barren_tooLate hdr.ne_first _)
  | @wrote _ now u _ hfits a ht =>
    cases a with
    | ok v =>
      cases hdr <;> cases ht
      · exact Or.inl ⟨⟨_, rfl⟩, rfl⟩
      · exact Or.inl ⟨⟨_, rfl⟩, rfl⟩
    | error e =>
      cases he : e.isConflict with
      | true =>
        obtain ⟨goal, hgoal, hlooking, hnotes⟩ : ∃ goal, dr.again e = some goal ∧
            dr.written (.error e) = .looking goal none ∧ dr.notes (.error e) = [.conflict] := by
          cases hdr <;> exact ⟨_, rfl, by simp [Draft.written, Draft.again, he],
            by simp [Draft.notes, he]⟩
        rw [hlooking] at ht
        rw [hnotes]
        exact hagain e goal u hgoal ht
      | false =>
        obtain ⟨hended, hnotes⟩ : dr.written (.error e) = .ended (.outcome (.error e)) ∧
            dr.notes (.error e) = [.refresh false, .error e.code] := by
          cases hdr <;> exact ⟨by simp [Draft.written, Draft.again, Draft.refused, he],
            by simp [Draft.notes, he]⟩
        rw [hended] at ht
        rw [hnotes]
        obtain ⟨hx, hu⟩ := ht.of_barren (not_renewed_error e)
        exact Or.inr ⟨hx, by simp [hu, Entry.metric?]⟩

/-- The refreshed record over a fault is the last that a run writes. -/
theorem Transcript.endsAs_of_overShadow {base next shadow : Record}
    {x : Option (Except Error Outcome)}
    (ht : Transcript cfg d (.writing (.overShadow base next shadow)) t x) : EndsAs t x := by
  refine ht.endsAs_of_renewal (.overShadow base shadow) fun e goal u hgoal hu => ?_
  cases hgoal
  exact hu.endsAs_of_barren (not_renewed_error e)

/-- A run that looks for its own shadow counts what it ends with. -/
theorem Transcript.endsAs_of_recover {base next : Record} {e : Error}
    {x : Option (Except Error Outcome)}
    (ht : Transcript cfg d (.looking (.recover base next e) none) t x) : EndsAs t x := by
  cases ht with
  | unread hs => exact Or.inr ⟨not_renewed_error _, by simp [hs.metrics_eq_nil]⟩
  | beyond hs hg hst =>
    exact Or.inr ⟨not_renewed_none, by simp [hs.metrics_eq_nil, Entry.metric?]⟩
  | @weighed _ s u found now st _ hs hg hst ht =>
    have hrest : EndsAs u x := by
      dsimp only [Goal.weighed] at ht
      split at ht
      · exact ht.endsAs_of_overShadow
      · exact ht.endsAs_of_barren (not_renewed_settled (not_renewed_error e))
    have hlater : EndsAs (.asked .now now :: (counted [] ++ u)) x := hrest
    exact hlater.append (by simp [hs.metrics_eq_nil])

/-- So does a run that refreshes. -/
theorem Transcript.endsAs_of_refreshing {base : Record} {x : Option (Except Error Outcome)}
    (ht : Transcript cfg d (.refreshing base none) t x) : EndsAs t x := by
  cases ht with
  | @granted _ g s u _ hs ht =>
    have hrest : EndsAs u x := by
      unfold Stage.ofSuccessor at ht
      split at ht
      · exact ht.endsAs_of_barren trivial
      · exact ht.endsAs_of_barren (not_renewed_error _)
      · refine ht.endsAs_of_renewal (.successor base) fun e goal v hgoal hv => ?_
        cases hgoal
        exact hv.endsAs_of_recover
    refine EndsAs.append (s := counted [.refreshAttempt]) (hrest.append ?_) rfl
    simp [hs.metrics_eq_nil]
  | refused hs he ht =>
    obtain ⟨hx, ht⟩ := ht.of_barren fun _ => not_renewed_human _
    exact Or.inr ⟨hx, by simp [hs.metrics_eq_nil, ht, Entry.metric?]⟩
  | failed hs he =>
    exact Or.inr ⟨not_renewed_error _, by simp [hs.metrics_eq_nil]⟩

/-- The end of a refresh is counted at most once, and a success exactly if the run ends with a
refreshed record. -/
theorem Transcript.endsAs_of_looking {x : Option (Except Error Outcome)}
    (ht : Transcript cfg d (.looking .first none) t x) : EndsAs t x := by
  cases ht with
  | unread hs => exact Or.inr ⟨not_renewed_error _, by simp [hs.metrics_eq_nil]⟩
  | nothing hs ht =>
    have hrest := ht.endsAs_of_barren (not_renewed_human _)
    refine EndsAs.append (EndsAs.append (s := counted [_]) hrest rfl) ?_
    simp [hs.metrics_eq_nil]
  | beyond hs hg hst =>
    exact Or.inr ⟨not_renewed_none, by simp [hs.metrics_eq_nil, Entry.metric?]⟩
  | @weighed _ s u found now st _ hs hg hst ht =>
    have hrest : EndsAs u x := by
      cases found with
      | none => exact ht.endsAs_of_barren (not_renewed_human _)
      | some base =>
        cases st with
        | valid =>
          refine ht.endsAs_of_barren ?_
          rintro ⟨r, hr⟩
          cases hr
        | expiringSoon => exact ht.endsAs_of_refreshing
        | expiredRefreshable => exact ht.endsAs_of_refreshing
        | expiredUnrefreshable => exact ht.endsAs_of_barren (not_renewed_human _)
        | invalid => exact ht.endsAs_of_barren (not_renewed_human _)
        | uninitialized => exact ht.endsAs_of_barren (not_renewed_human _)
    refine EndsAs.append (t := .asked .now now :: (counted [.state st.name] ++ u)) hrest ?_
    simp [hs.metrics_eq_nil]

/-! ## Conflicts and reasons -/

/-- No first record is about to be written. -/
def Stage.Keeps : Stage → Prop
  | .writing (.first _) => False
  | _ => True

theorem Stage.keeps_weighed (g : Goal) (found : Option Record) (st : TokenState) :
    (g.weighed found (some st)).Keeps := by
  cases g with
  | first =>
    cases found with
    | none => trivial
    | some r => cases st <;> trivial
  | recover base next e =>
    dsimp only [Goal.weighed]
    split <;> trivial
  | _ => trivial

theorem Stage.keeps_written (dr : Draft) (a : Except Error Version) : (dr.written a).Keeps := by
  cases a with
  | ok v => trivial
  | error e =>
    obtain ⟨goal, -, hlooking⟩ | hended := dr.written_error e
    · rw [hlooking]
      trivial
    · rw [hended]
      trivial

/-- The answer to a write is counted as a conflict if it is one. -/
theorem Draft.count_notes {dr : Draft} (hdr : (Stage.writing dr).Keeps)
    (a : Except Error Version) : (dr.notes a).count .conflict =
      (Entry.called (S := Custody) (.write dr.record dr.condition) a).conflict?.toList.length := by
  cases a with
  | ok v => cases dr <;> rfl
  | error e =>
    cases dr with
    | first r => exact hdr.elim
    | _ => cases he : e.isConflict <;> simp [notes, Entry.conflict?, he]

/-- Every conflict is counted where it happens, and nowhere else. -/
theorem Transcript.count_conflict {stage : Stage} {x : Option (Except Error Outcome)}
    (ht : Transcript cfg d stage t x) (hstage : stage.Keeps) :
    (metrics t).count .conflict = (pick Entry.conflict? t).length := by
  have hcounted (ms : List Metric) : pick Entry.conflict? (counted ms) = [] :=
    pick_counted ms fun _ => rfl
  have hreads {s : List (Entry Custody)} {r : Except Error (Option Record)}
      (hs : Reads cfg d s r) : pick Entry.conflict? s = [] :=
    hs.pick_eq (fun _ _ _ => rfl) fun _ => rfl
  have hasks {token : String} {s : List (Entry Custody)} {r : Except Error Grant}
      (hs : Asks cfg d token s r) : pick Entry.conflict? s = [] :=
    hs.pick_eq (fun _ _ _ => rfl) fun _ => rfl
  induction ht with
  | ended x =>
    have hsummons : (summons x).count .conflict = 0 := by
      unfold summons
      split <;> rfl
    simp [hcounted, hsummons]
  | halted => rfl
  | unread hs => simp [hs.metrics_eq_nil, hreads hs]
  | nothing hs ht ih => simp [hs.metrics_eq_nil, hreads hs, hcounted, ih trivial]
  | beyond hs hg hst => simp [hs.metrics_eq_nil, hreads hs, Entry.metric?, Entry.conflict?]
  | @weighed g s t found now st x hs hg hst ht ih =>
    have hnotes : (g.notes st).count .conflict = 0 := by cases g <;> rfl
    simp [hs.metrics_eq_nil, hreads hs, hcounted, hnotes, ih (Stage.keeps_weighed g found st),
      Entry.metric?, Entry.conflict?]
  | @granted base g s t x hs ht ih =>
    have hnext : (Stage.ofSuccessor base (base.successor g cfg.refreshLifetime)).Keeps := by
      unfold Stage.ofSuccessor
      split <;> trivial
    simp [hs.metrics_eq_nil, hasks hs, hcounted, ih hnext]
  | refused hs he ht ih =>
    simp [hs.metrics_eq_nil, hasks hs, hcounted, ih trivial, Entry.metric?, Entry.conflict?]
  | failed hs he => simp [hs.metrics_eq_nil, hasks hs, hcounted]
  | late dr hlate ht ih => simp [hcounted, ih trivial, outOfTime, Entry.metric?, Entry.conflict?]
  | @wrote dr now t x hfits a ht ih =>
    simp [hcounted, Draft.count_notes hstage a, ih (Stage.keeps_written dr a), Entry.metric?,
      Entry.conflict?]
  | notReported hlate => simp [hcounted, outOfTime, Entry.metric?, Entry.conflict?]
  | @reported used why now at_ dr t x hfits hdr a ht ih =>
    have hkeeps : (Stage.writing dr).Keeps := by
      rw [hdr]
      trivial
    simp [hcounted, Draft.count_notes hkeeps a, ih (Stage.keeps_written dr a), Entry.metric?,
      Entry.conflict?]

theorem Draft.pick_reason_notes (dr : Draft) (a : Except Error Version) :
    pick Metric.reason? (dr.notes a) = [] := by
  cases a with
  | ok v => cases dr <;> rfl
  | error e => cases he : e.isConflict <;> cases dr <;> simp [notes, he, Metric.reason?]

/-- A human is called for one reason, the one of the result. -/
theorem pick_reason_summons (x : Except Error Outcome) :
    pick Metric.reason? (summons x) = reasons (some x) := by
  cases x with
  | error e => rfl
  | ok o => cases o <;> rfl

/-- A reason is counted where the run ends by calling a human, and nowhere else. -/
theorem Transcript.reasons_eq {stage : Stage} {x : Option (Except Error Outcome)}
    (ht : Transcript cfg d stage t x) :
    pick Metric.reason? (metrics t) = reasons x := by
  induction ht with
  | ended x => simp [pick_reason_summons]
  | halted => rfl
  | unread hs => simp [hs.metrics_eq_nil, reasons]
  | nothing hs ht ih => simp [hs.metrics_eq_nil, ih, Metric.reason?]
  | beyond hs hg hst => simp [hs.metrics_eq_nil, reasons, Entry.metric?]
  | @weighed g s t found now st x hs hg hst ht ih =>
    have hnotes : pick Metric.reason? (g.notes st) = [] := by cases g <;> rfl
    simp [hs.metrics_eq_nil, hnotes, ih, Entry.metric?]
  | granted hs ht ih => simp [hs.metrics_eq_nil, ih, Metric.reason?]
  | refused hs he ht ih => simp [hs.metrics_eq_nil, ih, Metric.reason?, Entry.metric?]
  | failed hs he => simp [hs.metrics_eq_nil, Metric.reason?, reasons]
  | late dr hlate ht ih => simp [ih, outOfTime, Metric.reason?, Entry.metric?]
  | wrote hfits a ht ih => simp [ih, Draft.pick_reason_notes, Entry.metric?]
  | notReported hlate => simp [outOfTime, Metric.reason?, Entry.metric?, reasons]
  | reported hfits hdr a ht ih => simp [ih, Draft.pick_reason_notes, Entry.metric?]

/-! ## All runs -/

theorem count_refreshAttempt_eq (ms : List Metric) :
    ms.count .refreshAttempt = (ms.filter Metric.opens).count .refreshAttempt :=
  (List.count_filter rfl).symm

theorem pick_state_eq (ms : List Metric) :
    pick Metric.state? ms = pick Metric.state? (ms.filter Metric.opens) := by
  refine (pick_filter fun m hm => ?_).symm
  cases m with
  | state name => cases hm
  | _ => rfl

/-- **Metrics agree with what happened.** Whatever the store and the provider answer, and whoever
else writes in between: if a run that obtains a token ends, with a result or without, its
metrics agree with what it has seen and with what has come of it. -/
theorem metrics_agree {World : Type} {Answers : World → Entry Custody → World → Prop}
    {w w' : World} {q : Program Custody (Except Error Outcome)}
    {x : Option (Except Error Outcome)} (hc : Course Answers w (obtainBy cfg d) t w' q)
    (hq : q.Yields [] x) : Agrees cfg d t x := by
  have ht : Transcript cfg d (.looking .first none) t x :=
    of_obtainBy (by simpa using hc.yields hq)
  obtain ⟨r, hr, hopens⟩ := ht.opens_of_looking
  refine ⟨⟨r, hr, ?_⟩, ?_, ht.endsAs_of_looking, ht.count_conflict trivial, ht.reasons_eq⟩
  · obtain ⟨⟨e, rfl⟩, hnone, -⟩ | ⟨⟨found, rfl⟩, rfl, hnone, -⟩ | ⟨⟨found, rfl⟩, st, hst⟩ := hopens
    · simp [hnone]
    · exact Or.inr ⟨rfl, hnone⟩
    · refine Or.inl ⟨st, ?_⟩
      rw [pick_state_eq, hst]
      split <;> rfl
  · rw [count_refreshAttempt_eq]
    obtain ⟨-, hnone, hunasked⟩ | ⟨-, -, hnone, hunasked⟩ | ⟨-, st, hst⟩ := hopens
    · simp [hnone, hunasked]
    · simp [hnone, hunasked]
    · rw [hst]
      split <;> rfl

/-! ### A run that is overtaken -/

namespace Sample

/-- What the run sees whose peer is faster. -/
def overtaken : List (Entry Custody) := granted otherGrant ++ late

theorem courseOvertaken : Course MemoryStore.AnswersAmongPeers (.seeded base)
    (obtainBy .default ⟨.ofSeconds 50⟩) overtaken renewed
    (.done (.ok (.refreshedByPeer made))) := by
  have hpeer : (MemoryStore.seeded base).Becomes renewed := .put .same _ _
  obtain ⟨m, hm, hrest⟩ := lateAnswered
  have hbefore : Answered MemoryStore.AnswersAmongPeers (.seeded base) (granted otherGrant)
      (.seeded base) := asks.mono fun _ _ _ h => h.amongPeers
  have hafter : Answered MemoryStore.AnswersAmongPeers (.seeded base) late renewed :=
    ⟨m, ⟨renewed, hpeer, .answers hm⟩, hrest.mono fun _ _ _ h => h.amongPeers⟩
  have hends : overtaken.foldlM Program.advance (obtainBy .default ⟨.ofSeconds 50⟩) =
      some (.done (.ok (.refreshedByPeer made))) :=
    Program.ends_of_reading (fun _ => Program.eq_ok_of_toOption) (by decide +kernel)
  have hanswered : Answered MemoryStore.AnswersAmongPeers (.seeded base) overtaken renewed :=
    answered_append.mpr ⟨_, hbefore, hafter⟩
  have hcourse := Course.append .start hanswered hends
  exact hcourse

end Sample

/-- The run has counted the state, the attempt and the conflict, and neither a success nor a
reason. -/
theorem metrics_agree_of_sample :
    Course MemoryStore.AnswersAmongPeers (.seeded Sample.base)
        (obtainBy .default ⟨.ofSeconds 50⟩) Sample.overtaken Sample.renewed
        (.done (.ok (.refreshedByPeer Sample.made))) ∧
      Agrees .default ⟨.ofSeconds 50⟩ Sample.overtaken (some (.ok (.refreshedByPeer Sample.made))) ∧
      metrics Sample.overtaken =
        [.state "expired_refreshable", .refreshAttempt, .conflict] :=
  ⟨Sample.courseOvertaken, metrics_agree Sample.courseOvertaken (.done _), by decide⟩

end Coordination

end TokenCustody
