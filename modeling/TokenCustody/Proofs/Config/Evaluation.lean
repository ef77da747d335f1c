/-
TokenCustody.Proofs.Config.Evaluation — thresholds that lead beyond the
calendar.

To tell whether a refresh is due, the threshold is taken away from the
expiry. The configuration does not ask where that leads, and no threshold
is safe but one: whatever whole seconds it has, near the ends of the
calendar there are expiries from which they cannot be taken away, and the
reader of records takes those too. A threshold of nothing leads to the
expiry itself.

How near they are depends on the threshold. One of minutes needs an expiry
in the first minutes of the calendar. One of more seconds than the calendar
has before today leaves it from any expiry of today, and so a job that was
given it never learns the state of a live record
(`Variables.undecided_iff`).
-/
import TokenCustody.Proofs.Config.Environment
import TokenCustody.Proofs.Token.RoundTrip
import TokenCustody.Proofs.Token.State

namespace TokenCustody

open TokenCustody.Time

/-! ## Thresholds of whole seconds -/

/-- A threshold of whole seconds leaves something without a state exactly if that is a live
record and the calendar does not have the second that lies so long before its expiry. -/
theorem stateOf_eq_none_iff {r : Option Record} {n : Int} {now : Instant} {api : ApiOutcome} :
    stateOf (.ofSeconds n) r now api = none ↔ ∃ record, r = some record ∧
      record.Lives now api ∧ ¬Instant.InCalendar (record.expiresAt.secondBefore n) := by
  cases r with
  | none => simp [stateOf]
  | some record =>
    have hsub : record.expiresAt.sub (.ofSeconds n) = none ↔
        ¬Instant.InCalendar (record.expiresAt.secondBefore n) := by
      rw [← Instant.isSome_sub_iff, Option.not_isSome_iff_eq_none]
    simp only [stateOf, Record.stateAt_eq_none_iff, hsub, Option.some.injEq, exists_eq_left']

/-- A record that expires at an instant, with both of its tokens. -/
def Record.expiring (t : Instant) : Record :=
  { accessToken := "access", refreshToken := "refresh", tokenType := "Bearer", scope := none
    issuedAt := t, expiresAt := t, refreshExpiresAt := t
    lastRefreshAt := none, refreshCount := 0, fault := none, version := none }

theorem Record.ofDocument_expiring (t : Instant) :
    Record.ofDocument? (Record.expiring t).document = some (Record.expiring t) := by
  have hcount : (Record.expiring t).refreshCount < Text.wordCount := Nat.succ_pos _
  exact Record.ofDocument_document hcount

theorem Record.lives_expiring {t now : Instant} (h : now < t) :
    (Record.expiring t).Lives now .notObserved :=
  ⟨rfl, rfl, h, h⟩

/-- Of every number of seconds but none there is an expiry so near to an end of the calendar that
they cannot be taken away from it, and an instant before it. -/
theorem exists_beyond {n : Int} (h : n ≠ 0) : ∃ t now : Instant,
    now < t ∧ ¬Instant.InCalendar (t.secondBefore n) := by
  rcases Int.lt_or_gt_of_ne h with hneg | hpos
  · -- Forwards from the last second.
    refine ⟨⟨lastSecond, 0, by decide, by decide, by decide⟩, .epoch, by decide, ?_⟩
    simp only [Instant.InCalendar, Instant.secondBefore]
    omega
  · -- Backwards from the first one, which is no leap second.
    refine ⟨⟨firstSecond, 1, by decide, by decide, by decide⟩,
      ⟨firstSecond, 0, by decide, by decide, by decide⟩, by decide, ?_⟩
    have hleap : (⟨firstSecond, 1, by decide, by decide, by decide⟩ : Instant).isLeap = false := rfl
    simp only [Instant.InCalendar, Instant.secondBefore, hleap, Bool.false_eq_true, false_and,
      if_false]
    omega

namespace Variables

/-- The threshold of a configuration is a number of whole seconds, and that is zero exactly if
zero is what the variable tells. -/
theorem Threshold.eq_ofSeconds {x : Option Nat} {t : Span} (h : Threshold x t) :
    ∃ n, t = .ofSeconds n ∧ (n = 0 ↔ x = some 0) := by
  cases h with
  | usual => exact ⟨300, rfl, by decide⟩
  | @exact n _ => exact ⟨n, rfl, by simp⟩
  | @wrapped n hn h =>
    have hpos : 0 < n := by
      simp only [Span.maxSeconds, Text.wordCount] at h
      omega
    exact ⟨n - Text.wordCount, rfl, by simp only [Option.some.injEq]; omega⟩

/-- **Thresholds that lead beyond the calendar.** With an accepted configuration something is
left without a state exactly if it is a live record and the calendar does not have the second
that lies the threshold before its expiry. There are such records among those that are read
from a document, unless the threshold is told to be zero. -/
theorem undecided_iff {v : Variables} {job : JobConfig} (h : v.jobConfig = some (.ok job)) :
    ∃ (x : Option Nat) (n : Int), v.Tells "REFRESH_THRESHOLD_SECS" x ∧
      Threshold x (.ofSeconds n) ∧ job.settings.refreshThreshold = .ofSeconds n ∧
      (∀ r now api, stateOf job.settings.refreshThreshold r now api = none ↔
        ∃ record, r = some record ∧ record.Lives now api ∧
          ¬Instant.InCalendar (record.expiresAt.secondBefore n)) ∧
      ((∀ s r now api, Record.ofDocument? s = some r →
          (stateOf job.settings.refreshThreshold (some r) now api).isSome) ↔ x = some 0) := by
  obtain ⟨x, htells, hthreshold⟩ := (gives_jobConfig h).result.threshold
  obtain ⟨n, hn, hzero⟩ := hthreshold.eq_ofSeconds
  rw [hn] at hthreshold ⊢
  refine ⟨x, n, htells, hthreshold, rfl, fun r now api => stateOf_eq_none_iff, ?_⟩
  rw [← hzero]
  constructor
  · intro hall
    by_contra hne
    obtain ⟨t, now, hlt, hbeyond⟩ := exists_beyond hne
    have hnone := stateOf_eq_none_iff.mpr ⟨_, rfl, Record.lives_expiring hlt, hbeyond⟩
    have hsome := hall _ _ now .notObserved (Record.ofDocument_expiring t)
    rw [hnone] at hsome
    cases hsome
  · rintro rfl s r now api -
    rw [Option.isSome_iff_ne_none]
    intro hnone
    obtain ⟨record, -, -, hbeyond⟩ := stateOf_eq_none_iff.mp hnone
    exact hbeyond record.expiresAt.inCalendar_secondBefore_zero

/-! ### A threshold of 285 thousand years -/

namespace Sample

/-- Eleven in the morning of 1 June 2024. -/
def morning : Instant := (Instant.ofParts? 1717239600 0).getD .epoch

/-- Noon of that day. -/
def noon : Instant := (Instant.ofParts? 1717243200 0).getD .epoch

end Sample

open Sample

theorem undecided_iff_of_sample : ∃ job, (given "0").jobConfig = some (.ok job) ∧
    ∀ s r now api, Record.ofDocument? s = some r →
      (stateOf job.settings.refreshThreshold (some r) now api).isSome := by
  obtain ⟨job, hjob, -⟩ := exists_job (v := given "0") (t := .ofSeconds 0) (by decide +kernel)
  obtain ⟨x, n, htells, -, -, -, htotal⟩ := undecided_iff hjob
  have hx : x = some 0 := htells.unique (tells (by decide +kernel))
  exact ⟨job, hjob, htotal.mpr hx⟩

/-- A record is read whose access token lives for another hour, and there is no state. -/
theorem undecided : ∃ (job : JobConfig) (s : String) (r : Record),
    (given "9000000000000").jobConfig = some (.ok job) ∧ Record.ofDocument? s = some r ∧
      r.Lives morning .notObserved ∧
      stateOf job.settings.refreshThreshold (some r) morning .notObserved = none := by
  obtain ⟨job, hjob, ht⟩ := exists_job (v := given "9000000000000")
    (t := .ofSeconds 9000000000000) (by decide +kernel)
  have hlives : (Record.expiring noon).Lives morning .notObserved :=
    Record.lives_expiring (by decide)
  refine ⟨job, _, _, hjob, Record.ofDocument_expiring noon, hlives, ?_⟩
  rw [ht]
  exact stateOf_eq_none_iff.mpr ⟨_, rfl, hlives, by decide +kernel⟩

end Variables

end TokenCustody
