/-
TokenCustody.Proofs.Retry.Lateness — tries after the deadline.

An executor looks at its deadline before it pauses: the pause must not be
longer than the time that is left. A pause that is in time ends in time, and
so the try after it begins no later than the deadline. But no time is left
after the deadline, and a pause of no time is not longer than that. So a
try can begin after the deadline, and it does so exactly if the one before
it ended after the deadline and no pause at all was chosen
(`Execution.begins_late_iff`).
-/
import TokenCustody.Proofs.Retry.Executions

namespace TokenCustody.Execution

open TokenCustody.Time

variable {x : Execution} {p : RetryPolicy} {s : RetryStats} {i last : Nat} {t : Duration}

/-- The tries that are begun are those up to the last one. -/
theorem begun_eq_some_iff (hlast : IsLeast {i | x.Ends p i} last) :
    (x.perform p s).2.begun[i]? = some t ↔ i ≤ last ∧ x.beginsAt p i = t := by
  have hrange {j : Nat} : (List.range (last + 1))[i]? = some j ↔ i ≤ last ∧ i = j := by
    simp only [List.getElem?_eq_some_iff, List.length_range, List.getElem_range, exists_prop,
      Nat.lt_succ_iff]
  rw [perform_eq hlast]
  simp only [clockedAfter, List.getElem?_map, Option.map_eq_some_iff, hrange]
  constructor
  · rintro ⟨_, ⟨hi, rfl⟩, ht⟩
    exact ⟨hi, ht⟩
  · rintro ⟨hi, ht⟩
    exact ⟨i, ⟨hi, rfl⟩, ht⟩

/-- A pause that is not longer than the time that is left ends after the deadline only if that
has passed, and then there is no pause. -/
theorem late_iff {d : Deadline} {now pause : Duration} (h : pause ≤ d.remainingAt now) :
    d.at_ < now + pause ↔ d.at_ < now ∧ pause = .zero := by
  have hle : pause.nanos ≤ d.at_.nanos - now.nanos := h
  have hzero : pause = .zero ↔ pause.nanos = 0 := by
    cases pause
    simp [Duration.zero]
  rw [hzero]
  show d.at_.nanos < now.nanos + pause.nanos ↔ d.at_.nanos < now.nanos ∧ pause.nanos = 0
  omega

/-- **Tries after the deadline.** A try is followed by one that begins after the deadline exactly
if another one is allowed, it ended after the deadline itself, and it failed in a way that
another one may change and after which no time at all is chosen for the pause. -/
theorem begins_late_iff (h : (x.perform p s).2.begun[i]? = some t) :
    (∃ t', (x.perform p s).2.begun[i + 1]? = some t' ∧ x.deadline.at_ < t') ↔
      i + 1 < max 1 (min p.maxAttempts 3) ∧ x.deadline.at_ < t + x.latency i ∧
        ∃ e, x.outcome i = .error e ∧ e.isRetryable = true ∧
          Backoff.nextDelay ⟨p, i + 1⟩ (x.draw i) e.retryAfter = .zero := by
  obtain ⟨last, hlast⟩ := x.exists_isLeast p
  obtain ⟨hi, rfl⟩ := (begun_eq_some_iff hlast).mp h
  constructor
  · rintro ⟨t', ht', hlate⟩
    obtain ⟨hnext, rfl⟩ := (begun_eq_some_iff hlast).mp ht'
    have hgoes : ¬x.Ends p i := fun hends => Nat.not_le_of_lt hnext (hlast.2 hends)
    obtain ⟨hlimit, e, hout, hretry, hfits⟩ := not_ends_iff.mp hgoes
    obtain ⟨hended, hpause⟩ := (late_iff hfits).mp hlate
    have hle : i + 1 ≤ p.attemptLimit - 1 :=
      Nat.le_trans hnext (hlast.2 (.exhausted (Nat.sub_add_cancel p.attemptLimit_pos)))
    exact ⟨Nat.lt_of_le_of_ne (Nat.le_trans hle (Nat.sub_le _ _)) hlimit, hended, e, hout, hretry,
      (pause_eq hout).symm.trans hpause⟩
  · rintro ⟨hlimit, hended, e, hout, hretry, hpause⟩
    have hpause : x.pause p i = .zero := (pause_eq hout).trans hpause
    have hfits : x.pause p i ≤ x.deadline.remainingAt (x.endsAt p i) := by
      rw [hpause]
      exact Nat.zero_le _
    have hgoes : ¬x.Ends p i :=
      not_ends_iff.mpr ⟨Nat.ne_of_lt hlimit, e, hout, hretry, hfits⟩
    have hnext : i + 1 ≤ last := Nat.lt_of_le_of_ne hi fun heq => hgoes (heq ▸ hlast.1)
    exact ⟨_, (begun_eq_some_iff hlast).mpr ⟨hnext, rfl⟩, (late_iff hfits).mpr ⟨hended, hpause⟩⟩

namespace Sample

/-- A policy with no pauses. -/
def unpaused : RetryPolicy := { RetryPolicy.default with initialDelay := .zero }

/-- The first try fails after twice the time that there is, and the second one would succeed. -/
def overrun : Execution :=
  { start := .zero
    deadline := ⟨.ofMillis 50⟩
    outcome := fun
      | 0 => .error (.network (.unreachable "reset"))
      | _ => .ok "late"
    latency := fun _ => .ofMillis 100
    draw := fun _ => 0.5 }

theorem begun_overrun :
    (overrun.perform unpaused .zero).2.begun = [.zero, .ofMillis 100] := by
  decide +kernel

end Sample

open Sample

theorem begins_late_iff_of_sample :
    (overrun.perform unpaused .zero).2.begun[0]? = some .zero ∧
      overrun.deadline.at_ < .zero + overrun.latency 0 ∧
      Backoff.nextDelay ⟨unpaused, 1⟩ (overrun.draw 0) none = .zero := by
  have hbegun : (overrun.perform unpaused .zero).2.begun[0]? = some .zero := by
    rw [begun_overrun]
    rfl
  have hlate := (begins_late_iff hbegun).mp
    ⟨.ofMillis 100, by rw [begun_overrun]; rfl, by decide⟩
  obtain ⟨-, hended, e, hout, -, hpause⟩ := hlate
  cases hout
  exact ⟨hbegun, hended, hpause⟩

/-- The second try begins when the deadline has long passed. -/
theorem begins_late : ∃ t, (overrun.perform unpaused .zero).2.begun[1]? = some t ∧
    overrun.deadline.at_ < t :=
  ⟨.ofMillis 100, by rw [begun_overrun]; rfl, by decide⟩

end TokenCustody.Execution
