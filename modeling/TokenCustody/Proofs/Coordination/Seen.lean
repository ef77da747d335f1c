/-
TokenCustody.Proofs.Coordination.Seen — what a run has asked for.

A run sees one thing after another, and most questions about it are about
one kind of them: what it has read, what it has asked the provider for,
what it has written, when it has looked at the calendar. There is a
function on entries for each kind, and `pick` collects what it knows. None
of them knows what the executor of retries does between the calls, or what
is counted.
-/
import TokenCustody.Proofs.Coordination.Stage
import TokenCustody.Proofs.Retry.Attempts

namespace TokenCustody

open TokenCustody.Time

/-- Every call can be answered. -/
theorem Custody.nonempty_reply (r : Custody.Request) : Nonempty (Custody.Reply r) := by
  cases r with
  | read => exact ⟨(.ok none : Except Error (Option Record))⟩
  | write r c => exact ⟨(.error (.store .missingVersion) : Except Error Version)⟩
  | refresh token => exact ⟨(.error (.store .missingVersion) : Except Error Grant)⟩
  | exchange code uri => exact ⟨(.error (.store .missingVersion) : Except Error Grant)⟩

/-! ## Kinds of entries -/

namespace Entry

/-- The answer to a read. -/
def read? : Entry Custody → Option (Except Error (Option Record))
  | .called .read a => some a
  | _ => none

/-- The record that was read. -/
def found? : Entry Custody → Option Record
  | .called .read (.ok found) => found
  | _ => none

/-- The refresh token that the provider was shown, and its answer. -/
def refresh? : Entry Custody → Option (String × Except Error Grant)
  | .called (.refresh token) a => some (token, a)
  | _ => none

/-- The code and the address that the provider was shown, and its answer. -/
def exchange? : Entry Custody → Option ((String × String) × Except Error Grant)
  | .called (.exchange code uri) a => some ((code, uri), a)
  | _ => none

/-- The record that was written or not, the condition, and the answer. -/
def write? : Entry Custody → Option ((Record × WriteCondition) × Except Error Version)
  | .called (.write r c) a => some ((r, c), a)
  | _ => none

/-- The record that was stored, at the version that it was given. -/
def stored? : Entry Custody → Option Record
  | .called (.write r _) (.ok v) => some (r.withVersion v)
  | _ => none

/-- The time of the calendar. -/
def now? : Entry Custody → Option Instant
  | .asked .now t => some t
  | _ => none

theorem now?_asked {q : Ambient} {a : q.Reply} (h : q ≠ .now) :
    (asked q a : Entry Custody).now? = none := by
  cases q with
  | now => exact absurd rfl h
  | _ => rfl

/-- Whoever knows no questions but for the time knows nothing of the executor. -/
theorem eq_none_of_isRetry {β : Type} {f : Entry Custody → Option β} {e : Entry Custody}
    (hf : ∀ q a, q ≠ .now → f (.asked q a) = none) (h : e.isRetry = true) : f e = none := by
  unfold isRetry at h
  split at h
  · exact hf _ _ nofun
  · exact hf _ _ nofun
  · exact hf _ _ nofun
  · exact hf _ _ nofun
  · cases h

end Entry

namespace Coordination

/-- What is seen when these are counted. -/
def counted (ms : List Metric) : List (Entry Custody) := ms.map fun m => .asked (.emit m) ()

theorem mem_counted {ms : List Metric} {e : Entry Custody} (h : e ∈ counted ms) :
    ∃ m, e = .asked (.emit m) () := by
  obtain ⟨m, -, rfl⟩ := List.mem_map.mp h
  exact ⟨m, rfl⟩

/-- Nobody but whoever watches the metrics sees what is counted. -/
theorem pick_counted {β : Type} {f : Entry Custody → Option β} (ms : List Metric)
    (hf : ∀ m, f (.asked (.emit m) ()) = none) : pick f (counted ms) = [] := by
  refine pick_eq_nil_iff.mpr fun e he => ?_
  obtain ⟨m, rfl⟩ := mem_counted he
  exact hf m

@[simp] theorem pick_metric_counted (ms : List Metric) : pick Entry.metric? (counted ms) = ms := by
  induction ms with
  | nil => rfl
  | cons m ms ih => exact congrArg (m :: ·) ih

end Coordination

end TokenCustody
