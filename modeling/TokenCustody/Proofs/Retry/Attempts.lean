/-
TokenCustody.Proofs.Retry.Attempts — what a retried operation sees.

An operation that is a single call is tried again under four conditions,
and given up for three reasons. `Attempts` has one constructor for each
way in which an attempt can end, with all that is seen in it: the count of
the attempt, the call and its answer, the draw and the look at the timer
that decide about a pause, and the pause.

Most of that is the business of the executor (`Entry.isRetry`). What is
left are the calls: some that failed in a way that was worth another
attempt, and then the one whose answer is the result (`Attempts.answers`).
-/
import TokenCustody.Proofs.Program.Whole

namespace TokenCustody

open TokenCustody.Time

variable {S : Service} {α : Type}

/-- What is asked between the attempts of an operation. -/
def Entry.isRetry : Entry S → Bool
  | .asked (.tally _) _ | .asked .draw _ | .asked .timer _ | .asked (.sleep _) _ => true
  | _ => false

namespace Entry

@[simp] theorem isRetry_tally (t : Tally) (a : Unit) :
    (asked (.tally t) a : Entry S).isRetry = true := rfl

@[simp] theorem isRetry_draw (x : Float) : (asked .draw x : Entry S).isRetry = true := rfl

@[simp] theorem isRetry_timer (t : Duration) : (asked .timer t : Entry S).isRetry = true := rfl

@[simp] theorem isRetry_sleep (d : Duration) (a : Unit) :
    (asked (.sleep d) a : Entry S).isRetry = true := rfl

@[simp] theorem tally?_tally (t : Tally) (a : Unit) :
    (asked (.tally t) a : Entry S).tally? = some t := rfl

@[simp] theorem tally?_draw (x : Float) : (asked .draw x : Entry S).tally? = none := rfl

@[simp] theorem tally?_timer (t : Duration) : (asked .timer t : Entry S).tally? = none := rfl

@[simp] theorem tally?_sleep (d : Duration) (a : Unit) :
    (asked (.sleep d) a : Entry S).tally? = none := rfl

@[simp] theorem isRetry_called (r : S.Request) (a : S.Reply r) :
    (called r a : Entry S).isRetry = false := rfl

end Entry

/-- What is seen of an operation that is tried once and at most `left` times more, and its
result. An attempt that is answered by `a` is the entry `made a`. -/
inductive Attempts (d : Deadline) (made : Except Error α → Entry S) :
    (left : Nat) → Backoff → List (Entry S) → Except Error α → Prop where
  | succeeds {left : Nat} {b : Backoff} (a : α) (h : ¬1 < b.start.attempts) :
      Attempts d made left b [.asked (.tally .attempt) (), made (.ok a)] (.ok a)
  | succeedsLate {left : Nat} {b : Backoff} (a : α) (h : 1 < b.start.attempts) :
      Attempts d made left b
        [.asked (.tally .attempt) (), made (.ok a), .asked (.tally .lateSuccess) ()] (.ok a)
  /-- The last attempt has failed. -/
  | exhausted {b : Backoff} (e : Error) :
      Attempts d made 0 b
        [.asked (.tally .attempt) (), made (.error e), .asked (.tally .failure) ()] (.error e)
  /-- Another attempt would fail the same way. -/
  | hopeless {left : Nat} {b : Backoff} (e : Error) (h : ¬e.isRetryable = true) :
      Attempts d made (left + 1) b
        [.asked (.tally .attempt) (), made (.error e), .asked (.tally .failure) ()] (.error e)
  /-- The pause before another attempt would end after the deadline. -/
  | tooShort {left : Nat} {b : Backoff} (e : Error) (x : Float) (t : Duration)
      (h : e.isRetryable = true)
      (hlate : ¬b.start.nextDelay x e.retryAfter ≤ d.remainingAt t) :
      Attempts d made (left + 1) b
        [.asked (.tally .attempt) (), made (.error e), .asked .draw x, .asked .timer t,
          .asked (.tally .failure) ()] (.error e)
  | again {left : Nat} {b : Backoff} {s : List (Entry S)} {r : Except Error α} (e : Error)
      (x : Float) (t : Duration) (h : e.isRetryable = true)
      (hfits : b.start.nextDelay x e.retryAfter ≤ d.remainingAt t)
      (hs : Attempts d made left b.start s r) :
      Attempts d made (left + 1) b
        (.asked (.tally .attempt) () :: made (.error e) :: .asked .draw x :: .asked .timer t ::
          .asked (.sleep (b.start.nextDelay x e.retryAfter)) () :: s) r

namespace Attempts

variable {d : Deadline} {made : Except Error α → Entry S} {left : Nat} {b : Backoff}
variable {t : List (Entry S)} {r : Except Error α}

theorem of_givenUp {e : Error} {x : Option (Except Error α)}
    (h : (givenUp e : Program S (Except Error α)).Yields t x) :
    t = [.asked (.tally .failure) ()] ∧ x = some (.error e) := by
  obtain ⟨_, u, rfl, hu⟩ := h.asking_inv
  obtain ⟨rfl, rfl⟩ := hu.pure_inv
  exact ⟨rfl, rfl⟩

/-- One attempt: if it succeeds that is the end, and if it fails `rest` is what follows. -/
theorem of_attempt {op : Program S (Except Error α)}
    (hop : ∀ t x, op.Yields t x → ∃ a, t = [made a] ∧ x = some a)
    {rest : Error → Program S (Except Error α)} {x : Option (Except Error α)}
    (h : (do
      Program.tally .attempt
      match ← op with
      | .ok a =>
        if 1 < b.start.attempts then Program.tally .lateSuccess
        return .ok a
      | .error e => rest e : Program S (Except Error α)).Yields t x) :
    (∃ r, x = some r ∧ Attempts d made left b t r) ∨
      ∃ e u, t = .asked (.tally .attempt) () :: made (.error e) :: u ∧ (rest e).Yields u x := by
  obtain ⟨_, u, rfl, hu⟩ := h.asking_inv
  obtain ⟨hs, -⟩ | ⟨s, a, v, rfl, hs, hv⟩ := hu.bind_inv
  · obtain ⟨a, -, ha⟩ := hop _ _ hs
    cases ha
  obtain ⟨_, rfl, ha⟩ := hop _ _ hs
  cases ha
  cases a with
  | error e => exact Or.inr ⟨e, v, rfl, hv⟩
  | ok a =>
    dsimp only at hv
    split at hv
    · next hlate =>
      obtain ⟨_, w, rfl, hw⟩ := hv.asking_inv
      obtain ⟨rfl, rfl⟩ := hw.pure_inv
      exact Or.inl ⟨_, rfl, .succeedsLate a hlate⟩
    · next hlate =>
      obtain ⟨rfl, rfl⟩ := hv.pure_inv
      exact Or.inl ⟨_, rfl, .succeeds a hlate⟩

/-- What a retried operation sees are attempts, and it always comes to a result. The induction
is on the attempts that are left. -/
theorem of_attemptWith {op : Program S (Except Error α)}
    (hop : ∀ t x, op.Yields t x → ∃ a, t = [made a] ∧ x = some a)
    {x : Option (Except Error α)} (h : (attemptWith d op left b).Yields t x) :
    ∃ r, x = some r ∧ Attempts d made left b t r := by
  induction left generalizing b t with
  | zero =>
    rw [attemptWith] at h
    obtain hend | ⟨e, u, rfl, hu⟩ := of_attempt hop h
    · exact hend
    · obtain ⟨rfl, rfl⟩ := of_givenUp hu
      exact ⟨_, rfl, .exhausted e⟩
  | succ left ih =>
    rw [attemptWith] at h
    obtain hend | ⟨e, u, rfl, hu⟩ := of_attempt hop h
    · exact hend
    dsimp only at hu
    split at hu
    · next hretry =>
      obtain ⟨y, v, rfl, hasked⟩ := hu.asking_inv
      obtain ⟨now, v, rfl, hv⟩ := hasked.hasAtLeast_inv
      split at hv
      · next hfits =>
        obtain ⟨_, w, rfl, hw⟩ := hv.asking_inv
        obtain ⟨r, rfl, hr⟩ := ih hw
        exact ⟨r, rfl, .again e y now hretry (of_decide_eq_true hfits) hr⟩
      · next hlate =>
        obtain ⟨rfl, rfl⟩ := of_givenUp hv
        exact ⟨_, rfl, .tooShort e y now hretry fun hfits => hlate (decide_eq_true hfits)⟩
    · next hretry =>
      obtain ⟨rfl, rfl⟩ := of_givenUp hu
      exact ⟨_, rfl, .hopeless e hretry⟩

/-- The calls of a retried operation: some that failed in a way that was worth another attempt,
and then the one that was answered by the result. Each of them was counted. -/
theorem answers (hmade : ∀ a, (made a).isRetry = false) (h : Attempts d made left b t r) :
    ∃ fails : List Error, fails.length ≤ left ∧ (∀ e ∈ fails, e.isRetryable = true) ∧
      (pick Entry.tally? t).count .attempt = fails.length + 1 ∧
      t.filter (fun e => !e.isRetry) = fails.map (fun e => made (.error e)) ++ [made r] := by
  have htally (a : Except Error α) : (made a).tally? = none := by
    have ha := hmade a
    unfold Entry.tally?
    split
    · next heq =>
      rw [heq] at ha
      cases ha
    · rfl
  induction h with
  | succeeds a => exact ⟨[], by simp [htally, hmade]⟩
  | succeedsLate a => exact ⟨[], by simp [htally, hmade]⟩
  | exhausted e => exact ⟨[], by simp [htally, hmade]⟩
  | hopeless e => exact ⟨[], by simp [htally, hmade]⟩
  | tooShort e x t => exact ⟨[], by simp [htally, hmade]⟩
  | again e x t hretry hfits hs ih =>
    obtain ⟨fails, hlen, hall, hcount, hcalls⟩ := ih
    refine ⟨e :: fails, by simpa using hlen, ?_, ?_, ?_⟩
    · simpa using ⟨hretry, hall⟩
    · simpa [htally] using hcount
    · simpa [hmade] using hcalls

/-- Where attempts end and what their result is can be told from what is seen. The induction is
on the attempts of the one. -/
theorem append_inj (hinj : Function.Injective made) {t' u u' : List (Entry S)}
    {r' : Except Error α} (h : Attempts d made left b t r) (h' : Attempts d made left b t' r')
    (heq : t ++ u = t' ++ u') : t = t' ∧ r = r' := by
  induction h generalizing t' u' with
  | again e x t hretry hfits hs ih =>
    cases h' with
    | again e' x' t' hretry' hfits' hs' =>
      simp only [List.cons_append, List.cons.injEq, hinj.eq_iff, Except.error.injEq] at heq
      obtain ⟨-, rfl, hdraw, htimer, -, hrest⟩ := heq
      cases hdraw
      cases htimer
      obtain ⟨rfl, rfl⟩ := ih hs' hrest
      exact ⟨rfl, rfl⟩
    | _ => simp [hinj.eq_iff] at heq
  | _ => cases h' <;> simp_all [hinj.eq_iff]

/-- What is seen is the business of the executor, or it is an attempt. -/
theorem isRetry_or_made (hmade : ∀ a, (made a).isRetry = false) (h : Attempts d made left b t r)
    {e : Entry S} (he : e ∈ t) : e.isRetry = true ∨ ∃ a, e = made a := by
  cases hretry : e.isRetry with
  | true => exact Or.inl rfl
  | false =>
    obtain ⟨fails, -, -, -, hcalls⟩ := h.answers hmade
    have hmem : e ∈ t.filter fun e => !e.isRetry := List.mem_filter.mpr ⟨he, by simp [hretry]⟩
    rw [hcalls] at hmem
    obtain hmem | hmem := List.mem_append.mp hmem
    · obtain ⟨e', -, rfl⟩ := List.mem_map.mp hmem
      exact Or.inr ⟨_, rfl⟩
    · exact Or.inr ⟨_, List.mem_singleton.mp hmem⟩

/-- Whoever looks at the calls only sees these calls only. -/
theorem pick_filter_isRetry {β : Type} {f : Entry S → Option β}
    (hf : ∀ e : Entry S, e.isRetry = true → f e = none) :
    pick f (t.filter fun e => !e.isRetry) = pick f t :=
  pick_filter fun e he => hf e (by simpa using he)

/-- Whoever looks at the successes only sees the last attempt at most. -/
theorem pick_eq_toList {β : Type} {f : Entry S → Option β}
    (hmade : ∀ a, (made a).isRetry = false) (hf : ∀ e : Entry S, e.isRetry = true → f e = none)
    (hfail : ∀ e, f (made (.error e)) = none) (h : Attempts d made left b t r) :
    pick f t = (f (made r)).toList := by
  obtain ⟨fails, -, -, -, hcalls⟩ := h.answers hmade
  rw [← pick_filter_isRetry hf, hcalls, pick_append]
  have hnone : pick f (fails.map fun e => made (.error e)) = [] := by
    refine pick_eq_nil_iff.mpr fun e he => ?_
    obtain ⟨e', -, rfl⟩ := List.mem_map.mp he
    exact hfail e'
  simp [hnone]

/-- Attempts count nothing for whoever watches. -/
theorem pick_metric (hmade : ∀ a, (made a).isRetry = false)
    (hcalls : ∀ a, (made a).metric? = none) (h : Attempts d made left b t r) :
    pick Entry.metric? t = [] := by
  refine pick_eq_nil_iff.mpr fun e he => ?_
  obtain he | ⟨a, rfl⟩ := h.isRetry_or_made hmade he
  · unfold Entry.metric?
    split
    · cases he
    · rfl
  · exact hcalls a

/-- Whoever knows the answer that ends the attempts sees it last. -/
theorem getLast?_pick {β : Type} {f : Entry S → Option β} {y : β}
    (hmade : ∀ a, (made a).isRetry = false) (hf : ∀ e : Entry S, e.isRetry = true → f e = none)
    (hr : f (made r) = some y) (h : Attempts d made left b t r) :
    (pick f t).getLast? = some y := by
  obtain ⟨fails, -, -, -, hcalls⟩ := h.answers hmade
  rw [← pick_filter_isRetry hf, hcalls, pick_append, pick_cons, hr]
  exact List.getLast?_concat

/-- Whoever knows every attempt sees as many as are counted. -/
theorem length_pick {β : Type} {f : Entry S → Option β} (hmade : ∀ a, (made a).isRetry = false)
    (hf : ∀ e : Entry S, e.isRetry = true → f e = none) (hsome : ∀ a, (f (made a)).isSome = true)
    (h : Attempts d made left b t r) :
    (pick f t).length = (pick Entry.tally? t).count .attempt := by
  obtain ⟨fails, -, -, hcount, hcalls⟩ := h.answers hmade
  rw [← pick_filter_isRetry hf, hcalls, hcount, pick, List.length_filterMap_eq_countP,
    List.countP_append, List.countP_map]
  simp [Function.comp_def, hsome]

end Attempts

theorem RetryPolicy.attemptLimit_pos (p : RetryPolicy) : 0 < p.attemptLimit :=
  Nat.lt_of_lt_of_le Nat.zero_lt_one (Nat.le_max_left _ _)

/-- No policy allows more attempts than the program does. -/
theorem RetryPolicy.attemptLimit_le (p : RetryPolicy) : p.attemptLimit ≤ mostAttempts := by
  unfold attemptLimit mostAttempts
  omega

/-- What an operation that is tried as a policy allows sees are attempts. -/
theorem RetryPolicy.attempts_of_withRetries {p : RetryPolicy} {d : Deadline}
    {made : Except Error α → Entry S} {op : Program S (Except Error α)} {t : List (Entry S)}
    {x : Option (Except Error α)}
    (hop : ∀ t x, op.Yields t x → ∃ a, t = [made a] ∧ x = some a)
    (h : (withRetries p d op).Yields t x) :
    ∃ r, x = some r ∧ Attempts d made (p.attemptLimit - 1) (.new p) t r :=
  Attempts.of_attemptWith hop h

end TokenCustody
