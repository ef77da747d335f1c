/-
TokenCustody.Proofs.Retry.Executions — how often an operation is tried.

An `Execution` is one use of a retry executor, with everything that it may
meet written down beforehand: how the operation would end each time it is
tried, how long that would take, and what would be drawn after it, for as
many tries as one likes. Tries are numbered from 0. Which of them are made
is for the executor to decide.

`Execution.Ends` says at which tries it may stop, in terms of what is
written down alone: the timer of a try is the sum of all latencies and
pauses before it. The executor stops at the first of these tries, with
what that try ended with, and has begun it and all tries before it at the
times at which they begin (`Execution.perform_eq`). One try is one step
(`run_of_ends`, `run_of_goesOn`), and the induction is on the attempts that
are left.

What an execution adds to the sums of its executor depends on its last try
alone, so the sums of many executions are told by their last tries
(`Execution.executions`).
-/
import Mathlib.Algebra.GroupWithZero.Nat
import Mathlib.Data.Nat.Find
import Mathlib.Order.Bounds.Defs
import Mathlib.Tactic.Choose
import TokenCustody.Proofs.Retry.Attempts

namespace TokenCustody

open TokenCustody.Time

/-- The service that is asked to try an operation. -/
abbrev Trial (α : Type) : Service := ⟨Unit, fun _ => Except Error α⟩

/-- The operation is tried. -/
def trying (α : Type) : Program (Trial α) (Except Error α) := Program.calling (S := Trial α) ()

/-- One use of a retry executor. -/
structure Execution where
  {Result : Type}
  /-- What the timer says when it begins. -/
  start : Duration
  deadline : Deadline
  /-- How the try with a number ends, if it is made. -/
  outcome : Nat → Except Error Result
  /-- How long the try with a number takes. -/
  latency : Nat → Duration
  /-- What is drawn after the try with a number. -/
  draw : Nat → Float

/-- What the timer says, and what it said whenever the operation was tried. -/
structure Clocked where
  timer : Duration
  begun : List Duration
  deriving DecidableEq

namespace Execution

variable (x : Execution) (p : RetryPolicy)

/-! ## Performing -/

/-- Questions are answered by the timer and by what is drawn. The timer goes on while the
executor pauses. -/
def ambient : (q : Ambient) → StateM Clocked q.Reply
  | .timer => return (← get).timer
  | .draw => return x.draw ((← get).begun.length - 1)
  | .sleep d => modify fun c => { c with timer := c.timer + d }
  | .now => return .epoch
  | .bytes count => return List.replicate count 0
  | .emit _ | .tally _ => return ()

/-- A try ends as it is written down, and the timer goes on meanwhile. -/
def answer : StateM Clocked (Except Error x.Result) := do
  let c ← get
  set { timer := c.timer + x.latency c.begun.length, begun := c.begun ++ [c.timer] : Clocked }
  return x.outcome c.begun.length

/-- A program is run in these surroundings. -/
def run {β : Type} (program : Program (Trial x.Result) β) (c : Clocked) : Option β × Clocked :=
  program.run x.ambient (fun _ => x.answer) c

/-- The operation is tried by an executor that has counted `s` so far. -/
def perform (s : RetryStats) : Option (Option (Except Error x.Result) × RetryStats) × Clocked :=
  x.run ((withRetries p x.deadline (trying x.Result)).counting s)
    ⟨x.start, []⟩

/-! ## What is to be expected -/

/-- The pause after a try, if another one follows. -/
def pause (i : Nat) : Duration :=
  match x.outcome i with
  | .error e => Backoff.nextDelay ⟨p, i + 1⟩ (x.draw i) e.retryAfter
  | .ok _ => .zero

/-- When a try begins, if all tries before it are made. -/
def beginsAt : Nat → Duration
  | 0 => x.start
  | i + 1 => beginsAt i + x.latency i + x.pause p i

/-- When a try ends, if it is made. -/
def endsAt (i : Nat) : Duration := x.beginsAt p i + x.latency i

/-- Why no try is made after the one with a number. -/
inductive Ends (i : Nat) : Prop where
  | succeeded {a : x.Result} (h : x.outcome i = .ok a)
  /-- It failed in a way that another try would not change. -/
  | hopeless {e : Error} (h : x.outcome i = .error e) (hretry : e.isRetryable = false)
  /-- The operation was tried often enough: at least once, at most three times. -/
  | exhausted (h : i + 1 = max 1 (min p.maxAttempts 3))
  /-- The pause is longer than the time that is left. -/
  | tooLate {e : Error} (h : x.outcome i = .error e)
      (hlate : x.deadline.remainingAt (x.endsAt p i) < x.pause p i)

/-- What is counted if a try is the last one. -/
def counted (i : Nat) : List Tally :=
  match x.outcome i with
  | .ok _ => if 0 < i then [.lateSuccess] else []
  | .error _ => [.failure]

/-- What is counted all in all if a try is the last one. -/
def tallies (i : Nat) : List Tally := List.replicate (i + 1) .attempt ++ x.counted i

/-- What the timer has said before the try with a number. -/
def clockedAt (i : Nat) : Clocked := ⟨x.beginsAt p i, (List.range i).map (x.beginsAt p)⟩

/-- What the timer has said when the try with a number is the last one. -/
def clockedAfter (i : Nat) : Clocked := ⟨x.endsAt p i, (List.range (i + 1)).map (x.beginsAt p)⟩

/-! ## One try -/

section Steps

variable {x : Execution} {p : RetryPolicy} {i left : Nat} {s : RetryStats}

/-- A try of the operation, and then what follows from how it ends. -/
theorem run_try {f : Except Error x.Result → Program (Trial x.Result) (Except Error x.Result)} :
    x.run ((do
      Program.tally .attempt
      f (← trying x.Result)).counting s) (x.clockedAt p i) =
      x.run ((f (x.outcome i)).counting (s.add .attempt)) (x.clockedAfter p i) := by
  have hlen : (x.clockedAt p i).begun.length = i := by simp [clockedAt]
  have hafter : x.clockedAfter p i =
      ⟨x.beginsAt p i + x.latency i, (x.clockedAt p i).begun ++ [x.beginsAt p i]⟩ := by
    simp [clockedAt, clockedAfter, endsAt, List.range_succ]
  calc x.run ((do
        Program.tally .attempt
        f (← trying x.Result)).counting s) (x.clockedAt p i)
      = x.run ((f (x.outcome (x.clockedAt p i).begun.length)).counting (s.add .attempt))
          ⟨x.beginsAt p i + x.latency (x.clockedAt p i).begun.length,
            (x.clockedAt p i).begun ++ [x.beginsAt p i]⟩ := rfl
    _ = x.run ((f (x.outcome i)).counting (s.add .attempt)) (x.clockedAfter p i) := by
      rw [hlen, hafter]

/-- A draw, a look at the time that is left, and then what follows from both. -/
theorem run_choosing {delay : Float → Duration}
    {f : Float → Bool → Program (Trial x.Result) (Except Error x.Result)} :
    x.run ((do
      let y ← Program.draw
      f y (← x.deadline.hasAtLeast (delay y))).counting s) (x.clockedAfter p i) =
      x.run ((f (x.draw i) (decide (delay (x.draw i) ≤ x.deadline.remainingAt
        (x.endsAt p i)))).counting s) (x.clockedAfter p i) := by
  have hlen : (x.clockedAfter p i).begun.length - 1 = i := by simp [clockedAfter]
  calc x.run ((do
        let y ← Program.draw
        f y (← x.deadline.hasAtLeast (delay y))).counting s) (x.clockedAfter p i)
      = x.run ((f (x.draw ((x.clockedAfter p i).begun.length - 1))
          (decide (delay (x.draw ((x.clockedAfter p i).begun.length - 1)) ≤
            x.deadline.remainingAt (x.endsAt p i)))).counting s) (x.clockedAfter p i) := rfl
    _ = x.run ((f (x.draw i) (decide (delay (x.draw i) ≤
          x.deadline.remainingAt (x.endsAt p i)))).counting s) (x.clockedAfter p i) := by
      rw [hlen]

theorem run_sleep {d : Duration} {program : Program (Trial x.Result) (Except Error x.Result)} :
    x.run ((do
      Program.sleep d
      program).counting s) (x.clockedAfter p i) =
      x.run (program.counting s) ⟨x.endsAt p i + d, (x.clockedAfter p i).begun⟩ := rfl

theorem pause_eq {e : Error} (h : x.outcome i = .error e) :
    x.pause p i = (Backoff.start ⟨p, i⟩).nextDelay (x.draw i) e.retryAfter := by
  unfold pause
  rw [h]
  rfl

/-- Another try is made after one exactly if that failed, another one is allowed and may help,
and the pause before it is not longer than the time that is left. -/
theorem not_ends_iff : ¬x.Ends p i ↔ i + 1 ≠ max 1 (min p.maxAttempts 3) ∧
    ∃ e, x.outcome i = .error e ∧ e.isRetryable = true ∧
      x.pause p i ≤ x.deadline.remainingAt (x.endsAt p i) := by
  constructor
  · intro h
    refine ⟨fun hlimit => h (.exhausted hlimit), ?_⟩
    cases hout : x.outcome i with
    | ok a => exact absurd (.succeeded hout) h
    | error e =>
      refine ⟨e, rfl, Bool.of_not_eq_false fun hnot => h (.hopeless hout hnot), ?_⟩
      exact Nat.le_of_not_lt fun hlate => h (.tooLate hout hlate)
  · rintro ⟨hlimit, e, hout, hretry, hfits⟩ h
    cases h with
    | succeeded h => exact nomatch hout.symm.trans h
    | hopeless h hnot =>
      cases hout.symm.trans h
      exact nomatch hretry.symm.trans hnot
    | exhausted h => exact hlimit h
    | tooLate h hlate => exact Nat.not_le_of_lt hlate hfits

/-- There is a last try: the last one that is allowed, if no other one is. -/
theorem exists_isLeast (x : Execution) (p : RetryPolicy) :
    ∃ last, IsLeast {i | x.Ends p i} last := by
  classical
  have hends : ∃ i, x.Ends p i :=
    ⟨p.attemptLimit - 1, .exhausted (Nat.sub_add_cancel p.attemptLimit_pos)⟩
  exact ⟨Nat.find hends, Nat.find_spec hends, fun i => Nat.find_min' hends⟩

/-- A try after which no other one is made. -/
theorem run_of_ends (h : x.Ends p i) (hleft : i + 1 + left = p.attemptLimit) :
    x.run ((attemptWith x.deadline (trying x.Result) left ⟨p, i⟩).counting s) (x.clockedAt p i) =
      (some (some (x.outcome i), (.attempt :: x.counted i).foldl RetryStats.add s),
        x.clockedAfter p i) := by
  rw [attemptWith.eq_def]
  dsimp only
  rw [run_try]
  unfold counted
  cases hout : x.outcome i with
  | ok a =>
    by_cases hi : 0 < i
    · have hlate : 1 < (Backoff.start ⟨p, i⟩).attempts := Nat.succ_lt_succ hi
      simp only [if_pos hlate, if_pos hi]
      rfl
    · have hfirst : ¬1 < (Backoff.start ⟨p, i⟩).attempts := fun h => hi (Nat.lt_of_succ_lt_succ h)
      simp only [if_neg hfirst, if_neg hi]
      rfl
  | error e =>
    cases left with
    | zero => rfl
    | succ left =>
      cases hretry : e.isRetryable with
      | false =>
        simp only [hretry]
        rfl
      | true =>
        -- Attempts are left and another one may help, so the pause is too long.
        have hlate : ¬x.pause p i ≤ x.deadline.remainingAt (x.endsAt p i) := by
          intro hfits
          have hlimit : i + 1 ≠ p.attemptLimit := by omega
          exact not_ends_iff.mpr ⟨hlimit, e, hout, hretry, hfits⟩ h
        simp only [hretry, if_pos]
        rw [run_choosing, ← pause_eq hout, decide_eq_false hlate]
        rfl

/-- A try after which another one is made. -/
theorem run_of_goesOn (h : ¬x.Ends p i) :
    x.run ((attemptWith x.deadline (trying x.Result) (left + 1) ⟨p, i⟩).counting s)
        (x.clockedAt p i) =
      x.run ((attemptWith x.deadline (trying x.Result) left ⟨p, i + 1⟩).counting
        (s.add .attempt)) (x.clockedAt p (i + 1)) := by
  obtain ⟨-, e, hout, hretry, hfits⟩ := not_ends_iff.mp h
  rw [attemptWith, run_try, hout]
  simp only [hretry, if_pos]
  rw [run_choosing, ← pause_eq hout, decide_eq_true hfits, if_pos rfl, run_sleep]
  rfl

/-! ## All tries -/

/-- The executor stops at the first try after which no other one is made. The induction is on
the attempts that are left. -/
theorem run_tries {last : Nat} (hlast : IsLeast {i | x.Ends p i} last) (hi : i ≤ last)
    (hleft : i + 1 + left = p.attemptLimit) :
    x.run ((attemptWith x.deadline (trying x.Result) left ⟨p, i⟩).counting s) (x.clockedAt p i) =
      (some (some (x.outcome last),
        (List.replicate (last + 1 - i) Tally.attempt ++ x.counted last).foldl RetryStats.add s),
        x.clockedAfter p last) := by
  have hhere {s : RetryStats} {i left : Nat} (hi : i = last)
      (hleft : i + 1 + left = p.attemptLimit) :
      x.run ((attemptWith x.deadline (trying x.Result) left ⟨p, i⟩).counting s)
          (x.clockedAt p i) =
        (some (some (x.outcome last),
          (List.replicate (last + 1 - i) Tally.attempt ++ x.counted last).foldl RetryStats.add s),
          x.clockedAfter p last) := by
    subst hi
    rw [run_of_ends hlast.1 hleft, Nat.add_sub_cancel_left]
    rfl
  induction left generalizing i s with
  | zero => exact hhere (Nat.le_antisymm hi (hlast.2 (.exhausted hleft))) hleft
  | succ left ih =>
    obtain heq | hlt := Nat.eq_or_lt_of_le hi
    · exact hhere heq hleft
    · have hgoes : ¬x.Ends p i := fun h => Nat.not_le_of_lt hlt (hlast.2 h)
      have hcount : last + 1 - i = last + 1 - (i + 1) + 1 := by omega
      rw [run_of_goesOn hgoes, ih hlt (by omega), hcount]
      rfl

/-- An execution ends as its last try does. -/
theorem perform_eq {last : Nat} (hlast : IsLeast {i | x.Ends p i} last) :
    x.perform p s = (some (some (x.outcome last), (x.tallies last).foldl RetryStats.add s),
      x.clockedAfter p last) :=
  run_tries hlast (Nat.zero_le _) (by have := p.attemptLimit_pos; omega)

end Steps

/-! ## Many executions -/

section Sums

variable {x : Execution} {p : RetryPolicy} {last : Execution → Nat} {xs : List Execution}

/-- The sums of an executor after some executions, one after the other. -/
def sums (p : RetryPolicy) (xs : List Execution) : RetryStats :=
  xs.foldl (fun s x => ((x.perform p s).1.map Prod.snd).getD s) .zero

theorem count_tallies (i : Nat) : (x.tallies i).count .attempt = i + 1 ∧
    ((x.tallies i).count .lateSuccess = if (x.outcome i).isOk && 0 < i then 1 else 0) ∧
    ((x.tallies i).count .failure = if !(x.outcome i).isOk then 1 else 0) := by
  unfold tallies counted
  cases x.outcome i with
  | ok a => by_cases hpos : 0 < i <;> simp [hpos, List.count_replicate, Except.isOk, Except.toBool]
  | error e => simp [List.count_replicate, Except.isOk, Except.toBool]

/-- How many tries some executions make, if these are their last ones. -/
def tries (last : Execution → Nat) (xs : List Execution) : Nat :=
  (xs.map fun x => last x + 1).sum

/-- How many executions succeed, but not at the first try. -/
def lateSuccesses (last : Execution → Nat) (xs : List Execution) : Nat :=
  xs.countP fun x => (x.outcome (last x)).isOk && 0 < last x

/-- How many executions fail. -/
def failures (last : Execution → Nat) (xs : List Execution) : Nat :=
  xs.countP fun x => !(x.outcome (last x)).isOk

/-- Every execution makes a try, so neither the late successes nor the failures are more. -/
theorem countP_le_tries (f : Execution → Bool) : xs.countP f ≤ tries last xs := by
  refine Nat.le_trans List.countP_le_length ?_
  unfold tries
  induction xs with
  | nil => exact Nat.le_refl 0
  | cons x xs ih =>
    rw [List.length_cons, List.map_cons, List.sum_cons]
    omega

theorem count_flatMap_tallies (last : Execution → Nat) (xs : List Execution) :
    (xs.flatMap fun x => x.tallies (last x)).count .attempt = tries last xs ∧
    (xs.flatMap fun x => x.tallies (last x)).count .lateSuccess = lateSuccesses last xs ∧
    (xs.flatMap fun x => x.tallies (last x)).count .failure = failures last xs := by
  unfold tries lateSuccesses failures
  induction xs with
  | nil => exact ⟨rfl, rfl, rfl⟩
  | cons x xs ih =>
    obtain ⟨hattempts, hlate, hfailures⟩ := x.count_tallies (last x)
    obtain ⟨ihattempts, ihlate, ihfailures⟩ := ih
    simp only [List.flatMap_cons, List.count_append, List.map_cons, List.sum_cons,
      List.countP_cons]
    omega

/-- What some executions count, in whatever order that happens. -/
theorem foldl_add_tallies {ts : List Tally}
    (hts : ts.Perm (xs.flatMap fun x => x.tallies (last x))) : ts.foldl RetryStats.add .zero =
      { attempts := .ofNat (tries last xs)
        lateSuccesses := .ofNat (lateSuccesses last xs)
        failures := .ofNat (failures last xs) } := by
  obtain ⟨hattempts, hlate, hfailures⟩ := count_flatMap_tallies last xs
  rw [RetryStats.foldl_add, hts.count_eq, hts.count_eq, hts.count_eq, hattempts, hlate, hfailures]
  simp [RetryStats.zero]

/-- Executions one after the other count one after the other. -/
theorem sums_eq (hlast : ∀ x : Execution, IsLeast {i | x.Ends p i} (last x)) :
    sums p xs = (xs.flatMap fun x => x.tallies (last x)).foldl RetryStats.add .zero := by
  unfold sums
  rw [List.foldl_flatMap]
  congr 1
  funext s x
  rw [perform_eq (hlast x)]
  rfl

/-- **What a retry executor does.** Each execution has a last try: the first one that succeeds,
that fails in a way that another one would not change, that is the last one allowed, or after
which the pause would be longer than the time that is left. The result is what this try ended
with, it and all tries before it were begun when they are due, and no other one was. The sums of
the executor are the numbers of these tries, of the later tries that succeeded, and of the
executions that failed, in whatever order they are counted: as far as 32 bits go, and so exactly
as long as fewer than `2 ^ 32` tries were made. -/
theorem executions (p : RetryPolicy) : ∃ last : Execution → Nat,
    (∀ x, IsLeast {i | x.Ends p i} (last x)) ∧
    (∀ (x : Execution) (s : RetryStats), x.perform p s =
      (some (some (x.outcome (last x)), (x.tallies (last x)).foldl RetryStats.add s),
        ⟨x.endsAt p (last x), (List.range (last x + 1)).map (x.beginsAt p)⟩)) ∧
    ∀ xs : List Execution,
      sums p xs =
        { attempts := .ofNat (tries last xs)
          lateSuccesses := .ofNat (lateSuccesses last xs)
          failures := .ofNat (failures last xs) } ∧
      (tries last xs < 2 ^ 32 →
        (sums p xs).attempts.toNat = tries last xs ∧
          (sums p xs).lateSuccesses.toNat = lateSuccesses last xs ∧
          (sums p xs).failures.toNat = failures last xs) ∧
      ∀ ts : List Tally, ts.Perm (xs.flatMap fun x => x.tallies (last x)) →
        ts.foldl RetryStats.add .zero = sums p xs := by
  choose last hlast using fun x : Execution => x.exists_isLeast p
  refine ⟨last, hlast, fun x s => perform_eq (hlast x), fun xs => ?_⟩
  have hsums : sums p xs = _ := (sums_eq hlast).trans (foldl_add_tallies (.refl _))
  refine ⟨hsums, fun hfew => ?_, fun ts hts => (foldl_add_tallies hts).trans hsums.symm⟩
  rw [hsums]
  exact ⟨UInt32.toNat_ofNat_of_lt' hfew,
    UInt32.toNat_ofNat_of_lt' (Nat.lt_of_le_of_lt (countP_le_tries _) hfew),
    UInt32.toNat_ofNat_of_lt' (Nat.lt_of_le_of_lt (countP_le_tries _) hfew)⟩

end Sums

end Execution

end TokenCustody
