/-
TokenCustody.Proofs.Program.Parallel — two programs that do the same with
different data.

Calls carry data that a program passes on without looking into it. Two
programs that differ only in such data run in parallel: they ask the same
questions, and where one makes a call the other makes the translated one.
If the reply is the translated one, too, they go on in parallel, and in
the end the result of the second is a function `f` of the result of the
first (`Program.Parallel`).

`Parallel.run` is what that is for: let two surroundings differ in their
state by `f` and answer translated calls by translated replies. Then two
parallel programs leave behind states that differ by `f`, too.

Every way to put programs together keeps them in parallel, so each
function that builds a program has one lemma, assembled from those of the
functions it calls.
-/
import TokenCustody.Retry.Executor

namespace TokenCustody

open TokenCustody.Time

/-- How calls are renamed, and the replies to them. -/
structure Translation (S : Service) where
  request : S.Request → S.Request
  reply : (r : S.Request) → S.Reply r → S.Reply (request r)

namespace Program

variable {S : Service} {T : Translation S} {α β γ δ : Type}

/-- Two programs make the same calls up to translation, as long as the replies are the same up
to translation. The result of the second is `f` of the result of the first. -/
inductive Parallel (T : Translation S) (f : α → β) : Program S α → Program S β → Prop where
  | done (a : α) : Parallel T f (.done a) (.done (f a))
  | halt : Parallel T f .halt .halt
  | ask (q : Ambient) {next : q.Reply → Program S α} {next' : q.Reply → Program S β}
      (h : ∀ a, Parallel T f (next a) (next' a)) : Parallel T f (.ask q next) (.ask q next')
  | call (r : S.Request) {next : S.Reply r → Program S α}
      {next' : S.Reply (T.request r) → Program S β}
      (h : ∀ a, Parallel T f (next a) (next' (T.reply r a))) :
      Parallel T f (.call r next) (.call (T.request r) next')

namespace Parallel

/-! ## Putting programs together -/

theorem pure {f : α → β} {b : β} (a : α) (h : b = f a) :
    Parallel T f (Pure.pure a) (Pure.pure b) := by
  subst h
  exact .done a

/-- Programs in parallel go on in parallel. -/
theorem bind {f : α → β} {g : γ → δ} {p : Program S α} {p' : Program S β}
    {k : α → Program S γ} {k' : β → Program S δ} (h : Parallel T f p p')
    (hk : ∀ a, Parallel T g (k a) (k' (f a))) : Parallel T g (p >>= k) (p' >>= k') := by
  induction h with
  | done a => exact hk a
  | halt => exact .halt
  | ask q _ ih => exact .ask q ih
  | call r _ ih => exact .call r ih

/-- Questions are asked alike. -/
theorem asking (q : Ambient) : Parallel T id (Program.asking (S := S) q) (Program.asking q) :=
  .ask q fun a => .done a

/-- A call and its translation are in parallel, up to the translation of their replies. -/
theorem calling (r : S.Request) :
    Parallel T (T.reply r) (Program.calling r) (Program.calling (T.request r)) :=
  .call r fun a => .done a

theorem orHalt {f : α → β} {x : Option α} {y : Option β} (h : y = x.map f) :
    Parallel T f (Program.orHalt x) (Program.orHalt y) := by
  subst h
  cases x with
  | none => exact .halt
  | some a => exact .done a

/-! ## Deadlines and attempts -/

/-- Deadlines are read off the clock, which is not translated. -/
theorem hasAtLeast (d : Deadline) (needed : Duration) :
    Parallel T id (d.hasAtLeast needed) (d.hasAtLeast needed) :=
  .bind (.bind (.asking .timer) fun _ => .pure _ rfl) fun _ => .pure _ rfl

theorem after (budget : Duration) : Parallel T id (Deadline.after budget) (Deadline.after budget) :=
  .bind (.asking .timer) fun _ => .orHalt (by simp)

theorem givenUp (f : α → β) (e : Error) :
    Parallel T (Except.map f) (TokenCustody.givenUp e) (TokenCustody.givenUp e) :=
  .bind (.asking (.tally .failure)) fun _ => .pure _ rfl

/-- One attempt: if it succeeds that is the end, and if it fails `rest` is what follows. -/
theorem attempt {f : α → β} {op : Program S (Except Error α)} {op' : Program S (Except Error β)}
    {n : Nat} {rest : Error → Program S (Except Error α)}
    {rest' : Error → Program S (Except Error β)} (hop : Parallel T (Except.map f) op op')
    (hrest : ∀ e, Parallel T (Except.map f) (rest e) (rest' e)) :
    Parallel T (Except.map f)
      (do
        tally .attempt
        match ← op with
        | .ok a =>
          if 1 < n then tally .lateSuccess
          return .ok a
        | .error e => rest e)
      (do
        tally .attempt
        match ← op' with
        | .ok a =>
          if 1 < n then tally .lateSuccess
          return .ok a
        | .error e => rest' e) := by
  refine .bind (.asking (.tally .attempt)) fun _ => .bind hop fun r => ?_
  cases r with
  | error e => exact hrest e
  | ok a =>
    dsimp only [Except.map]
    split
    · exact .bind (.asking (.tally .lateSuccess)) fun _ => .pure _ rfl
    · exact .pure _ rfl

/-- Operations in parallel are tried equally often. The induction is on the attempts that are
left. -/
theorem attemptWith {f : α → β} {op : Program S (Except Error α)}
    {op' : Program S (Except Error β)} (d : Deadline) (hop : Parallel T (Except.map f) op op')
    (left : Nat) (b : Backoff) :
    Parallel T (Except.map f) (TokenCustody.attemptWith d op left b)
      (TokenCustody.attemptWith d op' left b) := by
  induction left generalizing b with
  | zero =>
    rw [TokenCustody.attemptWith, TokenCustody.attemptWith]
    exact .attempt hop (.givenUp f)
  | succ left ih =>
    rw [TokenCustody.attemptWith, TokenCustody.attemptWith]
    refine .attempt hop fun e => ?_
    dsimp only
    split
    · refine .bind (.asking .draw) fun x => .bind (.hasAtLeast d _) fun fits => ?_
      cases fits with
      | false => exact .givenUp f e
      | true => exact .bind (.asking (.sleep _)) fun _ => ih _
    · exact .givenUp f e

/-- Operations in parallel are repeated in parallel. -/
theorem withRetries {f : α → β} {op : Program S (Except Error α)}
    {op' : Program S (Except Error β)} (p : RetryPolicy) (d : Deadline)
    (hop : Parallel T (Except.map f) op op') :
    Parallel T (Except.map f) (TokenCustody.withRetries p d op)
      (TokenCustody.withRetries p d op') := .attemptWith d hop _ _

/-- Programs in parallel count the same, whether they come to a result or not. -/
theorem counting {f : α → β} {p : Program S α} {p' : Program S β} (h : Parallel T f p p')
    (s : RetryStats) :
    Parallel T (Prod.map (Option.map f) id) (p.counting s) (p'.counting s) := by
  induction h generalizing s with
  | done a => exact .done (some a, s)
  | halt => exact .done (none, s)
  | call r _ ih => exact .call r fun a => ih a s
  | ask q _ ih =>
    cases q with
    | tally t => exact ih () (s.add t)
    | _ => exact .ask _ fun a => ih a s

/-! ## Surroundings that differ by a function -/

/-- Let `g` carry the states of one surroundings to those of another, which gives the same
answers to questions and translated replies to translated calls. Then programs in parallel end
in results that differ by `f` and in states that differ by `g`. -/
theorem run {σ τ : Type} {f : α → β} {g : σ → τ} {ambient : (q : Ambient) → StateM σ q.Reply}
    {ambient' : (q : Ambient) → StateM τ q.Reply} {answer : (r : S.Request) → StateM σ (S.Reply r)}
    {answer' : (r : S.Request) → StateM τ (S.Reply r)} {p : Program S α} {p' : Program S β}
    (h : Parallel T f p p')
    (hambient : ∀ q s, ambient' q (g s) = Prod.map id g (ambient q s))
    (hanswer : ∀ r s, answer' (T.request r) (g s) = Prod.map (T.reply r) g (answer r s)) (s : σ) :
    p'.run ambient' answer' (g s) = Prod.map (Option.map f) g (p.run ambient answer s) := by
  induction h generalizing s with
  | done a => rfl
  | halt => rfl
  | @ask q next next' _ ih =>
    calc (Program.ask q next').run ambient' answer' (g s)
        = (next' (ambient' q (g s)).1).run ambient' answer' (ambient' q (g s)).2 := rfl
      _ = (next' (ambient q s).1).run ambient' answer' (g (ambient q s).2) := by
          rw [hambient]
          rfl
      _ = Prod.map (Option.map f) g ((Program.ask q next).run ambient answer s) := ih _ _
  | @call r next next' _ ih =>
    calc (Program.call (T.request r) next').run ambient' answer' (g s)
        = (next' (answer' (T.request r) (g s)).1).run ambient' answer'
            (answer' (T.request r) (g s)).2 := rfl
      _ = (next' (T.reply r (answer r s).1)).run ambient' answer' (g (answer r s).2) := by
          rw [hanswer]
          rfl
      _ = Prod.map (Option.map f) g ((Program.call r next).run ambient answer s) := ih _ _

end Parallel

end Program

end TokenCustody
