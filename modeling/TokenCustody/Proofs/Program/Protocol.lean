/-
TokenCustody.Proofs.Program.Protocol — programs that keep to a protocol.

A program is a tree: every question and every call branches over all
answers. A `Protocol` says the same in stages. It is a set of stages and
of moves between them, each move made by one question or call together
with its answer. A program FOLLOWS a protocol from a stage if whatever it
asks, and whatever the answer is, there is a move to a stage from which
the rest of the program follows again (`Follows`).

What is proved about a protocol then holds for every program that
follows it, in whatever surroundings it runs:

* `Follows.bind` puts programs together, `follows_withRetries` is the one
  fact about retried operations.
* `Course` is a run of a program in surroundings that answer it, and
  `Course.invariant` carries an invariant of the moves along a run.
-/
import TokenCustody.Retry.Executor

namespace TokenCustody

deriving instance DecidableEq for Ambient

/-- A question or a call, together with its answer. -/
inductive Entry (S : Service) where
  | asked (q : Ambient) (a : q.Reply)
  | called (r : S.Request) (a : S.Reply r)

/-- Stages of a run, and the moves between them. -/
structure Protocol (S : Service) where
  Stage : Type
  Move : Stage → Entry S → Stage → Prop
  /-- The stage of a run that ended without a result. -/
  halted : Stage

theorem Deadline.hasAtLeast_eq {S : Service} (d : Deadline) (needed : Time.Duration) :
    (d.hasAtLeast needed : Program S Bool) =
      .ask .timer fun t => .done (decide (needed ≤ d.remainingAt t)) := rfl

namespace Program

variable {S : Service} {α β : Type}

/-! ## Steps -/

/-- A program asks or calls, is answered, and goes on. -/
inductive Step : Program S α → Entry S → Program S α → Prop where
  | ask (q : Ambient) (next : q.Reply → Program S α) (a : q.Reply) :
      Step (.ask q next) (.asked q a) (next a)
  | call (r : S.Request) (next : S.Reply r → Program S α) (a : S.Reply r) :
      Step (.call r next) (.called r a) (next a)

/-- What is left of a program after a question or call, if that is what it does next. -/
def advance [DecidableEq S.Request] : Program S α → Entry S → Option (Program S α)
  | ask q next, .asked q' a => if h : q' = q then some (next (h ▸ a)) else none
  | call r next, .called r' a => if h : r' = r then some (next (h ▸ a)) else none
  | _, _ => none

theorem step_of_advance [DecidableEq S.Request] {p p' : Program S α} {e : Entry S}
    (h : p.advance e = some p') : Step p e p' := by
  unfold advance at h
  split at h
  · split at h
    · next hq =>
      subst hq
      cases h
      exact .ask _ _ _
    · cases h
  · split at h
    · next hr =>
      subst hr
      cases h
      exact .call _ _ _
    · cases h
  · cases h

/-- Nothing is left to do: there is a result, or there will be none. -/
def IsOver : Program S α → Prop
  | done _ | halt => True
  | ask _ _ | call _ _ => False

/-- The result of a program that has finished. -/
def result? : Program S α → Option α
  | done a => some a
  | _ => none

theorem eq_done_of_result {p : Program S α} {a : α} (h : p.result? = some a) : p = done a := by
  cases p with
  | done b =>
    cases h
    rfl
  | _ => cases h

/-- What a program ends with is found out by running it, if the reading `f` of its result tells
what that is. -/
theorem ends_of_reading [DecidableEq S.Request] {p : Program S α} {seen : List (Entry S)}
    {f : α → Option β} {a : α} {b : β} (hf : ∀ x, f x = some b → x = a)
    (h : ((seen.foldlM advance p).bind result?).bind f = some b) :
    seen.foldlM advance p = some (done a) := by
  obtain ⟨x, hx, hb⟩ := Option.bind_eq_some_iff.mp h
  obtain ⟨q, hq, hr⟩ := Option.bind_eq_some_iff.mp hx
  rw [hq, eq_done_of_result hr, hf x hb]

/-- The reading of a result that is no error. -/
theorem eq_ok_of_toOption {ε : Type} {x : Except ε α} {a : α} (h : x.toOption = some a) :
    x = .ok a := by
  cases x with
  | error e => cases h
  | ok b =>
    cases h
    rfl

/-! ## Following a protocol -/

/-- From a stage on, the program makes only moves of the protocol, and `Q` relates the
stage at its end to its result. -/
def Follows (P : Protocol S) (Q : P.Stage → α → Prop) : Program S α → P.Stage → Prop
  | done a, s => Q s a
  | halt, s => s = P.halted
  | ask q next, s => ∀ a, ∃ s', P.Move s (.asked q a) s' ∧ Follows P Q (next a) s'
  | call r next, s => ∀ a, ∃ s', P.Move s (.called r a) s' ∧ Follows P Q (next a) s'

variable {P : Protocol S} {Q : P.Stage → α → Prop} {R : P.Stage → β → Prop}
variable {s : P.Stage}

/-- Whatever a program that follows a protocol does next is a move. -/
theorem Follows.step {p p' : Program S α} {e : Entry S} (h : p.Follows P Q s)
    (hs : Step p e p') : ∃ s', P.Move s e s' ∧ p'.Follows P Q s' := by
  cases hs with
  | ask q next a => exact h a
  | call r next a => exact h a

theorem follows_pure {a : α} (h : Q s a) : (pure a : Program S α).Follows P Q s := h

theorem follows_asking {q : Ambient} {Q : P.Stage → q.Reply → Prop}
    (h : ∀ a, ∃ s', P.Move s (.asked q a) s' ∧ Q s' a) :
    (asking q : Program S q.Reply).Follows P Q s := h

theorem follows_calling {r : S.Request} {Q : P.Stage → S.Reply r → Prop}
    (h : ∀ a, ∃ s', P.Move s (.called r a) s' ∧ Q s' a) :
    (calling r : Program S (S.Reply r)).Follows P Q s := h

/-- One program, then another that takes up where the first has ended. -/
theorem Follows.bind {p : Program S α} {f : α → Program S β} (h : p.Follows P Q s)
    (hf : ∀ s a, Q s a → (f a).Follows P R s) : (p >>= f).Follows P R s := by
  show (p.bind f).Follows P R s
  induction p generalizing s with
  | done a => exact hf s a h
  | halt => exact h
  | ask q next ih =>
    intro a
    obtain ⟨s', hm, hn⟩ := h a
    exact ⟨s', hm, ih a hn⟩
  | call r next ih =>
    intro a
    obtain ⟨s', hm, hn⟩ := h a
    exact ⟨s', hm, ih a hn⟩

theorem Follows.mono {Q' : P.Stage → α → Prop} {p : Program S α} (h : p.Follows P Q s)
    (hq : ∀ s a, Q s a → Q' s a) : p.Follows P Q' s := by
  induction p generalizing s with
  | done a => exact hq s a h
  | halt => exact h
  | ask q next ih =>
    intro a
    obtain ⟨s', hm, hn⟩ := h a
    exact ⟨s', hm, ih a hn⟩
  | call r next ih =>
    intro a
    obtain ⟨s', hm, hn⟩ := h a
    exact ⟨s', hm, ih a hn⟩

/-! ## Retried operations -/

/-- The stages around a retried operation: where it is waited for, knowing how the last
attempt failed, where it has succeeded, and where it was given up. -/
structure Retrying (P : Protocol S) (α : Type) where
  waiting : Option Error → P.Stage
  succeeded : α → P.Stage
  givenUp : Error → P.Stage
  attempt : ∀ last, P.Move (waiting last) (.asked (.tally .attempt) ()) (waiting last)
  late : ∀ a, P.Move (succeeded a) (.asked (.tally .lateSuccess) ()) (succeeded a)
  draw : ∀ last x, P.Move (waiting last) (.asked .draw x) (waiting last)
  timer : ∀ last t, P.Move (waiting last) (.asked .timer t) (waiting last)
  sleep : ∀ last d, P.Move (waiting last) (.asked (.sleep d) ()) (waiting last)
  failure : ∀ e, P.Move (waiting (some e)) (.asked (.tally .failure) ()) (givenUp e)

namespace Retrying

variable (w : Retrying P α)

/-- The end of one attempt: it succeeded, or it is waited for another one. -/
def Attempted (s : P.Stage) : Except Error α → Prop
  | .ok a => s = w.succeeded a
  | .error e => s = w.waiting (some e)

/-- The end of all attempts. -/
def Settled (s : P.Stage) : Except Error α → Prop
  | .ok a => s = w.succeeded a
  | .error e => s = w.givenUp e

theorem follows_givenUp (e : Error) :
    (TokenCustody.givenUp e : Program S (Except Error α)).Follows P w.Settled
      (w.waiting (some e)) :=
  Follows.bind (Q := fun s _ => s = w.givenUp e)
    (follows_asking fun _ => ⟨_, w.failure e, rfl⟩) fun _ _ hs => hs

theorem follows_hasAtLeast (d : Deadline) (needed : Time.Duration) (last : Option Error) :
    (d.hasAtLeast needed : Program S Bool).Follows P (fun s _ => s = w.waiting last)
      (w.waiting last) := by
  rw [d.hasAtLeast_eq]
  exact fun t => ⟨_, w.timer last t, rfl⟩

/-- One attempt: if it succeeds that is the end, and if it fails `rest` is what follows. -/
theorem follows_attempt {op : Program S (Except Error α)} {n : Nat} {last : Option Error}
    {rest : Error → Program S (Except Error α)}
    (hop : op.Follows P w.Attempted (w.waiting last))
    (hrest : ∀ e, (rest e).Follows P w.Settled (w.waiting (some e))) :
    (do
      tally .attempt
      match ← op with
      | .ok a =>
        if 1 < n then tally .lateSuccess
        return .ok a
      | .error e => rest e : Program S (Except Error α)).Follows P w.Settled
      (w.waiting last) := by
  refine Follows.bind (Q := fun s _ => s = w.waiting last)
    (follows_asking fun _ => ⟨_, w.attempt last, rfl⟩) ?_
  rintro _ _ rfl
  refine hop.bind ?_
  rintro s (e | a) hs
  · rw [show s = w.waiting (some e) from hs]
    exact hrest e
  · rw [show s = w.succeeded a from hs]
    dsimp only
    split
    · exact Follows.bind (Q := fun s _ => s = w.succeeded a)
        (follows_asking fun _ => ⟨_, w.late a, rfl⟩) fun _ _ hs => hs
    · exact follows_pure rfl

/-- However often an operation is tried, it ends as its last attempt does. The induction
is on the attempts that are left. -/
theorem follows_attemptWith {op : Program S (Except Error α)} (d : Deadline)
    (hop : ∀ last, op.Follows P w.Attempted (w.waiting last)) (left : Nat) (b : Backoff)
    (last : Option Error) :
    (attemptWith d op left b).Follows P w.Settled (w.waiting last) := by
  induction left generalizing b last with
  | zero =>
    rw [attemptWith]
    exact w.follows_attempt (hop last) w.follows_givenUp
  | succ left ih =>
    rw [attemptWith]
    refine w.follows_attempt (hop last) fun e => ?_
    dsimp only
    split
    · refine Follows.bind (Q := fun s _ => s = w.waiting (some e))
        (follows_asking fun x => ⟨_, w.draw _ x, rfl⟩) ?_
      rintro _ x rfl
      refine (w.follows_hasAtLeast d _ (some e)).bind ?_
      rintro _ (_ | _) rfl
      · exact w.follows_givenUp e
      · refine Follows.bind (Q := fun s _ => s = w.waiting (some e))
          (follows_asking fun _ => ⟨_, w.sleep _ _, rfl⟩) ?_
        rintro _ _ rfl
        exact ih _ (some e)
    · exact w.follows_givenUp e

/-- A retried operation ends as its last attempt does. -/
theorem follows_withRetries {op : Program S (Except Error α)} (p : RetryPolicy) (d : Deadline)
    (hop : ∀ last, op.Follows P w.Attempted (w.waiting last)) :
    (withRetries p d op).Follows P w.Settled (w.waiting none) :=
  w.follows_attemptWith d hop _ _ none

end Retrying

end Program

/-! ## Runs in surroundings -/

/-- A run of `p` from the world `w` on: what it has seen, the world it has come to, and
what is left of it. `Answers w e w'` says that the world `w` may give the answer in `e`
and be `w'` then. -/
inductive Course {S : Service} {α World : Type} (Answers : World → Entry S → World → Prop)
    (w : World) (p : Program S α) : List (Entry S) → World → Program S α → Prop where
  | start : Course Answers w p [] w p
  | step {t : List (Entry S)} {w' w'' : World} {p' p'' : Program S α} {e : Entry S}
      (h : Course Answers w p t w' p') (ha : Answers w' e w'') (hs : p'.Step e p'') :
      Course Answers w p (t ++ [e]) w'' p''

/-- Answers that a world may give one after the other. -/
def Answered {S : Service} {World : Type} (Answers : World → Entry S → World → Prop) :
    World → List (Entry S) → World → Prop
  | w, [], w' => w' = w
  | w, e :: t, w' => ∃ m, Answers w e m ∧ Answered Answers m t w'

theorem Answered.mono {S : Service} {World : Type}
    {Answers Answers' : World → Entry S → World → Prop} {t : List (Entry S)} {w w' : World}
    (h : Answered Answers w t w') (hmono : ∀ w e w', Answers w e w' → Answers' w e w') :
    Answered Answers' w t w' := by
  induction t generalizing w with
  | nil => exact h
  | cons e t ih =>
    obtain ⟨m, he, ht⟩ := h
    exact ⟨m, hmono _ _ _ he, ih ht⟩

/-- A run goes on if its program does and the world answers. -/
theorem Course.append {S : Service} {α World : Type} [DecidableEq S.Request]
    {Answers : World → Entry S → World → Prop} {w m w' : World} {p q q' : Program S α}
    {t t' : List (Entry S)} (h : Course Answers w p t m q) (ha : Answered Answers m t' w')
    (hq : t'.foldlM Program.advance q = some q') : Course Answers w p (t ++ t') w' q' := by
  induction t' generalizing t m q with
  | nil =>
    obtain rfl : w' = m := ha
    cases hq
    rwa [List.append_nil]
  | cons e t' ih =>
    obtain ⟨m', he, ht'⟩ := ha
    rw [List.foldlM_cons] at hq
    obtain ⟨q₁, hq₁, hq'⟩ := Option.bind_eq_some_iff.mp hq
    have := ih (h.step he (Program.step_of_advance hq₁)) ht' hq'
    rwa [List.append_assoc] at this

/-- What every move keeps holds along every run of a program that follows the protocol. -/
theorem Course.invariant {S : Service} {α World : Type} {P : Protocol S}
    {Q : P.Stage → α → Prop} {Answers : World → Entry S → World → Prop} {w w' : World}
    {p p' : Program S α} {s : P.Stage} {t : List (Entry S)}
    (I : List (Entry S) → World → P.Stage → Prop) (h : Course Answers w p t w' p')
    (hp : p.Follows P Q s) (hs : I [] w s)
    (hmove : ∀ t w s e w' s', I t w s → Answers w e w' → P.Move s e s' → I (t ++ [e]) w' s') :
    ∃ s', p'.Follows P Q s' ∧ I t w' s' := by
  induction h with
  | start => exact ⟨s, hp, hs⟩
  | step _ ha hstep ih =>
    obtain ⟨s', hf, hi⟩ := ih
    obtain ⟨s'', hm, hf'⟩ := hf.step hstep
    exact ⟨s'', hf', hmove _ _ _ _ _ _ hi ha hm⟩

end TokenCustody
