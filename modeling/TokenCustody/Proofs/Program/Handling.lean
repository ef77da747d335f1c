/-
TokenCustody.Proofs.Program.Handling — programs whose calls are answered
by programs.

`Program.serve` turns a program over one service into a program over
another: each call is answered by a program of its own. What is known of
a program then has to be carried over to the program that it is turned
into. A run of the latter is a run of the former in a world where every
call is answered by a whole run of its answer (`Served`), up to an answer
that is not complete yet (`Resumes`). `Course.unserve` says that for all
runs and `Course.unserve_done` for those that have come to their result,
where no answer is incomplete. `Course.serve` is the way back.

The world of the run keeps what was seen over the other service, so an
invariant of the former can speak of it.
-/
import TokenCustody.Proofs.Program.Protocol

namespace TokenCustody

/-! ## Parts of runs -/

theorem Program.bind_step {S : Service} {α β : Type} {p : Program S α} {f : α → Program S β}
    {e : Entry S} {q : Program S β} (h : (p.bind f).Step e q) :
    (∃ p', p.Step e p' ∧ q = p'.bind f) ∨ ∃ a, p = .done a ∧ (f a).Step e q := by
  cases p with
  | done a => exact Or.inr ⟨a, rfl, h⟩
  | halt => cases h
  | ask k next =>
    cases h with
    | ask _ _ a => exact Or.inl ⟨next a, .ask .., rfl⟩
  | call r next =>
    cases h with
    | call _ _ a => exact Or.inl ⟨next a, .call .., rfl⟩

namespace Course

variable {S : Service} {α World : Type} {Answers : World → Entry S → World → Prop}
variable {w m w' : World} {p q q' : Program S α} {t t' : List (Entry S)}

theorem trans (h : Course Answers w p t m q) (h' : Course Answers m q t' w' q') :
    Course Answers w p (t ++ t') w' q' := by
  induction h' with
  | start => rwa [List.append_nil]
  | step _ ha hs ih =>
    rw [← List.append_assoc]
    exact ih.step ha hs

/-- A run either has not begun, or it is a first step and a run after that. -/
theorem head_cases (h : Course Answers w p t w' q) : (t = [] ∧ w' = w ∧ q = p) ∨
    ∃ e m p' t', t = e :: t' ∧ Answers w e m ∧ p.Step e p' ∧ Course Answers m p' t' w' q := by
  induction h with
  | start => exact Or.inl ⟨rfl, rfl, rfl⟩
  | @step t _ _ _ _ e _ ha hs ih =>
    obtain ⟨rfl, rfl, rfl⟩ | ⟨e', m, p', t', rfl, ha', hs', hc⟩ := ih
    · exact Or.inr ⟨e, _, _, [], rfl, ha, hs, .start⟩
    · exact Or.inr ⟨e', m, p', t' ++ [e], rfl, ha', hs', hc.step ha hs⟩

theorem done_inv {a : α} (h : Course Answers w (.done a) t w' q) :
    t = [] ∧ w' = w ∧ q = .done a := by
  obtain h | ⟨_, _, _, _, -, -, hs, -⟩ := h.head_cases
  · exact h
  · cases hs

theorem ask_inv {k : Ambient} {next : k.Reply → Program S α}
    (h : Course Answers w (.ask k next) t w' q) : (t = [] ∧ w' = w ∧ q = .ask k next) ∨
      ∃ a m t', t = .asked k a :: t' ∧ Answers w (.asked k a) m ∧
        Course Answers m (next a) t' w' q := by
  obtain h | ⟨_, m, _, t', rfl, ha, hs, hc⟩ := h.head_cases
  · exact Or.inl h
  · cases hs with
    | ask _ _ a => exact Or.inr ⟨a, m, t', rfl, ha, hc⟩

theorem call_inv {r : S.Request} {next : S.Reply r → Program S α}
    (h : Course Answers w (.call r next) t w' q) : (t = [] ∧ w' = w ∧ q = .call r next) ∨
      ∃ a m t', t = .called r a :: t' ∧ Answers w (.called r a) m ∧
        Course Answers m (next a) t' w' q := by
  obtain h | ⟨_, m, _, t', rfl, ha, hs, hc⟩ := h.head_cases
  · exact Or.inl h
  · cases hs with
    | call _ _ a => exact Or.inr ⟨a, m, t', rfl, ha, hc⟩

/-- A run of the first of two programs in a row. -/
theorem bind {β : Type} (f : α → Program S β) (h : Course Answers w p t w' q) :
    Course Answers w (p.bind f) t w' (q.bind f) := by
  induction h with
  | start => exact .start
  | step _ ha hs ih =>
    refine ih.step ha ?_
    cases hs with
    | ask k next a => exact .ask ..
    | call r next a => exact .call ..

/-- A run of two programs in a row is one of the first, or a whole one of the first and then
one of the second. -/
theorem bind_inv {β : Type} {f : α → Program S β} {q : Program S β}
    (h : Course Answers w (p.bind f) t w' q) :
    (∃ p', Course Answers w p t w' p' ∧ q = p'.bind f) ∨
      ∃ s m a s', Course Answers w p s m (.done a) ∧ Course Answers m (f a) s' w' q ∧
        t = s ++ s' := by
  induction h with
  | start => exact Or.inl ⟨p, .start, rfl⟩
  | step _ ha hs ih =>
    obtain ⟨p', hp, rfl⟩ | ⟨s, m, a, s', hp, hf, rfl⟩ := ih
    · obtain ⟨p'', hs', rfl⟩ | ⟨a, rfl, hs'⟩ := Program.bind_step hs
      · exact Or.inl ⟨p'', hp.step ha hs', rfl⟩
      · exact Or.inr ⟨_, _, a, _, hp, .step .start ha hs', rfl⟩
    · exact Or.inr ⟨s, m, a, _, hp, hf.step ha hs, by rw [List.append_assoc]⟩

/-- A run of a single call is the call, unless it has not begun. -/
theorem single_inv {r : S.Request} {f : S.Reply r → α}
    (h : Course Answers w (.call r fun a => .done (f a)) t w' q) : (t = [] ∧ ∀ x, q ≠ .done x) ∨
      ∃ a, t = [.called r a] ∧ Answers w (.called r a) w' ∧ q = .done (f a) := by
  obtain ⟨rfl, -, rfl⟩ | ⟨a, m, t', rfl, ha, hc⟩ := h.call_inv
  · exact Or.inl ⟨rfl, nofun⟩
  · obtain ⟨rfl, rfl, rfl⟩ := hc.done_inv
    exact Or.inr ⟨a, rfl, ha, rfl⟩

end Course

/-! ## Answers that are runs -/

section Handlers

variable {S T : Service} {α World : Type} {Answers : World → Entry T → World → Prop}
variable {answer : (r : S.Request) → Program T (S.Reply r)}

/-- Questions are answered by the world, and calls by whole runs of their answers. What is seen
in that is kept. -/
inductive Served (Answers : World → Entry T → World → Prop)
    (answer : (r : S.Request) → Program T (S.Reply r)) :
    World × List (Entry T) → Entry S → World × List (Entry T) → Prop where
  | asked {w w' : World} {t : List (Entry T)} (q : Ambient) (a : q.Reply)
      (h : Answers w (.asked q a) w') :
      Served Answers answer (w, t) (.asked q a) (w', t ++ [.asked q a])
  | called {w w' : World} {t t' : List (Entry T)} (r : S.Request) (a : S.Reply r)
      (h : Course Answers w (answer r) t' w' (.done a)) :
      Served Answers answer (w, t) (.called r a) (w', t ++ t')

/-- `p'` is what is left of the served program `p` when it has seen `t` since it was reached.
That is something only if `p` is at a call, whose answer has then begun. -/
def Resumes (Answers : World → Entry T → World → Prop)
    (answer : (r : S.Request) → Program T (S.Reply r)) (w : World) (t : List (Entry T)) (w' : World)
    (p' : Program T α) : Program S α → Prop
  | .call r next => ∃ rest, Course Answers w (answer r) t w' rest ∧
      p' = rest.bind fun a => (next a).serve answer
  | p => t = [] ∧ w' = w ∧ p' = p.serve answer

theorem Resumes.start (w : World) (p : Program S α) :
    Resumes Answers answer w [] w (p.serve answer) p := by
  cases p with
  | call r next => exact ⟨_, .start, rfl⟩
  | _ => exact ⟨rfl, rfl, rfl⟩

/-- However far an answer has come, the next step of the served program is one of the answer,
or of what follows it. The induction is on the program, because an answer may be complete
without a step. -/
theorem Resumes.step {w w' w'' : World} {t s : List (Entry T)} {e : Entry T} {p : Program S α}
    {p' p'' : Program T α} (h : Resumes Answers answer w s w' p' p) (ha : Answers w' e w'')
    (hs : p'.Step e p'') :
    ∃ seen m t' s' q, Course (Served Answers answer) (w, t) p seen (m, t') q ∧
      Resumes Answers answer m s' w'' p'' q ∧ t' ++ s' = t ++ s ++ [e] := by
  induction p generalizing w s p' t with
  | done a =>
    obtain ⟨rfl, rfl, rfl⟩ := h
    cases hs
  | halt =>
    obtain ⟨rfl, rfl, rfl⟩ := h
    cases hs
  | ask k next ih =>
    obtain ⟨rfl, rfl, rfl⟩ := h
    cases hs with
    | ask _ _ a =>
      refine ⟨[.asked k a], w'', t ++ [.asked k a], [], next a, ?_, .start .., by simp⟩
      exact .step .start (.asked k a ha) (.ask ..)
  | call r next ih =>
    obtain ⟨rest, hc, rfl⟩ := h
    obtain ⟨rest', hs', rfl⟩ | ⟨a, rfl, hs'⟩ := Program.bind_step hs
    · exact ⟨[], w, t, s ++ [e], .call r next, .start, ⟨rest', hc.step ha hs', rfl⟩, by simp⟩
    · -- The answer was complete, so the step is one of what follows.
      obtain ⟨seen, m, t', s', q, hq, hr, heq⟩ := ih a (t := t ++ s) (.start w' (next a)) hs'
      refine ⟨_, m, t', s', q, .trans (.step .start (.called r a hc) (.call ..)) hq, hr, ?_⟩
      rw [heq, List.append_nil]

/-- A run of a served program is a run of the program, up to an answer that is not complete. -/
theorem Course.unserve {w w' : World} {t : List (Entry T)} {p : Program S α} {p' : Program T α}
    (h : Course Answers w (p.serve answer) t w' p') :
    ∃ seen m t' s q, Course (Served Answers answer) (w, []) p seen (m, t') q ∧
      Resumes Answers answer m s w' p' q ∧ t = t' ++ s := by
  induction h with
  | start => exact ⟨[], w, [], [], p, .start, .start w p, rfl⟩
  | step _ ha hs ih =>
    obtain ⟨seen, m, t', s, q, hc, hr, rfl⟩ := ih
    obtain ⟨seen', m', t'', s', q', hc', hr', heq⟩ := hr.step (t := t') ha hs
    exact ⟨seen ++ seen', m', t'', s', q', hc.trans hc', hr', heq.symm⟩

/-- Where nothing is left of a served program nothing is left of the program either. -/
theorem Resumes.done {w w' : World} {t s : List (Entry T)} {p : Program S α} {x : α}
    (h : Resumes Answers answer w s w' (.done x) p) :
    ∃ seen, Course (Served Answers answer) (w, t) p seen (w', t ++ s) (.done x) := by
  induction p generalizing w s t with
  | done a =>
    obtain ⟨rfl, rfl, hx⟩ := h
    cases hx
    exact ⟨[], by rw [List.append_nil]; exact .start⟩
  | halt =>
    obtain ⟨-, -, hx⟩ := h
    cases hx
  | ask k next ih =>
    obtain ⟨-, -, hx⟩ := h
    cases hx
  | call r next ih =>
    obtain ⟨rest, hc, hx⟩ := h
    cases rest with
    | done a =>
      have hnext : Resumes Answers answer w' [] w' (.done x) (next a) := by
        rw [show (Program.done x : Program T α) = (next a).serve answer from hx]
        exact .start ..
      obtain ⟨seen, hseen⟩ := ih a (t := t ++ s) hnext
      rw [List.append_nil] at hseen
      exact ⟨_, .trans (.step .start (.called r a hc) (.call ..)) hseen⟩
    | _ => cases hx

/-- A run of a served program to its result is a run of the program to the same result. -/
theorem Course.unserve_done {w w' : World} {t : List (Entry T)} {p : Program S α} {x : α}
    (h : Course Answers w (p.serve answer) t w' (.done x)) :
    ∃ seen, Course (Served Answers answer) (w, []) p seen (w', t) (.done x) := by
  obtain ⟨seen, m, t', s, q, hc, hr, rfl⟩ := h.unserve
  obtain ⟨seen', hc'⟩ := hr.done (t := t')
  exact ⟨_, hc.trans hc'⟩

/-- A run of a program, in a world where its calls are answered by runs, is a run of the served
program. -/
theorem Course.serve {w w' : World × List (Entry T)} {seen : List (Entry S)} {p q : Program S α}
    (h : Course (Served Answers answer) w p seen w' q) :
    ∃ t, w'.2 = w.2 ++ t ∧ Course Answers w.1 (p.serve answer) t w'.1 (q.serve answer) := by
  induction h with
  | start => exact ⟨[], by rw [List.append_nil], .start⟩
  | step _ ha hs ih =>
    obtain ⟨t, ht, hc⟩ := ih
    cases ha with
    | @asked m m' t' k a ha =>
      cases hs with
      | ask _ next _ =>
        have hstep : ((Program.ask k next).serve answer).Step (.asked k a)
            ((next a).serve answer) := .ask k (fun a => (next a).serve answer) a
        exact ⟨t ++ [.asked k a], by rw [← List.append_assoc, ← ht], hc.step ha hstep⟩
    | @called m m' t' s r a hr =>
      cases hs with
      | call _ next _ =>
        refine ⟨t ++ s, by rw [← List.append_assoc, ← ht], hc.trans ?_⟩
        exact hr.bind fun a => (next a).serve answer

end Handlers

end TokenCustody
