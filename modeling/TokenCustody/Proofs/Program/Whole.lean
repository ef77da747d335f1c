/-
TokenCustody.Proofs.Program.Whole — whole runs of programs.

A run of a program can be told step by step, as `Course` does, or from its
end: `Program.Yields p t x` says that `p` may see `t` until it is over, and
that `x` comes of it, which is nothing if it ends without a result. Told
from the end, a run of two programs in a row is a run of the first and then
one of the second (`Yields.bind_inv`), so what a program sees can be
written down piece by piece.

Nothing is lost by looking at whole runs only. Every question and every
call has some answer, so a run that is not over can go on to its end
(`Course.exists_yields`), and what holds of all places in whole runs holds
of all places in all runs. `Throughout` is how such places are spoken of.
-/
import TokenCustody.Proofs.Program.Protocol

namespace TokenCustody

/-! ## Kinds of entries -/

section Kinds

variable {E F : Type} {f : E → Option F} {s t : List E}

/-- What `f` makes of the entries that it knows, oldest first. -/
def pick (f : E → Option F) (t : List E) : List F := t.filterMap f

@[simp] theorem pick_nil : pick f [] = [] := rfl

@[simp] theorem pick_cons (e : E) : pick f (e :: t) = (f e).toList ++ pick f t := by
  cases h : f e <;> simp [pick, h]

@[simp] theorem pick_append : pick f (s ++ t) = pick f s ++ pick f t := List.filterMap_append

theorem pick_eq_nil_iff : pick f t = [] ↔ ∀ e ∈ t, f e = none := List.filterMap_eq_nil_iff

/-- Nothing is missed if what is left out is not known. -/
theorem pick_filter {p : E → Bool} (h : ∀ e, p e = false → f e = none) :
    pick f (t.filter p) = pick f t := by
  induction t with
  | nil => rfl
  | cons e t ih =>
    cases he : p e with
    | true => simp [he, ih]
    | false => simp [he, ih, h e he]

end Kinds

/-! ## Places in a list -/

section Places

variable {E F : Type} {P Q : List E → E → List E → Prop} {h s t : List E}

/-- At every entry of a list `P` holds of what came before it, `h` included, of the entry
itself and of what comes after it. -/
def Throughout (P : List E → E → List E → Prop) : List E → List E → Prop
  | _, [] => True
  | h, e :: t => P h e t ∧ Throughout P (h ++ [e]) t

theorem throughout_append :
    Throughout P h (s ++ t) ↔
      Throughout (fun h e r => P h e (r ++ t)) h s ∧ Throughout P (h ++ s) t := by
  induction s generalizing h with
  | nil => simp [Throughout]
  | cons e s ih => simp [Throughout, ih, and_assoc]

theorem throughout_iff : Throughout P h t ↔
    ∀ before e after, t = before ++ e :: after → P (h ++ before) e after := by
  induction t generalizing h with
  | nil => simp [Throughout]
  | cons x t ih =>
    rw [Throughout, ih]
    constructor
    · rintro ⟨hx, ht⟩ (_ | ⟨y, before⟩) e after heq
      · obtain ⟨rfl, rfl⟩ := List.cons.inj heq
        simpa using hx
      · obtain ⟨rfl, rfl⟩ := List.cons.inj heq
        simpa using ht before e after rfl
    · intro hall
      refine ⟨by simpa using hall [] x t rfl, fun before e after heq => ?_⟩
      simpa using hall (x :: before) e after (by rw [heq]; rfl)

theorem Throughout.mono (ht : Throughout P h t) (hPQ : ∀ h e r, P h e r → Q h e r) :
    Throughout Q h t := by
  induction t generalizing h with
  | nil => trivial
  | cons e t ih => exact ⟨hPQ _ _ _ ht.1, ih ht.2⟩

theorem Throughout.of_forall (ht : ∀ e ∈ t, ∀ h r, P h e r) : Throughout P h t := by
  induction t generalizing h with
  | nil => trivial
  | cons e t ih =>
    exact ⟨ht e List.mem_cons_self _ _, ih fun e he => ht e (List.mem_cons_of_mem _ he)⟩

/-- What holds at every place of a list holds at every place of what is left of it, if it does
not depend on what is left out. -/
theorem Throughout.filter {p : E → Bool} (ht : Throughout P h t)
    (hPQ : ∀ h e r, p e = true → P h e r → Q (h.filter p) e (r.filter p)) :
    Throughout Q (h.filter p) (t.filter p) := by
  induction t generalizing h with
  | nil => trivial
  | cons e t ih =>
    have hrest := ih ht.2
    cases he : p e with
    | false => simpa [he] using hrest
    | true =>
      simp only [List.filter_append, List.filter_cons, he, if_pos, List.filter_nil] at hrest ⊢
      exact ⟨hPQ _ _ _ he ht.1, hrest⟩

/-- What holds at every place of a list holds at every place of its beginnings, if it does not
need what comes after. -/
theorem Throughout.of_append {P : List E → E → Prop}
    (hst : Throughout (fun h e _ => P h e) h (s ++ t)) : Throughout (fun h e _ => P h e) h s :=
  (throughout_append.mp hst).1

/-- If what counts is allowed only after fewer than `n` others, there are at most `n`. -/
theorem Throughout.length_pick_le {f : E → Option F} {n : Nat}
    (ht : Throughout (fun h e _ => (f e).isSome → (pick f h).length < n) h t)
    (hh : (pick f h).length ≤ n) : (pick f (h ++ t)).length ≤ n := by
  induction t generalizing h with
  | nil => simpa using hh
  | cons e t ih =>
    rw [List.append_cons]
    refine ih ht.2 ?_
    cases hf : f e with
    | none => simpa [hf] using hh
    | some b =>
      have hlt := ht.1 (by rw [hf]; rfl)
      simpa [hf, Nat.succ_le_iff] using hlt

end Places

/-! ## Whole runs -/

namespace Program

variable {S : Service} {α β : Type}

/-- The program may see this until it is over, and that comes of it. -/
inductive Yields : Program S α → List (Entry S) → Option α → Prop where
  | done (a : α) : Yields (.done a) [] (some a)
  | halt : Yields .halt [] none
  | ask (q : Ambient) (next : q.Reply → Program S α) (a : q.Reply) {t : List (Entry S)}
      {x : Option α} (h : Yields (next a) t x) : Yields (.ask q next) (.asked q a :: t) x
  | call (r : S.Request) (next : S.Reply r → Program S α) (a : S.Reply r) {t : List (Entry S)}
      {x : Option α} (h : Yields (next a) t x) : Yields (.call r next) (.called r a :: t) x

namespace Yields

variable {p : Program S α} {f : α → Program S β} {t : List (Entry S)}

theorem pure_inv {a : α} {x : Option α} (h : (pure a : Program S α).Yields t x) :
    t = [] ∧ x = some a := by
  cases h
  exact ⟨rfl, rfl⟩

/-- A question, and then what follows its answer. -/
theorem asking_inv {q : Ambient} {f : q.Reply → Program S β} {x : Option β}
    (h : (asking q >>= f).Yields t x) : ∃ a u, t = .asked q a :: u ∧ (f a).Yields u x := by
  have h' : (Program.ask q f).Yields t x := h
  cases h' with
  | ask _ _ a hu => exact ⟨a, _, rfl, hu⟩

/-- A call, and then what follows its answer. -/
theorem calling_inv {r : S.Request} {f : S.Reply r → Program S β} {x : Option β}
    (h : (calling r >>= f).Yields t x) : ∃ a u, t = .called r a :: u ∧ (f a).Yields u x := by
  have h' : (Program.call r f).Yields t x := h
  cases h' with
  | call _ _ a hu => exact ⟨a, _, rfl, hu⟩

theorem orHalt_inv {o : Option α} {x : Option β} (h : (orHalt o >>= f).Yields t x) :
    (o = none ∧ t = [] ∧ x = none) ∨ ∃ a, o = some a ∧ (f a).Yields t x := by
  cases o with
  | none =>
    have h' : (Program.halt : Program S β).Yields t x := h
    cases h'
    exact Or.inl ⟨rfl, rfl, rfl⟩
  | some a => exact Or.inr ⟨a, rfl, h⟩

/-- A look at the time that is left, and then what follows from it. -/
theorem hasAtLeast_inv {d : Deadline} {needed : Time.Duration} {f : Bool → Program S β}
    {x : Option β} (h : (d.hasAtLeast needed >>= f).Yields t x) :
    ∃ now u, t = .asked .timer now :: u ∧
      (f (decide (needed ≤ d.remainingAt now))).Yields u x := by
  rw [d.hasAtLeast_eq] at h
  exact asking_inv (q := .timer) (f := fun now => f (decide (needed ≤ d.remainingAt now))) h

/-- A deadline is set if the clock goes so far, and then comes what depends on it. -/
theorem after_inv {budget : Time.Duration} {f : Deadline → Program S β} {x : Option β}
    (h : (Deadline.after budget >>= f).Yields t x) : ∃ now u, t = .asked .timer now :: u ∧
      ((Deadline.afterAt now budget = none ∧ u = [] ∧ x = none) ∨
        ∃ d, Deadline.afterAt now budget = some d ∧ (f d).Yields u x) := by
  have h' : (timer >>= fun now => orHalt (Deadline.afterAt now budget) >>= f).Yields t x := h
  obtain ⟨now, u, rfl, hu⟩ := h'.asking_inv
  exact ⟨now, u, rfl, hu.orHalt_inv⟩

/-- One program and then another: either the first ends without a result, or the second takes
up where the first has ended. -/
theorem bind_inv {x : Option β} (h : (p >>= f).Yields t x) : (p.Yields t none ∧ x = none) ∨
    ∃ s a u, t = s ++ u ∧ p.Yields s (some a) ∧ (f a).Yields u x := by
  have h' : (p.bind f).Yields t x := h
  clear h
  induction p generalizing t with
  | done a => exact Or.inr ⟨[], a, t, rfl, .done a, h'⟩
  | halt =>
    cases h'
    exact Or.inl ⟨.halt, rfl⟩
  | ask q next ih =>
    cases h' with
    | ask _ _ a hu =>
      obtain ⟨hn, hx⟩ | ⟨s, b, v, rfl, hs, hv⟩ := ih a hu
      · exact Or.inl ⟨.ask q next a hn, hx⟩
      · exact Or.inr ⟨_, b, v, rfl, .ask q next a hs, hv⟩
  | call r next ih =>
    cases h' with
    | call _ _ a hu =>
      obtain ⟨hn, hx⟩ | ⟨s, b, v, rfl, hs, hv⟩ := ih a hu
      · exact Or.inl ⟨.call r next a hn, hx⟩
      · exact Or.inr ⟨_, b, v, rfl, .call r next a hs, hv⟩

end Yields

/-- A program to whose calls there are answers can be run to its end. -/
theorem exists_yields (hS : ∀ r, Nonempty (S.Reply r)) (p : Program S α) :
    ∃ t x, p.Yields t x := by
  have hq : ∀ q : Ambient, Nonempty q.Reply := by
    intro q
    cases q with
    | now => exact ⟨Time.Instant.epoch⟩
    | timer => exact ⟨Time.Duration.zero⟩
    | draw => exact ⟨(0.0 : Float)⟩
    | bytes n => exact ⟨([] : List UInt8)⟩
    | sleep d => exact ⟨()⟩
    | emit m => exact ⟨()⟩
    | tally t => exact ⟨()⟩
  induction p with
  | done a => exact ⟨[], some a, .done a⟩
  | halt => exact ⟨[], none, .halt⟩
  | ask q next ih =>
    obtain ⟨a⟩ := hq q
    obtain ⟨t, x, h⟩ := ih a
    exact ⟨_, x, .ask q next a h⟩
  | call r next ih =>
    obtain ⟨a⟩ := hS r
    obtain ⟨t, x, h⟩ := ih a
    exact ⟨_, x, .call r next a h⟩

end Program

/-! ## What was counted -/

section Counting

variable {S : Service} {α : Type} {t : List (Entry S)}

/-- What an entry counts for the report. -/
def Entry.tally? : Entry S → Option Tally
  | .asked (.tally t) _ => some t
  | _ => none

/-- What an entry counts for whoever watches. -/
def Entry.metric? : Entry S → Option Metric
  | .asked (.emit m) _ => some m
  | _ => none

/-- Each tally counts for one of the sums. -/
theorem RetryStats.foldl_add (s : RetryStats) (ts : List Tally) :
    ts.foldl RetryStats.add s =
      ⟨s.attempts + .ofNat (ts.count .attempt), s.lateSuccesses + .ofNat (ts.count .lateSuccess),
        s.failures + .ofNat (ts.count .failure)⟩ := by
  induction ts generalizing s with
  | nil => simp
  | cons t ts ih =>
    rw [List.foldl_cons, ih]
    cases t <;>
      simp [RetryStats.add, UInt32.ofNat_add, UInt32.add_assoc, UInt32.add_comm (UInt32.ofNat _)]

/-- Only attempts count as attempts. -/
theorem RetryStats.attempts_foldl_add (s : RetryStats) (ts : List Tally) :
    (ts.foldl RetryStats.add s).attempts = s.attempts + .ofNat (ts.count .attempt) := by
  rw [foldl_add]

/-- A program whose tallies are counted sees what the program sees, less the tallies, and comes
to the sums of these. -/
theorem Program.yields_counting {p : Program S α} {s : RetryStats}
    {x : Option (Option α × RetryStats)} (h : (p.counting s).Yields t x) :
    ∃ u y, p.Yields u y ∧ t = u.filter (·.tally?.isNone) ∧
      x = some (y, (pick Entry.tally? u).foldl RetryStats.add s) := by
  induction p generalizing s t with
  | done a =>
    cases h
    exact ⟨[], some a, .done a, rfl, rfl⟩
  | halt =>
    cases h
    exact ⟨[], none, .halt, rfl, rfl⟩
  | call r next ih =>
    cases h with
    | call _ _ a h =>
      obtain ⟨u, y, hu, rfl, rfl⟩ := ih a h
      exact ⟨_, y, .call r next a hu, rfl, rfl⟩
  | ask q next ih =>
    have hasked (hq : ∀ t, q ≠ .tally t)
        (h : (Program.ask q fun a => (next a).counting s).Yields t x) :
        ∃ u y, (Program.ask q next).Yields u y ∧ t = u.filter (·.tally?.isNone) ∧
          x = some (y, (pick Entry.tally? u).foldl RetryStats.add s) := by
      cases h with
      | ask _ _ a h =>
        obtain ⟨u, y, hu, rfl, rfl⟩ := ih a h
        have hnone : (Entry.asked (S := S) q a).tally? = none := by
          cases q with
          | tally t => exact absurd rfl (hq t)
          | _ => rfl
        exact ⟨_, y, .ask q next a hu, by simp [hnone], by simp [hnone]⟩
    cases q with
    | tally t =>
      obtain ⟨u, y, hu, rfl, rfl⟩ := ih () h
      exact ⟨_, y, .ask (.tally t) next () hu, rfl, rfl⟩
    | _ => exact hasked nofun h

end Counting

/-! ## Runs in surroundings -/

section Runs

variable {S : Service} {α World : Type} {Answers : World → Entry S → World → Prop}
variable {w w' : World} {p q : Program S α} {t u : List (Entry S)} {x : Option α}

theorem Program.Step.yields {e : Entry S} (h : p.Step e q) (hq : q.Yields u x) :
    p.Yields (e :: u) x := by
  cases h with
  | ask k next a => exact .ask k next a hq
  | call r next a => exact .call r next a hq

/-- What a run has seen, and what is left of its program sees, is what the program sees. -/
theorem Course.yields (h : Course Answers w p t w' q) (hq : q.Yields u x) :
    p.Yields (t ++ u) x := by
  induction h generalizing u with
  | start => exact hq
  | step _ _ hs ih =>
    rw [List.append_assoc]
    exact ih (hs.yields hq)

theorem answered_append : Answered Answers w (t ++ u) w' ↔
    ∃ m, Answered Answers w t m ∧ Answered Answers m u w' := by
  induction t generalizing w with
  | nil => simp [Answered]
  | cons e t ih =>
    simp only [List.cons_append, Answered, ih]
    constructor
    · rintro ⟨m, he, m', ht, hu⟩
      exact ⟨m', ⟨m, he, ht⟩, hu⟩
    · rintro ⟨m', ⟨m, he, ht⟩, hu⟩
      exact ⟨m, he, m', ht, hu⟩

/-- All that a run has seen are answers of its world. -/
theorem Course.answered (h : Course Answers w p t w' q) : Answered Answers w t w' := by
  induction h with
  | start => rfl
  | step _ ha _ ih => exact answered_append.mpr ⟨_, ih, _, ha, rfl⟩

/-- A run is the beginning of a whole one. -/
theorem Course.exists_yields (h : Course Answers w p t w' q)
    (hS : ∀ r, Nonempty (S.Reply r)) : ∃ u x, q.Yields u x ∧ p.Yields (t ++ u) x := by
  obtain ⟨u, x, hq⟩ := q.exists_yields hS
  exact ⟨u, x, hq, h.yields hq⟩

/-- A run that has come to its result is a whole one. -/
theorem Course.yields_done {a : α} (h : Course Answers w p t w' (.done a)) :
    p.Yields t (some a) := by
  simpa using h.yields (.done a)

end Runs

end TokenCustody
