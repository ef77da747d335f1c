/-
TokenCustody.Proofs.Coordination.System — any number of runs at the same
time.

Runs begin at any time, and at every step one of them asks or calls and
is answered (`System.Step`). They share a world. What the world may
answer, how it changes and which tasks may begin in it are parameters
(`Surroundings`), so the same system serves a lone store as well as a
store with a provider that remembers its tokens.

To reason about all runs at once, each run is looked at as an `Actor`: a
stage of its protocol that is backed by the run's ledger.
`System.Reaches.staged` carries whatever all moves of actors keep to
every state that the system reaches.
-/
import Mathlib.Logic.Function.Basic
import TokenCustody.Proofs.Coordination.Following
import TokenCustody.Proofs.Coordination.Serving

namespace TokenCustody.Coordination

theorem forall_update {β : Type} {c : Nat → Option β} {i : Nat} {a : β} {P : Nat → β → Prop}
    (ha : P i a) (hc : ∀ j b, j ≠ i → c j = some b → P j b) :
    ∀ j b, Function.update c i (some a) j = some b → P j b := by
  intro j b hj
  by_cases h : j = i
  · subst h
    rw [Function.update_self] at hj
    cases hj
    exact ha
  · rw [Function.update_of_ne h] at hj
    exact hc j b h hj

/-- What holds of any two at different places goes on to hold when one is replaced, if it holds
of that one and each of the others. -/
theorem pairwise_update {β : Type} {c : Nat → Option β} {i : Nat} {a : β} {R : β → β → Prop}
    (hsymm : ∀ x y, R x y → R y x)
    (hc : ∀ j k x y, j ≠ k → c j = some x → c k = some y → R x y)
    (ha : ∀ j x, j ≠ i → c j = some x → R a x) :
    ∀ j k x y, j ≠ k → Function.update c i (some a) j = some x →
      Function.update c i (some a) k = some y → R x y := by
  intro j k x y hjk hj hk
  by_cases hji : j = i
  · subst hji
    rw [Function.update_self] at hj
    cases hj
    rw [Function.update_of_ne hjk.symm] at hk
    exact ha k y hjk.symm hk
  · rw [Function.update_of_ne hji] at hj
    by_cases hki : k = i
    · subst hki
      rw [Function.update_self] at hk
      cases hk
      exact hsymm _ _ (ha j x hji hj)
    · rw [Function.update_of_ne hki] at hk
      exact hc j k x y hjk hj hk

/-! ## Runs -/

/-- A run: what it is for, what it has done, and what is left of it. -/
structure Run where
  task : Task
  ledger : Ledger
  rest : Program Custody Result

namespace Run

/-- A run that has just begun. -/
def begin (o : Task) : Run := ⟨o, .blank, o.program⟩

/-- The run after an answer that it goes on from with `rest`. -/
def after (run : Run) (e : Entry Custody) (rest : Program Custody Result) : Run :=
  ⟨run.task, run.ledger.enter e, rest⟩

/-- The run has made a record known: it has read it from the store or ended with it. -/
def Gave (run : Run) (r : Record) : Prop :=
  r ∈ run.ledger.found ∨ ∃ x, run.rest = .done x ∧ x.record? = some r

end Run

/-! ## Systems -/

/-- What runs share, and how it deals with them. -/
structure Surroundings where
  World : Type
  /-- Which tasks may begin in a world, knowing the records that runs have made known. -/
  Begins : World → (Record → Prop) → Task → Prop
  /-- What may be answered to a run, and the world after that. -/
  Answers : Task → World → Entry Custody → World → Prop

/-- A world and the runs in it, by number. -/
structure System (E : Surroundings) where
  world : E.World
  runs : Nat → Option Run

namespace System

variable {E : Surroundings}

/-- A world without runs. -/
def still (w : E.World) : System E := ⟨w, fun _ => none⟩

/-- Some run has made a record known. -/
def Gave (σ : System E) (r : Record) : Prop := ∃ i run, σ.runs i = some run ∧ run.Gave r

/-- One step: a run begins, or one of those that have begun goes on. -/
inductive Step (σ : System E) : System E → Prop where
  | begin (i : Nat) (o : Task) (hi : σ.runs i = none) (ho : E.Begins σ.world σ.Gave o) :
      Step σ ⟨σ.world, Function.update σ.runs i (some (.begin o))⟩
  | move (i : Nat) {run : Run} {e : Entry Custody} {rest : Program Custody Result}
      {w : E.World} (hi : σ.runs i = some run) (hs : run.rest.Step e rest)
      (ha : E.Answers run.task σ.world e w) :
      Step σ ⟨w, Function.update σ.runs i (some (run.after e rest))⟩

/-- Any number of steps. -/
inductive Reaches (σ₀ : System E) : System E → Prop where
  | start : Reaches σ₀ σ₀
  | step {σ σ' : System E} (h : Reaches σ₀ σ) (hs : σ.Step σ') : Reaches σ₀ σ'

/-- One run may go on alone for as long as the world answers it. -/
theorem Reaches.course {σ₀ σ : System E} {i : Nat} {run : Run} {t : List (Entry Custody)}
    {w : E.World} {p : Program Custody Result} (h : σ₀.Reaches σ) (hi : σ.runs i = some run)
    (hc : Course (E.Answers run.task) σ.world run.rest t w p) :
    σ₀.Reaches ⟨w, Function.update σ.runs i (some ⟨run.task, t.foldl .enter run.ledger, p⟩)⟩ := by
  induction hc with
  | start =>
    have hr : Function.update σ.runs i (some ⟨run.task, run.ledger, run.rest⟩) = σ.runs := by
      rw [← hi, Function.update_eq_self]
    rw [List.foldl_nil, hr]
    exact h
  | step _ ha hs ih =>
    have hm := ih.step (.move i (Function.update_self ..) hs ha)
    rw [Function.update_idem] at hm
    rw [List.foldl_append]
    exact hm

/-- A run that may begin may go on alone for as long as the world answers it. -/
theorem Reaches.lone {σ₀ σ : System E} {i : Nat} {o : Task} {t : List (Entry Custody)}
    {w : E.World} {p : Program Custody Result} (h : σ₀.Reaches σ) (hi : σ.runs i = none)
    (ho : E.Begins σ.world σ.Gave o) (hc : Course (E.Answers o) σ.world o.program t w p) :
    σ₀.Reaches ⟨w, Function.update σ.runs i (some ⟨o, .of t, p⟩)⟩ := by
  have hbegin := h.step (.begin i o hi ho)
  have hcourse : Course (E.Answers (Run.begin o).task) σ.world (Run.begin o).rest t w p := hc
  have hon := hbegin.course (Function.update_self ..) hcourse
  rw [Function.update_idem] at hon
  exact hon

/-- A run that may begin can be the only one for as long as the world answers it. -/
theorem exists_lone {w w' : E.World} {o : Task} {t : List (Entry Custody)}
    {p : Program Custody Result} (ho : E.Begins w (still w).Gave o)
    (hc : Course (E.Answers o) w o.program t w' p) :
    ∃ σ : System E, (still w).Reaches σ ∧ σ.world = w' ∧
      σ.runs = Function.update (fun _ => none) 0 (some ⟨o, .of t, p⟩) :=
  ⟨_, Reaches.start.lone rfl ho hc, rfl, rfl⟩

/-! ### Interleavings

Where it matters in which order runs took their turns, or what a run was answered that its
ledger does not say, the steps are kept. -/

/-- Steps of a system with the turns that runs took, oldest first: the number of the run, and
what it asked or called with its answer. Each answer suits the run that it is given to. -/
inductive Unfolds (Suits : Task → Ledger → Entry Custody → Prop) (σ₀ : System E) :
    List (Nat × Entry Custody) → System E → Prop where
  | start : Unfolds Suits σ₀ [] σ₀
  | begin {turns : List (Nat × Entry Custody)} {σ : System E} (h : Unfolds Suits σ₀ turns σ)
      (i : Nat) (o : Task) (hi : σ.runs i = none) (ho : E.Begins σ.world σ.Gave o) :
      Unfolds Suits σ₀ turns ⟨σ.world, Function.update σ.runs i (some (.begin o))⟩
  | move {turns : List (Nat × Entry Custody)} {σ : System E} (h : Unfolds Suits σ₀ turns σ)
      (i : Nat) {run : Run} {e : Entry Custody} {rest : Program Custody Result} {w : E.World}
      (hi : σ.runs i = some run) (hs : run.rest.Step e rest)
      (ha : E.Answers run.task σ.world e w) (hsuits : Suits run.task run.ledger e) :
      Unfolds Suits σ₀ (turns ++ [(i, e)])
        ⟨w, Function.update σ.runs i (some (run.after e rest))⟩

/-- Each of the answers suits a run of `o` with the ledger that it has by then. -/
def Suited (Suits : Task → Ledger → Entry Custody → Prop) (o : Task) :
    Ledger → List (Entry Custody) → Prop
  | _, [] => True
  | l, e :: t => Suits o l e ∧ Suited Suits o (l.enter e) t

/-- What the run with a number has seen. -/
def seenBy (i : Nat) (turns : List (Nat × Entry Custody)) : List (Entry Custody) :=
  (turns.filter fun m => m.1 = i).map Prod.snd

theorem seenBy_snoc_self (i : Nat) (turns : List (Nat × Entry Custody)) (e : Entry Custody) :
    seenBy i (turns ++ [(i, e)]) = seenBy i turns ++ [e] := by
  simp [seenBy]

theorem seenBy_snoc_of_ne {i j : Nat} (h : i ≠ j) (turns : List (Nat × Entry Custody))
    (e : Entry Custody) : seenBy i (turns ++ [(j, e)]) = seenBy i turns := by
  simp [seenBy, h.symm]

/-- Any number of steps have some turns. -/
theorem Reaches.unfolds {σ₀ σ : System E} (h : σ₀.Reaches σ) :
    ∃ turns, σ₀.Unfolds (fun _ _ _ => True) turns σ := by
  induction h with
  | start => exact ⟨[], .start⟩
  | step _ hs ih =>
    obtain ⟨turns, ih⟩ := ih
    cases hs with
    | begin i o hi ho => exact ⟨turns, ih.begin i o hi ho⟩
    | move i hi hs ha => exact ⟨_, ih.move i hi hs ha trivial⟩

namespace Unfolds

variable {Suits : Task → Ledger → Entry Custody → Prop} {σ₀ σ : System E}
variable {turns : List (Nat × Entry Custody)}

theorem suits (h : σ₀.Unfolds Suits turns σ) {m : Nat × Entry Custody} (hm : m ∈ turns) :
    ∃ o l, Suits o l m.2 := by
  induction h with
  | start => cases hm
  | begin _ i o hi ho ih => exact ih hm
  | move _ i hi hs ha hsuits ih =>
    obtain hm | hm := List.mem_append.mp hm
    · exact ih hm
    · obtain rfl := List.mem_singleton.mp hm
      exact ⟨_, _, hsuits⟩

/-- Every turn was taken in a state that the system had come to by then, by a run that is still
there and for the same task. -/
theorem turn (h : σ₀.Unfolds Suits turns σ) {before after : List (Nat × Entry Custody)} {i : Nat}
    {e : Entry Custody} (hturns : turns = before ++ (i, e) :: after) :
    ∃ (σ' : System E) (run : Run) (rest : Program Custody Result) (w : E.World),
      σ₀.Unfolds Suits before σ' ∧ σ'.runs i = some run ∧ run.rest.Step e rest ∧
      E.Answers run.task σ'.world e w ∧ ∃ run', σ.runs i = some run' ∧ run'.task = run.task := by
  induction h generalizing after with
  | start => simp at hturns
  | begin _ j o hj ho ih =>
    obtain ⟨σ', run, rest, w, hbefore, hi, hs, ha, run', hi', htask⟩ := ih hturns
    have hij : i ≠ j := by
      rintro rfl
      rw [hj] at hi'
      cases hi'
    exact ⟨σ', run, rest, w, hbefore, hi, hs, ha, run', (Function.update_of_ne hij ..).trans hi',
      htask⟩
  | @move turns σ h j run e' rest w hj hs ha hsuits ih =>
    obtain rfl | ⟨after', m, rfl⟩ := List.eq_nil_or_concat after
    · -- It is the last turn.
      obtain ⟨rfl, hlast⟩ := List.append_inj' hturns rfl
      cases hlast
      exact ⟨σ, run, rest, w, h, hj, hs, ha, _, Function.update_self .., rfl⟩
    · rw [List.concat_eq_append, ← List.cons_append, ← List.append_assoc] at hturns
      obtain ⟨hinit, -⟩ := List.append_inj' hturns rfl
      obtain ⟨σ', run', rest', w', hbefore, hi, hs', ha', run'', hi', htask⟩ := ih hinit
      refine ⟨σ', run', rest', w', hbefore, hi, hs', ha', ?_⟩
      by_cases hij : i = j
      · subst hij
        rw [hj] at hi'
        cases hi'
        exact ⟨_, Function.update_self .., htask⟩
      · exact ⟨run'', (Function.update_of_ne hij ..).trans hi', htask⟩

/-- One run may take turns for as long as the world answers it with what suits it. -/
theorem goOn {i : Nat} {run : Run} {t : List (Entry Custody)} {w : E.World}
    {p : Program Custody Result} (h : σ₀.Unfolds Suits turns σ) (hi : σ.runs i = some run)
    (ha : Answered (E.Answers run.task) σ.world t w) (hsuited : Suited Suits run.task run.ledger t)
    (hp : t.foldlM Program.advance run.rest = some p) :
    σ₀.Unfolds Suits (turns ++ t.map (i, ·))
      ⟨w, Function.update σ.runs i (some ⟨run.task, t.foldl .enter run.ledger, p⟩)⟩ := by
  induction t generalizing turns σ run with
  | nil =>
    obtain rfl : w = σ.world := ha
    cases hp
    have hr : Function.update σ.runs i (some ⟨run.task, run.ledger, run.rest⟩) = σ.runs := by
      rw [← hi, Function.update_eq_self]
    rw [List.map_nil, List.append_nil, List.foldl_nil, hr]
    exact h
  | cons e t ih =>
    obtain ⟨m, he, ht⟩ := ha
    rw [List.foldlM_cons] at hp
    obtain ⟨q, hq, hp⟩ := Option.bind_eq_some_iff.mp hp
    have hm := h.move i hi (Program.step_of_advance hq) he hsuited.1
    have hon := ih hm (Function.update_self ..) ht hsuited.2 hp
    dsimp only at hon
    rw [Function.update_idem, List.append_assoc] at hon
    exact hon

/-- The ledger of a run is that of what it has seen, and a run that has not begun has seen
nothing. -/
theorem ledger_eq {w₀ : E.World} (h : (still w₀).Unfolds Suits turns σ) (i : Nat) :
    (∀ run, σ.runs i = some run → run.ledger = .of (seenBy i turns)) ∧
      (σ.runs i = none → seenBy i turns = []) := by
  induction h with
  | start => exact ⟨fun run hi => (nomatch hi), fun _ => rfl⟩
  | @begin turns σ _ j o hj ho ih =>
    by_cases hij : i = j
    · subst hij
      dsimp only
      rw [Function.update_self, ih.2 hj]
      exact ⟨fun run hrun => by cases hrun; rfl, fun h => (nomatch h)⟩
    · dsimp only
      rw [Function.update_of_ne hij]
      exact ih
  | @move turns σ _ j run e rest w hj hs ha hsuits ih =>
    by_cases hij : i = j
    · subst hij
      dsimp only
      rw [Function.update_self, seenBy_snoc_self, Ledger.of_snoc, ← ih.1 run hj]
      exact ⟨fun run hrun => by cases hrun; rfl, fun h => (nomatch h)⟩
    · dsimp only
      rw [Function.update_of_ne hij, seenBy_snoc_of_ne hij]
      exact ih

end Unfolds

end System

/-! ## Actors -/

/-- A run as a stage of its protocol, with the reason for being there. -/
structure Actor where
  task : Task
  ledger : Ledger
  stage : Stage
  backed : stage.Backed task ledger

namespace Actor

/-- An actor that has just begun. -/
def begin (o : Task) : Actor := ⟨o, .blank, o.start, Stage.backed_start o⟩

/-- The actor after a move. -/
def after (a : Actor) {e : Entry Custody} {s : Stage} (h : Move a.task a.stage e s) : Actor :=
  ⟨a.task, a.ledger.enter e, s, h.backed a.backed⟩

/-- The actor is at a stage from which the rest of the run follows the protocol. -/
structure Plays (a : Actor) (run : Run) : Prop where
  task : a.task = run.task
  ledger : a.ledger = run.ledger
  follows : run.rest.Follows a.task.protocol (fun s x => s = .ended x) a.stage

/-- The actor has made a record known. -/
def Gave (a : Actor) (r : Record) : Prop :=
  r ∈ a.ledger.found ∨ ∃ x, a.stage = .ended x ∧ x.record? = some r

theorem Plays.gave {a : Actor} {run : Run} (h : a.Plays run) {r : Record} (hr : run.Gave r) :
    a.Gave r := by
  obtain hr | ⟨x, hx, hr⟩ := hr
  · exact Or.inl (h.ledger ▸ hr)
  · refine Or.inr ⟨x, ?_, hr⟩
    have hf := h.follows
    rw [hx] at hf
    exact hf

/-- What an actor has made known was held by the store, if all in its ledger was. -/
theorem Gave.held {s₀ s : MemoryStore} {a : Actor} {r : Record} (hr : a.Gave r)
    (h : Kept s₀ s a.ledger) : MemoryStore.Held s₀ s r := by
  obtain hr | ⟨x, hx, hr⟩ := hr
  · exact h.found r hr
  · have hb := a.backed
    rw [hx] at hb
    exact h.result hb hr

theorem Plays.ended {a : Actor} {run : Run} (h : a.Plays run) {x : Result}
    (hx : run.rest = .done x) : a.stage = .ended x := by
  have hf := h.follows
  rwa [hx] at hf

theorem Plays.halted {a : Actor} {run : Run} (h : a.Plays run) (hx : run.rest = .halt) :
    a.stage = .halted := by
  have hf := h.follows
  rwa [hx] at hf

/-- The actor of a run that is over has ended or halted. -/
theorem Plays.over {a : Actor} {run : Run} (h : a.Plays run) (hover : run.rest.IsOver) :
    (∃ x, run.rest = .done x ∧ a.stage = .ended x) ∨ a.stage = .halted := by
  cases hrest : run.rest with
  | done x => exact Or.inl ⟨x, rfl, h.ended hrest⟩
  | halt => exact Or.inr (h.halted hrest)
  | ask q next =>
    rw [hrest] at hover
    exact hover.elim
  | call r next =>
    rw [hrest] at hover
    exact hover.elim

/-- The actor of a run goes on as the run does. -/
theorem Plays.step {a : Actor} {run : Run} {e : Entry Custody} {rest : Program Custody Result}
    (h : a.Plays run) (hs : run.rest.Step e rest) :
    ∃ s, ∃ hm : Move a.task a.stage e s, (a.after hm).Plays (run.after e rest) := by
  obtain ⟨s, hm, hf⟩ := h.follows.step hs
  exact ⟨s, hm, h.task, congrArg (·.enter e) h.ledger, hf⟩

end Actor

/-! ## Casts -/

/-- The actors of all runs. -/
abbrev Cast := Nat → Option Actor

namespace Cast

/-- Some actor has made a record known. -/
def Gave (c : Cast) (r : Record) : Prop := ∃ i a, c i = some a ∧ a.Gave r

/-- Every run is played by its actor, and where no run has begun there is none. -/
def Plays {E : Surroundings} (c : Cast) (σ : System E) : Prop :=
  ∀ i, Option.Rel Actor.Plays (c i) (σ.runs i)

namespace Plays

variable {E : Surroundings} {c : Cast} {σ : System E}

theorem actor (h : c.Plays σ) {i : Nat} {run : Run} (hi : σ.runs i = some run) :
    ∃ a, c i = some a ∧ a.Plays run := by
  have hr := h i
  rw [hi] at hr
  generalize c i = x at hr
  cases hr with
  | some hp => exact ⟨_, rfl, hp⟩

theorem run (h : c.Plays σ) {i : Nat} {a : Actor} (hi : c i = some a) :
    ∃ run, σ.runs i = some run ∧ a.Plays run := by
  have hr := h i
  rw [hi] at hr
  generalize σ.runs i = x at hr
  cases hr with
  | some hp => exact ⟨_, rfl, hp⟩

theorem none (h : c.Plays σ) {i : Nat} (hi : σ.runs i = none) : c i = none := by
  have hr := h i
  rw [hi] at hr
  generalize c i = x at hr
  cases hr with
  | none => rfl

theorem gave (h : c.Plays σ) {r : Record} (hr : σ.Gave r) : c.Gave r := by
  obtain ⟨i, run, hi, hg⟩ := hr
  obtain ⟨a, ha, hp⟩ := h.actor hi
  exact ⟨i, a, ha, hp.gave hg⟩

theorem update (h : c.Plays σ) {a : Actor} {run : Run} (hp : a.Plays run) (i : Nat)
    (w : E.World) : Cast.Plays (Function.update c i (some a))
      (⟨w, Function.update σ.runs i (some run)⟩ : System E) := by
  intro j
  dsimp only
  by_cases hj : j = i
  · subst hj
    rw [Function.update_self, Function.update_self]
    exact .some hp
  · rw [Function.update_of_ne hj, Function.update_of_ne hj]
    exact h j

end Plays

end Cast

/-- What holds at the beginning, and is kept whenever a run begins or an actor moves with an
answer that suits it, holds in every state that the system unfolds to. -/
theorem System.Unfolds.staged {E : Surroundings} {Suits : Task → Ledger → Entry Custody → Prop}
    {w₀ : E.World} {turns : List (Nat × Entry Custody)} {σ : System E}
    (I : E.World → Cast → Prop) (h : (still w₀).Unfolds Suits turns σ)
    (hstart : I w₀ fun _ => none)
    (hbegin : ∀ w c given i o, I w c → (∀ r, given r → c.Gave r) → c i = none →
      E.Begins w given o → I w (Function.update c i (some (.begin o))))
    (hmove : ∀ w c i a e s w' (hm : Move a.task a.stage e s), I w c → c i = some a →
      E.Answers a.task w e w' → Suits a.task a.ledger e →
      I w' (Function.update c i (some (a.after hm)))) :
    ∃ c : Cast, c.Plays σ ∧ I σ.world c := by
  induction h with
  | start => exact ⟨fun _ => none, fun _ => .none, hstart⟩
  | begin _ i o hn ho ih =>
    obtain ⟨c, hp, hi⟩ := ih
    refine ⟨_, hp.update ?_ i _, hbegin _ c _ i o hi (fun r => hp.gave) (hp.none hn) ho⟩
    exact ⟨rfl, rfl, o.follows⟩
  | move _ i hr hs ha hsuits ih =>
    obtain ⟨c, hp, hi⟩ := ih
    obtain ⟨a, hc, hpa⟩ := hp.actor hr
    obtain ⟨s, hm, hp'⟩ := hpa.step hs
    refine ⟨_, hp.update hp' i _, hmove _ c i a _ s _ hm hi hc ?_ ?_⟩
    · rw [hpa.task]
      exact ha
    · rw [hpa.task, hpa.ledger]
      exact hsuits

/-- What holds at the beginning and is kept whenever a run begins or an actor moves holds
in every state that the system reaches. -/
theorem System.Reaches.staged {E : Surroundings} {w₀ : E.World} {σ : System E}
    (I : E.World → Cast → Prop) (h : (still w₀).Reaches σ) (hstart : I w₀ fun _ => none)
    (hbegin : ∀ w c given i o, I w c → (∀ r, given r → c.Gave r) → c i = none →
      E.Begins w given o → I w (Function.update c i (some (.begin o))))
    (hmove : ∀ w c i a e s w' (hm : Move a.task a.stage e s), I w c → c i = some a →
      E.Answers a.task w e w' → I w' (Function.update c i (some (a.after hm)))) :
    ∃ c : Cast, c.Plays σ ∧ I σ.world c := by
  obtain ⟨turns, h⟩ := h.unfolds
  exact h.staged I hstart hbegin fun w c i a e s w' hm hi hc ha _ =>
    hmove w c i a e s w' hm hi hc ha

end TokenCustody.Coordination
