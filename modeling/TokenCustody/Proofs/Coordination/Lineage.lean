/-
TokenCustody.Proofs.Coordination.Lineage — where stored records come from.

Any number of runs share a store: some refresh, some report rejections,
some store the grant of a human. Whatever the order of their calls, a
record that gets into the store is one of three things (`Origin`): the
first record of a new authorization, one refresh further than the record
it replaces, or the record it replaces with a fault on it. Which of them
it is depends on what the run is for. The last two replace the very
record that the run was acting on. A refresh may also replace that record
with a fault of the provider on it, which is what a slower run leaves
behind.

Two invariants carry this. Each run acts only on records that the store
held (`Traced`); a version is never given twice, so a condition on the
version of such a record is a condition on the record. And each run is at
a stage that runs of its task come to (`Stage.Belongs`), so what it is
about to write tells what it is for.
-/
import TokenCustody.Proofs.Coordination.Seen
import TokenCustody.Proofs.Coordination.System

namespace TokenCustody

namespace Coordination

open MemoryStore (Held)

/-! ## Tasks and stages -/

namespace Task

/-- The run obtains a token. -/
def Obtains : Task → Prop
  | obtain _ _ => True
  | _ => False

/-- The run reports that a call was turned away. -/
def Rejects : Task → Prop
  | rejection _ _ _ => True
  | _ => False

/-- The run stores the grant of an authorization by a human. -/
def Authorizes : Task → Prop
  | authorization _ _ _ => True
  | _ => False

end Task

/-- The runs that look into the store for such a reason. -/
def Goal.Belongs (o : Task) : Goal → Prop
  | first | recover _ _ _ => o.Obtains
  | settle _ => o.Obtains ∨ o.Rejects
  | tell => True

/-- The runs that come to write this. A fault that the provider has told is noted by a run that
obtains a token, and any other one by a run that reports it. -/
def Draft.Belongs (o : Task) : Draft → Prop
  | successor _ _ | overShadow _ _ _ => o.Obtains
  | fault _ f _ _ => o.Obtains ∧ f.kind ≠ .apiRejected ∨ o.Rejects ∧ f.kind = .apiRejected
  | first _ => o.Authorizes

/-- The runs that come to this stage. -/
def Stage.Belongs (o : Task) : Stage → Prop
  | looking goal _ | weighing goal _ => goal.Belongs o
  | refreshing _ _ | refused _ _ => o.Obtains
  | writing d => d.Belongs o
  | reporting _ _ => o.Rejects
  | checking | exchanging => o.Authorizes
  | ended _ | halted => True

/-- No answer of the provider is taken for a call that was turned away. -/
theorem faultKindOf_ne_apiRejected (e : Error) : faultKindOf e ≠ .apiRejected := by
  unfold faultKindOf
  split <;> decide

namespace Stage

variable {o : Task}

/-- A run begins at a stage of its own. -/
theorem belongs_start (o : Task) : o.start.Belongs o := by
  cases o with
  | obtain cfg deadline => trivial
  | rejection cfg used why =>
    show (ofUsed used why).Belongs _
    unfold ofUsed
    split
    · trivial
    · split <;> trivial
  | authorization cfg s c => trivial
  | inspection cfg => trivial

/-- The state of what was read leads to a stage for the same runs. -/
theorem belongs_weighed {g : Goal} {found : Option Record} {st : Option TokenState}
    (h : g.Belongs o) : (g.weighed found st).Belongs o := by
  cases st with
  | none => cases g <;> trivial
  | some st =>
    cases g with
    | first =>
      cases found with
      | none => trivial
      | some r => cases st <;> first | exact h | trivial
    | recover base next e =>
      dsimp only [Goal.weighed]
      split
      · exact h
      · trivial
    | settle otherwise => trivial
    | tell => trivial

/-- A run that could not write looks again for a reason that is its own. -/
theorem belongs_written {d : Draft} {a : Except Error Version} (h : d.Belongs o) :
    (d.written a).Belongs o := by
  cases a with
  | ok v => trivial
  | error e =>
    obtain ⟨goal, hagain, hlooks⟩ | hends := d.written_error e
    · rw [hlooks]
      cases d with
      | successor base next =>
        cases hagain
        exact h
      | overShadow base next shadow =>
        cases hagain
        exact Or.inl h
      | fault base f why otherwise =>
        cases hagain
        exact h.imp And.left And.left
      | first r => cases hagain
    · rw [hends]
      trivial

end Stage

/-- No move leads a run to a stage that is not for it. -/
theorem Move.belongs {o : Task} {s s' : Stage} {e : Entry Custody} (h : Move o s e s')
    (hs : s.Belongs o) : s'.Belongs o := by
  cases h with
  | emit m => exact hs
  | tally t h => exact hs
  | timer t => exact hs
  | draw h x => exact hs
  | sleep h d => exact hs
  | readFailed e => exact hs
  | readGivenUp e => trivial
  | @read g last found =>
    cases g with
    | first =>
      cases found with
      | none => trivial
      | some r => exact hs
    | _ => exact hs
  | weighed t => exact Stage.belongs_weighed hs
  | refreshFailed e => exact hs
  | refreshRefused e h => exact hs
  | refreshGivenUp e h => trivial
  | @granted base last g =>
    cases base.successor g o.settings.refreshLifetime with
    | none => trivial
    | some r =>
      cases r with
      | error e => trivial
      | ok next => exact hs
  | faulted t => exact Or.inl ⟨hs, faultKindOf_ne_apiRejected _⟩
  | wrote a => exact Stage.belongs_written hs
  | tooLate stage h => trivial
  | reported t => exact Or.inr ⟨hs, rfl⟩
  | notReported stage t => trivial
  | beyond h t => trivial
  | checked t r =>
    cases r with
    | error e => trivial
    | ok code => exact hs
  | exchanged code uri a =>
    cases a with
    | error e => trivial
    | ok g =>
      show (Stage.ofExchange _ (.ok g)).Belongs o
      unfold Stage.ofExchange
      dsimp only
      split
      · trivial
      · trivial
      · exact hs

/-! ## Origins -/

/-- How a record gets into a store. -/
inductive Origin where
  | authorization
  | refresh
  | fault
  deriving DecidableEq

/-- `found` is `base` with a fault that the provider gave as the reason of a refusal. -/
def Shadows (base found : Record) : Prop :=
  (∃ f, found.fault = some f ∧ (f.kind = .invalidGrant ∨ f.kind = .invalidToken)) ∧
    found.refreshToken = base.refreshToken ∧ found.refreshCount = base.refreshCount

/-- The check of the program is for shadows. -/
theorem shadows_iff {base found : Record} :
    isOwnShadow base found = true ↔ Shadows base found := by
  cases hf : found.fault with
  | none => simp [isOwnShadow, Shadows, hf]
  | some f =>
    simp only [isOwnShadow, Shadows, hf, Option.any_some, Bool.and_eq_true, decide_eq_true_eq,
      Option.some.injEq, exists_eq_left', and_assoc]
    exact and_congr_right fun _ => and_comm

/-- How the record `next` relates to the record `prev` that it replaces, if it was stored by a
run of the task `o` that acts on `base`. -/
def Origin.Relates (o : Task) (base prev : Option Record) (next : Record) : Origin → Prop
  | authorization => o.Authorizes ∧ next.refreshCount = 0 ∧ next.fault = none
  | refresh => o.Obtains ∧ ∃ b p, base = some b ∧ prev = some p ∧
      next.refreshCount = p.refreshCount + 1 ∧ next.fault = none ∧
      (p = b ∧ b.fault = none ∨ Shadows b p)
  | fault => ∃ b f, base = some b ∧ prev = some b ∧ b.fault = none ∧ next = b.withFault f ∧
      (o.Obtains ∧ f.kind ≠ .apiRejected ∨ o.Rejects ∧ f.kind = .apiRejected)

/-- The origin that a stored record shows. -/
def Origin.shown (next : Record) : Origin :=
  if next.fault.isSome then fault else if next.refreshCount = 0 then authorization else refresh

/-- A record has only the origin that it shows. -/
theorem Origin.Relates.eq_shown {o : Task} {base prev : Option Record} {next : Record} {k : Origin}
    (h : k.Relates o base prev next) : k = shown next := by
  cases k with
  | authorization =>
    obtain ⟨-, hc, hf⟩ := h
    simp [shown, hc, hf]
  | refresh =>
    obtain ⟨-, b, p, -, -, hc, hf, -⟩ := h
    simp [shown, hc, hf]
  | fault =>
    obtain ⟨b, f, -, -, -, rfl, -⟩ := h
    rfl

/-! ## Runs of a shared store -/

/-- A store that only the runs write to. Clocks and the provider answer as they like, and
a rejection is reported only of a record that some run has made known. -/
def shared : Surroundings where
  World := MemoryStore
  Begins _ given o := ∀ used, o.used? = some used → given used
  Answers _ := MemoryStore.Answers

/-- Since `s₀`, the store held all that stands in the ledger, and the record whose rejection
is reported. -/
structure Traced (s₀ s : MemoryStore) (o : Task) (l : Ledger) : Prop where
  kept : Kept s₀ s l
  used : ∀ used, o.used? = some used → Held s₀ s used

theorem Traced.mono {s₀ s s' : MemoryStore} {o : Task} {l : Ledger} (h : Traced s₀ s o l)
    (hb : s.Becomes s') : Traced s₀ s' o l :=
  ⟨h.kept.mono hb, fun used hu => (h.used used hu).mono hb⟩

theorem Traced.enter {s₀ s s' : MemoryStore} {o : Task} {l : Ledger} {e : Entry Custody}
    (h : Traced s₀ s o l) (hb : s₀.Becomes s) (ha : s.Answers e s') :
    Traced s₀ s' o (l.enter e) :=
  ⟨h.kept.enter hb (.answers ha), fun used hu => (h.used used hu).mono ha.becomes⟩

/-- The record that a run acts on was held by the store. -/
theorem Traced.held {s₀ s : MemoryStore} {o : Task} {l : Ledger} {base : Record}
    (h : Traced s₀ s o l) (hb : Acts o l base) : Held s₀ s base := by
  have hacts : o.used?.or l.found.head? = some base := hb.acted
  cases hu : o.used? with
  | some used =>
    rw [hu, Option.some_or] at hacts
    cases hacts
    exact h.used base hu
  | none =>
    rw [hu, Option.none_or] at hacts
    exact h.kept.found base (List.mem_of_head? hacts)

/-- What is stored of a draft has an origin, if its condition holds. -/
theorem Draft.related {s₀ s : MemoryStore} {o : Task} {l : Ledger} {d : Draft}
    (h : Traced s₀ s o l) (hd : d.Backed o l) (ho : d.Belongs o) (hm : s.meets d.condition = true) :
    ∃ k : Origin, k.Relates o (o.actsOn l) s.current d.record := by
  cases d with
  | successor base next =>
    obtain ⟨g, -, hn⟩ := hd.granted
    obtain ⟨hc, hf, -⟩ := Record.successor_facts hn
    have hcur : s.current = some base := (h.held hd.toActs).current_of_meets hm
    exact ⟨.refresh, ho, base, base, hd.acted, hcur, hc, hf, Or.inl ⟨rfl, hd.unfaulted⟩⟩
  | overShadow base next shadow =>
    obtain ⟨hd, hfound, hown⟩ := hd
    obtain ⟨g, -, hn⟩ := hd.granted
    obtain ⟨hc, hf, -⟩ := Record.successor_facts hn
    have hcur : s.current = some shadow := (h.kept.found shadow hfound).current_of_meets hm
    have hs := shadows_iff.mp hown
    refine ⟨.refresh, ho, base, shadow, hd.acted, hcur, ?_, hf, Or.inr hs⟩
    rw [hs.2.2]
    exact hc
  | fault base f why otherwise =>
    have hcur : s.current = some base := (h.held hd.1).current_of_meets hm
    exact ⟨.fault, base, f, hd.1.acted, hcur, hd.1.unfaulted, rfl, ho⟩
  | first r =>
    obtain ⟨g, hr⟩ := hd
    obtain ⟨hc, hf, -⟩ := Grant.firstRecord_facts hr
    exact ⟨.authorization, ho, hc, hf⟩

/-- What holds of a shared store and the actors around it. -/
structure SharedInvariant (s₀ s : MemoryStore) (c : Cast) : Prop where
  becomes : s₀.Becomes s
  traced : ∀ i a, c i = some a → Traced s₀ s a.task a.ledger
  belongs : ∀ i a, c i = some a → a.stage.Belongs a.task

namespace SharedInvariant

variable {s₀ s s' : MemoryStore} {c : Cast}

theorem start (s₀ : MemoryStore) : SharedInvariant s₀ s₀ fun _ => none :=
  ⟨.same, fun _ _ hi => (nomatch hi), fun _ _ hi => (nomatch hi)⟩

/-- A record that some run has made known was held by the store. -/
theorem held (h : SharedInvariant s₀ s c) {r : Record} (hr : c.Gave r) : Held s₀ s r := by
  obtain ⟨i, a, ha, hr⟩ := hr
  exact hr.held (h.traced i a ha).kept

/-- A run may begin with any record that some run has made known. -/
theorem begin (h : SharedInvariant s₀ s c) {i : Nat} {o : Task}
    (ho : ∀ used, o.used? = some used → c.Gave used) :
    SharedInvariant s₀ s (Function.update c i (some (.begin o))) :=
  ⟨h.becomes,
    forall_update ⟨.blank s₀ s, fun used hu => h.held (ho used hu)⟩
      fun j b _ hj => h.traced j b hj,
    forall_update (P := fun _ (a : Actor) => a.stage.Belongs a.task) (Stage.belongs_start o)
      fun j b _ hj => h.belongs j b hj⟩

/-- One move of one run keeps what holds of all. -/
theorem move (h : SharedInvariant s₀ s c) {i : Nat} {a : Actor} {e : Entry Custody}
    {stage : Stage} (hi : c i = some a) (hm : Move a.task a.stage e stage)
    (ha : s.Answers e s') :
    SharedInvariant s₀ s' (Function.update c i (some (a.after hm))) :=
  ⟨h.becomes.trans ha.becomes,
    forall_update ((h.traced i a hi).enter h.becomes ha)
      fun j b _ hj => (h.traced j b hj).mono ha.becomes,
    forall_update (P := fun _ (a : Actor) => a.stage.Belongs a.task)
      (hm.belongs (h.belongs i a hi)) fun j b _ hj => h.belongs j b hj⟩

/-- What an actor is about to write has an origin, if the condition for it holds. -/
theorem related (h : SharedInvariant s₀ s c) {i : Nat} {a : Actor} {next : Record}
    {cond : WriteCondition} {x : Except Error Version} {stage : Stage} (hi : c i = some a)
    (hm : Move a.task a.stage (.called (.write next cond) x) stage)
    (hmeets : s.meets cond = true) :
    ∃ k : Origin, k.Relates a.task (a.task.actsOn a.ledger) s.current next := by
  obtain ⟨d, hd, rfl, rfl, -⟩ := hm.write_inv
  have hb := a.backed
  have ho := h.belongs i a hi
  rw [hd] at hb ho
  exact Draft.related (h.traced i a hi) hb.2 ho hmeets

end SharedInvariant

end Coordination

/-! ## What is stored -/

/-- What is stored gets into the history, and the store holds it until more is stored. -/
theorem MemoryStore.Answers.stored {s s' : MemoryStore} {e : Entry Custody} (h : s.Answers e s') :
    s'.history = s.history ++ e.stored?.toList.map Record.bare ∧
      s'.current = e.stored?.or s.current := by
  cases h with
  | asked q a => exact ⟨(List.append_nil _).symm, rfl⟩
  | read => exact ⟨(List.append_nil _).symm, rfl⟩
  | refresh token a => exact ⟨(List.append_nil _).symm, rfl⟩
  | exchange code uri a => exact ⟨(List.append_nil _).symm, rfl⟩
  | write r c =>
    obtain ⟨x, hx, hs⟩ | ⟨-, -, hv, hs⟩ := s.put_cases r c
    · rw [hx, hs]
      exact ⟨(List.append_nil _).symm, rfl⟩
    · rw [hv, hs]
      exact ⟨rfl, s.current_write r⟩

namespace Coordination

/-- The records that were stored in these turns, oldest first. -/
def stored (turns : List (Nat × Entry Custody)) : List Record :=
  pick Entry.stored? (turns.map Prod.snd)

theorem stored_snoc (turns : List (Nat × Entry Custody)) (i : Nat) (e : Entry Custody) :
    stored (turns ++ [(i, e)]) = stored turns ++ e.stored?.toList := by
  simp [stored]

/-- What a store that was `s₀` holds after these turns: the record that was stored last, or what
was there before. -/
def heldAfter (s₀ : MemoryStore) (turns : List (Nat × Entry Custody)) : Option Record :=
  (stored turns).getLast?.or s₀.current

/-- A turn that stores a record leaves it in the store, and any other one what was there. -/
theorem heldAfter_snoc (s₀ : MemoryStore) (turns : List (Nat × Entry Custody)) (i : Nat)
    (e : Entry Custody) :
    heldAfter s₀ (turns ++ [(i, e)]) = e.stored?.or (heldAfter s₀ turns) := by
  unfold heldAfter
  rw [stored_snoc, List.getLast?_append, Option.or_assoc]
  cases e.stored? <;> rfl

namespace System.Unfolds

variable {Suits : Task → Ledger → Entry Custody → Prop} {s₀ : MemoryStore} {σ : System shared}
variable {turns : List (Nat × Entry Custody)}

/-- The turns tell what the store holds and what was ever stored in it. -/
theorem world_eq (h : (still (E := shared) s₀).Unfolds Suits turns σ) :
    σ.world.history = s₀.history ++ (stored turns).map Record.bare ∧
      σ.world.current = heldAfter s₀ turns := by
  induction h with
  | start => exact ⟨(List.append_nil _).symm, rfl⟩
  | begin _ i o hi ho ih => exact ih
  | move _ i hi hs ha _ ih =>
    obtain ⟨hhistory, hcurrent⟩ := MemoryStore.Answers.stored ha
    rw [stored_snoc, heldAfter_snoc, List.map_append, ← List.append_assoc, ← ih.1, ← ih.2]
    exact ⟨hhistory, hcurrent⟩

/-- At the end of any turns the actors have kept the invariant. -/
theorem invariant (h : (still (E := shared) s₀).Unfolds Suits turns σ) :
    ∃ c : Cast, c.Plays σ ∧ SharedInvariant s₀ σ.world c :=
  h.staged (SharedInvariant s₀) (.start s₀)
    (fun _ _ _ _ _ hc hg _ ho => hc.begin fun used hu => hg used (ho used hu))
    (fun _ _ _ _ _ _ _ hm hc hi ha _ => hc.move hi hm ha)

/-- What a run stores next has an origin. -/
theorem related (h : (still (E := shared) s₀).Unfolds Suits turns σ) {i : Nat} {run : Run}
    {next : Record} {cond : WriteCondition} {v : Version} {rest : Program Custody Result}
    {s : MemoryStore} (hi : σ.runs i = some run)
    (hs : run.rest.Step (.called (S := Custody) (.write next cond) (.ok v)) rest)
    (ha : σ.world.Answers (.called (S := Custody) (.write next cond) (.ok v)) s) :
    ∃ k : Origin, k.Relates run.task (run.task.actsOn (.of (seenBy i turns)))
      (heldAfter s₀ turns) next := by
  obtain ⟨c, hp, hc⟩ := h.invariant
  obtain ⟨a, hai, hpa⟩ := hp.actor hi
  obtain ⟨stage, hm, -⟩ := hpa.step hs
  obtain ⟨-, hmeets, -, -⟩ := MemoryStore.put_of_ok ha.write_inv.1
  have hk := hc.related hai hm hmeets
  rwa [hpa.task, hpa.ledger, (h.ledger_eq i).1 run hi, h.world_eq.2] at hk

end System.Unfolds

/-- **Where stored records come from.** The history of a store that any number of runs share is
what was stored in their turns. Each record that was stored has exactly one origin: it is the
first record of an authorization, and a run that completes one stored it; or it is one refresh
further than the record in whose place it was stored, and a run that obtains a token stored it,
which acted on that record or found it with a fault of the provider on it; or it is the record
in whose place it was stored with a fault on it, and a run stored it that acted on that record. -/
theorem lineage {s₀ : MemoryStore} {turns : List (Nat × Entry Custody)} {σ : System shared}
    (h : (System.still (E := shared) s₀).Unfolds (fun _ _ _ => True) turns σ) :
    σ.world.history = s₀.history ++ (stored turns).map Record.bare ∧
    σ.world.current = heldAfter s₀ turns ∧
    ∀ before i next cond v after,
      turns = before ++ (i, .called (S := Custody) (.write next cond) (.ok v)) :: after →
      ∃ run, σ.runs i = some run ∧
        ∃! k : Origin, k.Relates run.task (run.task.actsOn (.of (System.seenBy i before)))
          (heldAfter s₀ before) next := by
  refine ⟨h.world_eq.1, h.world_eq.2, fun before i next cond v after hturns => ?_⟩
  obtain ⟨σ', run', rest, w, hbefore, hi', hs, ha, run, hi, htask⟩ := h.turn hturns
  obtain ⟨k, hk⟩ := hbefore.related hi' hs ha
  refine ⟨run, hi, k, ?_, fun k' hk' => hk'.eq_shown.trans hk.eq_shown.symm⟩
  rw [htask]
  exact hk

/-- The record that the plainest run stores is one refresh further than the one that it has
read. -/
theorem lineage_of_sample :
    ∃ (turns : List (Nat × Entry Custody)) (σ : System shared) (run : Run),
      (System.still (E := shared) (.seeded Sample.base)).Unfolds (fun _ _ _ => True) turns σ ∧
      turns = Sample.seen.map (0, ·) ++ [(0, Sample.write)] ∧
      σ.runs 0 = some run ∧ run.task = Sample.task ∧
      σ.world.history = [Sample.next] ∧
      Origin.refresh.Relates run.task (some Sample.held) (some Sample.held) Sample.next := by
  obtain ⟨p, hp⟩ := Sample.exists_run
  obtain ⟨q, hq⟩ := Sample.exists_write hp
  have hstart : (System.still (E := shared) (.seeded Sample.base)).Unfolds (fun _ _ _ => True)
    [] _ := .start
  have hbegun := hstart.begin 0 Sample.task rfl fun _ hu => by cases hu
  have hseen := hbegun.goOn (i := 0) rfl Sample.answered
    ⟨trivial, trivial, trivial, trivial, trivial, trivial, trivial, trivial, trivial⟩ hp
  have hwritten := hseen.move 0 rfl (Program.step_of_advance hq) Sample.written trivial
  obtain ⟨hhistory, -, horigin⟩ := lineage hwritten
  obtain ⟨run, hrun, k, hk, -⟩ := horigin _ 0 _ _ _ [] rfl
  cases hrun
  obtain rfl : k = .refresh := hk.eq_shown
  exact ⟨_, _, _, hwritten, rfl, rfl, rfl, hhistory.trans rfl, hk⟩

end Coordination

end TokenCustody
