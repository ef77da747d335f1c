/-
TokenCustody.Proofs.Coordination.Secrecy — what invocations tell of tokens.

Nothing that an invocation tells depends on what a token is. To say so,
two invocations are compared that differ in the names of all tokens: in
the record that the store holds at the start, in the records that others
write, and in what the provider grants. Everything else is the same in
both, the clocks and how long everything takes included. Then both end in
the same report with the same sums, count the same at the same times and
make as many writes, and whoever looks at the store after that is told the
same (`Script.observe_renamed`).

Surroundings in which this can be said are a `Script`: whatever is asked
of them, the answer and the time it takes follow from how far they have
come. The provider may look at the refresh token that it is handed, so a
script may refuse one that is used twice; it has to treat the renamed one
alike.
-/
import TokenCustody.Proofs.Coordination.Renaming
import TokenCustody.Proofs.Coordination.Serving
import TokenCustody.Proofs.Store.Calls

namespace TokenCustody

open TokenCustody.Time

/-! ## Stores under other names -/

namespace Renaming

variable (ρ : Renaming)

/-- The store with the tokens of all its records renamed. -/
def store (s : MemoryStore) : MemoryStore :=
  { s with slot := s.slot.map ρ.record, history := s.history.map ρ.record }

/-- The call with the tokens of its record renamed. -/
def storeCall : StoreCall → StoreCall
  | .get => .get
  | .put r c => .put (ρ.record r) c

theorem initial_map_record (seed : Option Record) :
    MemoryStore.initial (seed.map ρ.record) = ρ.store (.initial seed) := by
  cases seed <;> rfl

/-- A renamed store holds the renamed record. -/
theorem current_store (s : MemoryStore) : (ρ.store s).current = s.current.map ρ.record := by
  obtain ⟨_ | r, _, _⟩ := s <;> rfl

/-- Conditions ask for versions, which are not renamed. -/
theorem meets_store (s : MemoryStore) (c : WriteCondition) : (ρ.store s).meets c = s.meets c := by
  obtain ⟨_ | r, _, _⟩ := s <;> cases c <;> rfl

theorem write_store (s : MemoryStore) (r : Record) :
    (ρ.store s).write (ρ.record r) = ρ.store (s.write r) := by
  simp [MemoryStore.write, store, bare_record]

/-- A write of a renamed record is answered as before, and leaves the renamed store. -/
theorem put_store (s : MemoryStore) (r : Record) (c : WriteCondition) :
    (ρ.store s).put (ρ.record r) c = Prod.map id ρ.store (s.put r c) := by
  rw [MemoryStore.put, MemoryStore.put, checked_record]
  cases r.checked with
  | error e => rfl
  | ok _ =>
    dsimp only [Except.map]
    rw [meets_store, write_store]
    split <;> rfl

theorem after_store (s : MemoryStore) (call : StoreCall) :
    (ρ.store s).after (ρ.storeCall call) = ρ.store (s.after call) := by
  cases call with
  | get => rfl
  | put r c => exact congrArg Prod.snd (ρ.put_store s r c)

/-- Any number of calls of others leave the renamed store. -/
theorem afterAll_store (s : MemoryStore) (calls : List StoreCall) :
    (ρ.store s).afterAll (calls.map ρ.storeCall) = ρ.store (s.afterAll calls) := by
  induction calls generalizing s with
  | nil => rfl
  | cons call calls ih =>
    rw [List.map_cons, MemoryStore.afterAll_cons, MemoryStore.afterAll_cons, after_store, ih]

end Renaming

/-! ## Surroundings that follow a script -/

/-- What the surroundings of a program do, and how long that takes. -/
structure Script (World : Type) where
  /-- The answers to questions. -/
  ambient : (q : Ambient) → World → q.Reply × World
  /-- The time of the calendar when something is counted. -/
  stamp : World → Instant
  /-- What others do to the store before it answers a call. -/
  peers : World → List StoreCall × World
  /-- The answer of the provider to a refresh token. -/
  refresh : String → World → Except Error Grant × World
  /-- The answer of the provider to a code. -/
  exchange : String → String → World → Except Error Grant × World

/-- The surroundings of a program, with the store and with what was counted. -/
structure Scene (World : Type) where
  world : World
  store : MemoryStore
  log : MetricLog

/-- What can be seen of an invocation, and of a look at the store after it. -/
structure Observation where
  /-- There is none if a date lay beyond the calendar. -/
  report : Option Report
  /-- The line of the report. -/
  line : Option String
  stats : Option RetryStats
  metrics : MetricLog
  /-- How many records were written, by the invocation and by others. -/
  writes : Nat
  /-- The status report. -/
  status : Option (Except Error Json.Value)

namespace Script

variable {World : Type}

/-- The answer to a question. What is to be counted is counted at once. -/
def ask (S : Script World) (q : Ambient) : StateM (Scene World) q.Reply := fun σ =>
  let answer := S.ambient q σ.world
  let log := match q with
    | .emit m => σ.log.record m (S.stamp σ.world)
    | _ => σ.log
  (answer.1, { σ with world := answer.2, log })

/-- The answer to a call. The store answers after others have been there. -/
def answer (S : Script World) : (r : Custody.Request) → StateM (Scene World) (Custody.Reply r)
  | .read => fun σ =>
    let peers := S.peers σ.world
    let store := σ.store.afterAll peers.1
    (.ok store.current, { σ with world := peers.2, store })
  | .write r c => fun σ =>
    let peers := S.peers σ.world
    let written := (σ.store.afterAll peers.1).put r c
    (written.1, { σ with world := peers.2, store := written.2 })
  | .refresh token => fun σ =>
    let answer := S.refresh token σ.world
    (answer.1, { σ with world := answer.2 })
  | .exchange code uri => fun σ =>
    let answer := S.exchange code uri σ.world
    (answer.1, { σ with world := answer.2 })

/-- The result of a program in these surroundings, and what they are then. -/
def play {α : Type} (S : Script World) (p : Program Custody α) : StateM (Scene World) (Option α) :=
  p.run S.ask S.answer

/-- What is seen of an invocation that starts in the world `w` with a store that holds `seed`,
and of a look at the store when the world has become `later` of what it was at the end. -/
def observe (S : Script World) (cfg : Settings) (w : World) (seed : Option Record)
    (later : World → World) : Observation :=
  let start : Scene World := ⟨w, .initial seed, []⟩
  let ended := S.play (invoke cfg) start
  let looked := S.play (lookAt cfg) { ended.2 with world := later ended.2.world }
  { report := ended.1
    line := ended.1.map Report.render
    stats := (S.play (invocation cfg) start).1.map Prod.snd
    metrics := ended.2.log
    writes := ended.2.store.history.length
    status := looked.1.map (Except.map StatusReport.toJson) }

/-- The same surroundings, but for the names of the tokens that others write and that the
provider is handed and grants. -/
structure RenamedBy (ρ : Renaming) (S S' : Script World) : Prop where
  ambient : S'.ambient = S.ambient
  stamp : S'.stamp = S.stamp
  peers : ∀ w, S'.peers w = Prod.map (List.map ρ.storeCall) id (S.peers w)
  refresh : ∀ token w,
    S'.refresh (ρ token) w = Prod.map (Except.map ρ.grant) id (S.refresh token w)
  exchange : ∀ code uri w,
    S'.exchange code uri w = Prod.map (Except.map ρ.grant) id (S.exchange code uri w)

end Script

/-- The scene with all tokens in the store renamed. -/
def Renaming.scene {World : Type} (ρ : Renaming) (σ : Scene World) : Scene World :=
  { σ with store := ρ.store σ.store }

namespace Script.RenamedBy

variable {World : Type} {ρ : Renaming} {S S' : Script World}

/-- Questions are answered alike, and the same is counted. -/
theorem ask_scene (h : S.RenamedBy ρ S') (q : Ambient) (σ : Scene World) :
    S'.ask q (ρ.scene σ) = Prod.map id ρ.scene (S.ask q σ) := by
  unfold Script.ask
  rw [h.ambient, h.stamp]
  rfl

/-- A call with renamed tokens gets the renamed answer, and leaves behind the renamed scene. -/
theorem answer_scene (h : S.RenamedBy ρ S') (r : Custody.Request) (σ : Scene World) :
    S'.answer (ρ.custody.request r) (ρ.scene σ) =
      Prod.map (ρ.custody.reply r) ρ.scene (S.answer r σ) := by
  cases r with
  | read =>
    simp only [Script.answer, Renaming.custody, Renaming.scene, h.peers, Prod.map,
      ρ.afterAll_store, ρ.current_store]
    rfl
  | write r c =>
    simp only [Script.answer, Renaming.custody, Renaming.scene, h.peers, Prod.map,
      ρ.afterAll_store, ρ.put_store]
    rfl
  | refresh token =>
    simp only [Script.answer, Renaming.custody, Renaming.scene, h.refresh]
    rfl
  | exchange code uri =>
    simp only [Script.answer, Renaming.custody, Renaming.scene, h.exchange]
    rfl

/-- **Programs in parallel play alike in scenes that are renamed.** -/
theorem play_scene {α β : Type} {f : α → β} {p : Program Custody α} {p' : Program Custody β}
    (h : S.RenamedBy ρ S') (hp : p.Parallel ρ.custody f p') (σ : Scene World) :
    S'.play p' (ρ.scene σ) = Prod.map (Option.map f) ρ.scene (S.play p σ) :=
  hp.run h.ask_scene h.answer_scene σ

/-- Programs in parallel whose result does not change come to the same one. -/
theorem play_same {α : Type} {p p' : Program Custody α} (h : S.RenamedBy ρ S')
    (hp : p.Parallel ρ.custody id p') (σ : Scene World) :
    S'.play p' (ρ.scene σ) = Prod.map id ρ.scene (S.play p σ) := by
  rw [h.play_scene hp, Option.map_id]

end Script.RenamedBy

/-! ## Nothing is told of tokens -/

namespace Script

variable {World : Type}

/-- Whoever sees an invocation, and looks at the store after it, sees the same under all names
of tokens. -/
theorem observe_renamed {ρ : Renaming} {S S' : Script World} (h : S.RenamedBy ρ S')
    (cfg : Settings) (w : World) (seed : Option Record) (later : World → World) :
    S'.observe cfg w (seed.map ρ.record) later = S.observe cfg w seed later := by
  have hended := h.play_same (invoke_parallel ρ cfg) ⟨w, .initial seed, []⟩
  have hstats := h.play_same (invocation_parallel ρ cfg) ⟨w, .initial seed, []⟩
  have hlooked (σ : Scene World) : (S'.play (lookAt cfg) (ρ.scene σ)).1.map
      (Except.map StatusReport.toJson) =
        (S.play (lookAt cfg) σ).1.map (Except.map StatusReport.toJson) := by
    rw [h.play_scene (lookAt_parallel ρ cfg), Prod.map_fst, Option.map_map]
    exact congrArg (Option.map · _) (funext ρ.map_toJson_status)
  dsimp only [Renaming.scene] at hended hstats
  rw [observe, observe, ρ.initial_map_record, hended, hstats]
  obtain ⟨x, σ⟩ := S.play (invoke cfg) ⟨w, .initial seed, []⟩
  have hwrites : (ρ.store σ.store).history.length = σ.store.history.length := List.length_map ..
  exact congrArg₂ (Observation.mk _ _ _ _) hwrites (hlooked { σ with world := later σ.world })

/-! ### An invocation to look at

While it refreshes, another run has been refused the refresh token that it has traded in, and has
declared the record unusable. It recognizes the fault and stores its grant over it. -/

namespace Sample

open Coordination.Sample (base grant)

/-- Every token keeps its name. -/
def same : Renaming := ⟨id, Function.injective_id, rfl⟩

/-- Every token gets a longer name. -/
def longer : Renaming where
  toFun token := if token = "" then "" else "another " ++ token
  injective s t h := by
    dsimp only at h
    split at h <;> split at h
    · next hs ht => rw [hs, ht]
    · simp at h
    · simp at h
    · exact (String.append_right_inj "another ").mp h
  empty := rfl

/-- All clocks stand still. -/
def answer : (q : Ambient) → q.Reply
  | .now => .epoch
  | .timer => .zero
  | .draw => 0.5
  | .bytes _ => []
  | .sleep _ | .emit _ | .tally _ => ()

/-- The world counts the calls to the store. Before the second one the record is declared
unusable. The provider knows one refresh token. -/
def script (ρ : Renaming) : Script Nat where
  ambient q w := (answer q, w)
  stamp _ := .epoch
  peers w :=
    let fault : Fault := ⟨.invalidGrant, "used before", .epoch⟩
    (if w = 1 then [.put ((ρ.record base).withFault fault) (.holds (MemoryStore.versionOf 1))]
      else [], w + 1)
  refresh token w :=
    (if token = ρ "refresh 1" then .ok (ρ.grant grant)
      else .error (.provider (.invalidGrant "unknown")), w)
  exchange _ _ w := (.ok (ρ.grant grant), w)

theorem renamedBy (ρ : Renaming) : (script same).RenamedBy ρ (script ρ) where
  ambient := rfl
  stamp := rfl
  peers w := by
    unfold script
    dsimp only [Prod.map, id]
    rw [ρ.withFault_record]
    split <;> rfl
  refresh token w := by
    simp only [script, same, Prod.map, id, ρ.apply_eq_apply_iff]
    by_cases h : token = "refresh 1" <;> simp only [h] <;> rfl
  exchange _ _ _ := rfl

end Sample

open Sample

/-- Under longer names, too, one record is written over the fault of another run. -/
theorem observe_renamed_of_sample :
    (script same).RenamedBy longer (script longer) ∧
    (script longer).observe .default 0 (some (longer.record Coordination.Sample.base)) id =
      (script same).observe .default 0 (some Coordination.Sample.base) id ∧
    ((script same).observe .default 0 (some Coordination.Sample.base) id).writes = 2 ∧
    ((script same).observe .default 0 (some Coordination.Sample.base) id).line =
      some ("\x7b\"status\":\"refreshed\",\"refresh_count\":1," ++
        "\"expires_at\":\"1970-01-01T00:01:00Z\",\"attempts\":3\x7d") := by
  have hseed := observe_renamed (renamedBy longer) .default 0 (some Coordination.Sample.base) id
  exact ⟨renamedBy longer, hseed, by decide +kernel, by decide +kernel⟩

end Script

end TokenCustody
