/-
TokenCustody.Proofs.Store.Calls — the law of conditional writes.

Whoever shares a store sees nothing of it but the answers to calls, so
that is what its law is about: for any calls in any order, which writes
are made, which versions are told, and what a later read finds.

The store is a slot, a counter and a history, and the versions are the
counter's numbers in digits. All three are fixed by what the calls have
written (`MemoryStore.writes`): the history is these records, the counter
their number, and the slot the last of them. From that the law follows,
since no two numbers have the same digits.
-/
import TokenCustody.Proofs.Store.Succession

namespace TokenCustody

/-- A call to a store. -/
inductive StoreCall where
  | get
  | put (r : Record) (c : WriteCondition)
  deriving DecidableEq

/-- Whether a call asks for a write. -/
def StoreCall.isPut : StoreCall → Bool
  | get => false
  | put _ _ => true

namespace MemoryStore

/-! ## Calls one after the other -/

/-- The store that holds a record from the start, or nothing. -/
def initial : Option Record → MemoryStore
  | none => empty
  | some r => seeded r

/-- The store after a call. -/
def after (s : MemoryStore) : StoreCall → MemoryStore
  | .get => s
  | .put r c => (s.put r c).2

/-- What a call writes, with the version that is answered. -/
def written (s : MemoryStore) : StoreCall → Option (Record × Version)
  | .get => none
  | .put r c => (s.put r c).1.toOption.map fun v => (r, v)

/-- The version in the answer to a call: that of the record that is read, or of the write. -/
def told (s : MemoryStore) : StoreCall → Option Version
  | .get => s.current.bind Record.version
  | .put r c => (s.put r c).1.toOption

/-- The store after calls. -/
def afterAll (s : MemoryStore) (calls : List StoreCall) : MemoryStore := calls.foldl after s

/-- What calls write, oldest first, with the versions that are answered. -/
def writes : MemoryStore → List StoreCall → List (Record × Version)
  | _, [] => []
  | s, call :: calls => (s.written call).toList ++ (s.after call).writes calls

/-- One of the calls has told the version `v`, and `since` is what was written after it. -/
def Told (s : MemoryStore) (calls : List StoreCall) (v : Version)
    (since : List (Record × Version)) : Prop :=
  ∃ before call later, calls = before ++ call :: later ∧
    (s.afterAll before).told call = some v ∧
    since = ((s.afterAll before).after call).writes later

variable {s s' : MemoryStore}

theorem afterAll_cons (s : MemoryStore) (call : StoreCall) (calls : List StoreCall) :
    s.afterAll (call :: calls) = (s.after call).afterAll calls := rfl

theorem afterAll_append (s : MemoryStore) (calls later : List StoreCall) :
    s.afterAll (calls ++ later) = (s.afterAll calls).afterAll later :=
  List.foldl_append ..

/-- A call writes a sound record under the next version, or it changes nothing. -/
theorem after_cases (s : MemoryStore) (call : StoreCall) :
    (s.written call = none ∧ s.after call = s) ∨
      ∃ r, r.defect? = none ∧ s.written call = some (r, (s.write r).version) ∧
        s.after call = s.write r := by
  cases call with
  | get => exact Or.inl ⟨rfl, rfl⟩
  | put r c =>
    obtain ⟨e, he, hs⟩ | ⟨hr, -, hv, hs⟩ := s.put_cases r c
    · exact Or.inl ⟨by simp [written, he, Except.toOption], hs⟩
    · exact Or.inr ⟨r, (Record.checked_ok hr).2, by simp [written, hv, Except.toOption], hs⟩

/-! ## What is fixed by the writes -/

theorem counter_afterAll (s : MemoryStore) (calls : List StoreCall) :
    (s.afterAll calls).counter = s.counter + (s.writes calls).length := by
  induction calls generalizing s with
  | nil => rfl
  | cons call calls ih =>
    rw [afterAll_cons, ih, writes, List.length_append]
    obtain ⟨hw, hs⟩ | ⟨r, -, hw, hs⟩ := s.after_cases call
    · simp [hw, hs]
    · have hc : (s.write r).counter = s.counter + 1 := rfl
      simp only [hw, hs, hc, Option.toList_some, List.length_singleton]
      omega

theorem history_afterAll (s : MemoryStore) (calls : List StoreCall) :
    (s.afterAll calls).history = s.history ++ (s.writes calls).map fun p => p.1.bare := by
  induction calls generalizing s with
  | nil => simp [afterAll, writes]
  | cons call calls ih =>
    rw [afterAll_cons, ih, writes, List.map_append]
    obtain ⟨hw, hs⟩ | ⟨r, -, hw, hs⟩ := s.after_cases call
    · simp [hw, hs]
    · have hh : (s.write r).history = s.history ++ [r.bare] := rfl
      simp [hw, hs, hh]

theorem slot_afterAll (s : MemoryStore) (calls : List StoreCall) :
    (s.afterAll calls).slot = ((s.writes calls).map fun p => p.1.bare).getLast?.or s.slot := by
  induction calls generalizing s with
  | nil => rfl
  | cons call calls ih =>
    rw [afterAll_cons, ih, writes, List.map_append, List.getLast?_append, Option.or_assoc]
    obtain ⟨hw, hs⟩ | ⟨r, -, hw, hs⟩ := s.after_cases call
    · simp [hw, hs]
    · simp [hw, hs, write]

/-- A read finds the last record that was written, at the version that was answered. -/
theorem current_afterAll (s : MemoryStore) (calls : List StoreCall) :
    (s.afterAll calls).current =
      ((s.writes calls).getLast?.map fun p => p.1.withVersion p.2).or s.current := by
  induction calls generalizing s with
  | nil => rfl
  | cons call calls ih =>
    rw [afterAll_cons, ih, writes, List.getLast?_append, Option.map_or, Option.or_assoc]
    obtain ⟨hw, hs⟩ | ⟨r, -, hw, hs⟩ := s.after_cases call
    · simp [hw, hs]
    · simp [hw, hs, current_write]

theorem sound_of_mem_writes {calls : List StoreCall} {p : Record × Version}
    (hp : p ∈ s.writes calls) : p.1.defect? = none := by
  induction calls generalizing s with
  | nil => cases hp
  | cons call calls ih =>
    rw [writes] at hp
    obtain hp | hp := List.mem_append.mp hp
    · obtain ⟨hw, -⟩ | ⟨r, hr, hw, -⟩ := s.after_cases call
      · simp [hw] at hp
      · obtain rfl : p = (r, (s.write r).version) := by simpa [hw] using hp
        exact hr
    · exact ih hp

/-- No more is written than asked for. -/
theorem length_writes_le (s : MemoryStore) (calls : List StoreCall) :
    (s.writes calls).length ≤ calls.countP StoreCall.isPut := by
  induction calls generalizing s with
  | nil => exact Nat.le_refl 0
  | cons call calls ih =>
    rw [writes, List.length_append, List.countP_cons]
    have hle := ih (s.after call)
    cases call with
    | get => simpa [written, StoreCall.isPut] using hle
    | put r c =>
      have hone : (s.written (.put r c)).toList.length ≤ 1 := by
        cases s.written (.put r c) <;> simp
      simp only [StoreCall.isPut, if_true]
      omega

/-! ## Versions that were told -/

/-- The version in an answer is the one that the store is at, and the store holds something. -/
theorem version_of_told {call : StoreCall} {v : Version} (h : s.told call = some v) :
    (s.after call).version = v ∧ (s.after call).slot.isSome := by
  cases call with
  | get =>
    obtain ⟨r, hr, hv⟩ := Option.bind_eq_some_iff.mp h
    obtain ⟨b, hb, -⟩ := Option.map_eq_some_iff.mp hr
    rw [version_of_current hr] at hv
    exact ⟨Option.some.inj hv, by simp [after, hb]⟩
  | put r c =>
    obtain ⟨e, he, -⟩ | ⟨-, -, hv, hs⟩ := s.put_cases r c
    · simp [told, he, Except.toOption] at h
    · obtain rfl : (s.write r).version = v := by simpa [told, hv, Except.toOption] using h
      have hafter : s.after (.put r c) = s.write r := hs
      rw [hafter]
      exact ⟨rfl, rfl⟩

/-- A version that was told stands in front of as many writes as have been made since. -/
theorem Told.version {calls : List StoreCall} {v : Version} {since : List (Record × Version)}
    (h : s.Told calls v since) : ∃ n, v = versionOf n ∧
      (s.afterAll calls).counter = n + since.length ∧ (s.afterAll calls).slot.isSome := by
  obtain ⟨before, call, later, rfl, hv, rfl⟩ := h
  obtain ⟨hversion, hslot⟩ := version_of_told hv
  refine ⟨((s.afterAll before).after call).counter, hversion.symm, ?_, ?_⟩
  · rw [afterAll_append, afterAll_cons, counter_afterAll]
  · rw [afterAll_append, afterAll_cons, slot_afterAll, Option.isSome_or]
    simp [hslot]

/-- A condition on a version that was told holds as long as nothing was written since. -/
theorem Told.meets_iff {calls : List StoreCall} {v : Version} {since : List (Record × Version)}
    (h : s.Told calls v since) :
    (s.afterAll calls).meets (.holds v) = true ↔ since = [] := by
  obtain ⟨n, rfl, hc, hslot⟩ := h.version
  simp only [meets, hslot, Bool.true_and, decide_eq_true_eq, MemoryStore.version, versionOf_inj,
    hc, ← List.length_eq_zero_iff]
  omega

/-! ## Records that were held -/

theorem Becomes.exists_calls (h : s.Becomes s') : ∃ calls, s' = s.afterAll calls := by
  induction h with
  | same => exact ⟨[], rfl⟩
  | put _ r c ih =>
    obtain ⟨calls, rfl⟩ := ih
    refine ⟨calls ++ [.put r c], ?_⟩
    rw [afterAll_append]
    rfl

/-- Of two stores that became of one store and have become the same, the histories are as
long as the counters say. So at one count there was one store's content. -/
theorem Becomes.current_eq {s₀ m m' : MemoryStore} (h : s₀.Becomes m) (h' : s₀.Becomes m')
    (hs : m.Becomes s) (hs' : m'.Becomes s) (hc : m.counter = m'.counter) :
    m.current = m'.current := by
  obtain ⟨calls, rfl⟩ := h.exists_calls
  obtain ⟨calls', rfl⟩ := h'.exists_calls
  obtain ⟨later, hlater⟩ := hs.exists_calls
  obtain ⟨later', hlater'⟩ := hs'.exists_calls
  have hlength : (s₀.writes calls).length = (s₀.writes calls').length := by
    rw [counter_afterAll, counter_afterAll] at hc
    omega
  have hall := hlater.symm.trans hlater'
  have hhistory : ((s₀.afterAll calls).afterAll later).history =
      ((s₀.afterAll calls').afterAll later').history := by rw [hall]
  simp only [history_afterAll, List.append_assoc, List.append_cancel_left_eq] at hhistory
  obtain ⟨hwrites, -⟩ := List.append_inj hhistory (by simpa using hlength)
  rw [MemoryStore.current, MemoryStore.current, MemoryStore.version, MemoryStore.version, hc,
    slot_afterAll, slot_afterAll, hwrites]

/-- Two records that were held at the same version are the same record. -/
theorem Held.eq_of_version_eq {s₀ : MemoryStore} {r r' : Record} (h : Held s₀ s r)
    (h' : Held s₀ s r') (hv : r.version = r'.version) : r = r' := by
  obtain ⟨m, hb, hs, hr⟩ := h
  obtain ⟨m', hb', hs', hr'⟩ := h'
  rw [version_of_current hr, version_of_current hr', Option.some.injEq] at hv
  have hcur := hb.current_eq hb' hs hs' (versionOf_inj.mp hv)
  rw [hr, hr'] at hcur
  exact Option.some.inj hcur

/-! ## The law -/

/-- What holds of a store `s` after calls to a store that held `seed` from the start. -/
structure Lawful (seed : Option Record) (calls : List StoreCall) (s : MemoryStore) : Prop where
  /-- A write is made exactly if the record is sound and the condition holds. -/
  made : ∀ r c, s.written (.put r c) =
    if r.defect? = none ∧ s.meets c = true then some (r, versionOf (s.counter + 1)) else none
  /-- A write that is not made changes nothing. -/
  refused : ∀ r c, r.defect? ≠ none ∨ s.meets c = false → s.after (.put r c) = s
  /-- A condition on a version that was told holds exactly if nothing was written since. -/
  holds : ∀ v since, (initial seed).Told calls v since →
    (s.meets (.holds v) = true ↔ since = [])
  /-- A first record can be written exactly where there is none. -/
  empty : s.meets .empty = true ↔ s.current = none
  always : s.meets .always = true
  /-- A version that was told is not given again. -/
  fresh : ∀ r c v, (s.put r c).1 = .ok v →
    ∀ v' since, (initial seed).Told calls v' since → v ≠ v'
  /-- The history is what was written, in order and without versions. -/
  history : s.history = ((initial seed).writes calls).map fun p => p.1.bare
  sound : ∀ r ∈ s.history, r.defect? = none
  /-- The counter has gone up by one with every write. -/
  counter : s.counter = s.history.length + seed.toList.length
  /-- A word of 64 bits is enough for the counter. -/
  word : calls.countP StoreCall.isPut < UInt64.size - 1 → s.counter < UInt64.size
  /-- A read finds the last record that was written, at the version that was answered, or
  else the one that was there from the start. -/
  current : s.current = (((initial seed).writes calls).getLast?.map fun p =>
    p.1.withVersion p.2).or (seed.map fun r => r.withVersion (versionOf 1))

theorem written_put (s : MemoryStore) (r : Record) (c : WriteCondition) :
    s.written (.put r c) =
      if r.defect? = none ∧ s.meets c = true then some (r, versionOf (s.counter + 1))
      else none := by
  split
  · next h =>
    rw [written, put_of_meets h.1 h.2]
    rfl
  · next h =>
    obtain ⟨e, he, -⟩ | ⟨hr, hm, -, -⟩ := s.put_cases r c
    · rw [written, he]
      rfl
    · exact absurd ⟨(Record.checked_ok hr).2, hm⟩ h

/-- After any calls, in any order, a store is lawful. -/
theorem conditional_writes (seed : Option Record) (calls : List StoreCall) :
    Lawful seed calls ((initial seed).afterAll calls) := by
  have hhistory : ((initial seed).afterAll calls).history =
      ((initial seed).writes calls).map fun p => p.1.bare := by
    rw [history_afterAll]
    cases seed <;> rfl
  have hcounter : ((initial seed).afterAll calls).counter =
      ((initial seed).writes calls).length + seed.toList.length := by
    rw [counter_afterAll, Nat.add_comm]
    cases seed <;> rfl
  refine
    { made := written_put _
      refused := fun r c h => ?_
      holds := fun v since h => h.meets_iff
      empty := ?_
      always := rfl
      fresh := fun r c v hv v' since h => ?_
      history := hhistory
      sound := fun r hr => ?_
      counter := by rw [hcounter, hhistory, List.length_map]
      word := fun h => ?_
      current := ?_ }
  · obtain ⟨-, hs⟩ | ⟨r', -, hw, -⟩ :=
      after_cases ((initial seed).afterAll calls) (.put r c)
    · exact hs
    · rw [written_put] at hw
      split at hw
      · next hd =>
        obtain h | h := h
        · exact absurd hd.1 h
        · rw [hd.2] at h
          cases h
      · cases hw
  · simp [meets, MemoryStore.current]
  · obtain ⟨-, -, rfl, -⟩ := put_of_ok hv
    obtain ⟨n, rfl, hc, -⟩ := h.version
    intro heq
    have hnext : ((initial seed).afterAll calls).counter + 1 = n := versionOf_inj.mp heq
    omega
  · rw [hhistory] at hr
    obtain ⟨p, hp, rfl⟩ := List.mem_map.mp hr
    exact sound_of_mem_writes hp
  · have hle := (initial seed).length_writes_le calls
    have hseed : seed.toList.length ≤ 1 := by cases seed <;> simp
    omega
  · rw [current_afterAll]
    cases seed <;> rfl

end MemoryStore

end TokenCustody
