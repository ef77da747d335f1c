/-
TokenCustody.Store.Memory — a store as a value.

The versions are the numbers of a counter that goes up by one with every
write. The store also remembers every record written into it, oldest
first. Records are held without a version; `current` adds the one that
the store is at.
-/
import TokenCustody.Store.Basic

namespace TokenCustody

/-- A store as a value. -/
structure MemoryStore where
  /-- The record that is held, without version. -/
  slot : Option Record
  /-- The counter behind the versions. -/
  counter : Nat
  /-- Every record that was written, oldest first, without versions. -/
  history : List Record
  deriving DecidableEq

namespace MemoryStore

/-- The store that holds nothing. -/
def empty : MemoryStore := ⟨none, 0, []⟩

/-- The store that holds a record from the start. That is no write. -/
def seeded (r : Record) : MemoryStore := ⟨some r.bare, 1, []⟩

/-- The version for a count. -/
def versionOf (n : Nat) : Version := ⟨String.ofList (Text.decimal n)⟩

/-- The version the store is at. -/
def version (s : MemoryStore) : Version := versionOf s.counter

/-- The record that is held, with its version. -/
def current (s : MemoryStore) : Option Record := s.slot.map fun r => r.withVersion s.version

/-- Whether a condition holds. -/
def meets (s : MemoryStore) : WriteCondition → Bool
  | .holds v => s.slot.isSome && s.version = v
  | .empty => s.slot.isNone
  | .always => true

/-- The store after a record was written. -/
def write (s : MemoryStore) (r : Record) : MemoryStore :=
  ⟨some r.bare, s.counter + 1, s.history ++ [r.bare]⟩

/-- Writes a sound record if the condition holds, and answers with its version. -/
def put (s : MemoryStore) (r : Record) (c : WriteCondition) : Except Error Version × MemoryStore :=
  match r.checked with
  | .error e => (.error e, s)
  | .ok _ =>
    if s.meets c then
      let s := s.write r
      (.ok s.version, s)
    else (.error c.failed, s)

/-- What was written is what the store then holds. -/
theorem current_write (s : MemoryStore) (r : Record) :
    (s.write r).current = some (r.withVersion (s.write r).version) := rfl

/-- A write that was refused has changed nothing. -/
theorem put_of_error {s : MemoryStore} {r : Record} {c : WriteCondition} {e : Error}
    (h : (s.put r c).1 = .error e) : (s.put r c).2 = s := by
  unfold put at h ⊢
  split
  · rfl
  · split
    · next hm => simp_all
    · rfl

/-- A write that was made stored a sound record under a condition that held. -/
theorem put_of_ok {s : MemoryStore} {r : Record} {c : WriteCondition} {v : Version}
    (h : (s.put r c).1 = .ok v) :
    r.checked = .ok r ∧ s.meets c = true ∧ v = (s.write r).version ∧
      (s.put r c).2 = s.write r := by
  unfold put at h ⊢
  split
  · simp_all
  · next hc =>
    split
    · next hm =>
      simp only [hc, hm, if_true, Except.ok.injEq] at h
      refine ⟨?_, hm, h.symm, rfl⟩
      unfold Record.checked at hc ⊢
      split at hc <;> simp_all
    · simp_all

end MemoryStore

end TokenCustody
