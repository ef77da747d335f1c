/-
TokenCustody.Proofs.Coordination.Serving — runs that are served by a store.

A store as a value answers reads with what it holds and writes as
`MemoryStore.put` does. Clocks and the provider answer as they like
(`MemoryStore.Answers`). A store that may also be out of reach fails
calls and is not changed by them (`MemoryStore.MayAnswer`).

Whatever is answered, all that stands in a run's ledger was held by the
store at the version that the ledger says (`Kept`), and stays so when
others write.
-/
import TokenCustody.Proofs.Coordination.Account
import TokenCustody.Proofs.Store.Succession

namespace TokenCustody

/-! ## Answers of a store -/

/-- The store answers a read or a write; everything else is answered in any way. -/
inductive MemoryStore.Answers (s : MemoryStore) : Entry Custody → MemoryStore → Prop where
  | asked (q : Ambient) (a : q.Reply) : Answers s (.asked q a) s
  | read : Answers s (.called .read (.ok s.current)) s
  | write (r : Record) (c : WriteCondition) :
      Answers s (.called (.write r c) (s.put r c).1) (s.put r c).2
  | refresh (token : String) (a : Except Error Grant) :
      Answers s (.called (.refresh token) a) s
  | exchange (code uri : String) (a : Except Error Grant) :
      Answers s (.called (.exchange code uri) a) s

/-- The store answers, or it is out of reach. -/
inductive MemoryStore.MayAnswer (s : MemoryStore) : Entry Custody → MemoryStore → Prop where
  | answers {e : Entry Custody} {s' : MemoryStore} (h : s.Answers e s') : MayAnswer s e s'
  | readFails (e : Error) : MayAnswer s (.called .read (.error e)) s
  | writeFails (r : Record) (c : WriteCondition) (e : Error) :
      MayAnswer s (.called (.write r c) (.error e)) s

/-- Others may have written before the store answers, and it may be out of reach. -/
def MemoryStore.AnswersAmongPeers (s : MemoryStore) (e : Entry Custody) (s' : MemoryStore) :
    Prop := ∃ m, s.Becomes m ∧ m.MayAnswer e s'

namespace MemoryStore

/-- Questions to clocks, draws and counters leave the store as it is. -/
theorem Answers.eq_of_asked {s s' : MemoryStore} {q : Ambient} {a : q.Reply}
    (h : s.Answers (.asked q a) s') : s' = s := by
  cases h
  rfl

/-- A write is answered by `MemoryStore.put`, and nothing else is done to the store. -/
theorem Answers.write_inv {s s' : MemoryStore} {r : Record} {c : WriteCondition}
    {a : Except Error Version} (h : s.Answers (.called (.write r c) a) s') :
    (s.put r c).1 = a ∧ (s.put r c).2 = s' := by
  cases h with
  | write r c => exact ⟨rfl, rfl⟩

/-- A store is changed only by a write that it makes. -/
theorem Answers.cases {s s' : MemoryStore} {e : Entry Custody} (h : s.Answers e s') :
    s' = s ∨ ∃ r c v, e = .called (S := Custody) (.write r c) (.ok v) ∧ s.meets c = true ∧
      s' = s.write r := by
  cases h with
  | write r c =>
    obtain ⟨x, -, hs⟩ | ⟨-, hmeets, hv, hs⟩ := s.put_cases r c
    · exact Or.inl hs
    · rw [hv]
      exact Or.inr ⟨r, c, _, rfl, hmeets, hs⟩
  | _ => exact Or.inl rfl

/-- An answer adds to the history of a store at most. -/
theorem Answers.becomes {s s' : MemoryStore} {e : Entry Custody} (h : s.Answers e s') :
    s.Becomes s' := by
  cases h with
  | write r c => exact .put .same r c
  | _ => exact .same

/-- So does one of a store that may be out of reach. -/
theorem MayAnswer.becomes {s s' : MemoryStore} {e : Entry Custody} (h : s.MayAnswer e s') :
    s.Becomes s' := by
  cases h with
  | answers h => exact h.becomes
  | _ => exact .same

end MemoryStore

/-- A store that answers may have been left alone by others. -/
theorem MemoryStore.Answers.amongPeers {s s' : MemoryStore} {e : Entry Custody}
    (h : s.Answers e s') : s.AnswersAmongPeers e s' := ⟨s, .same, .answers h⟩

/-! ## Ledgers and the store -/

namespace Coordination

open MemoryStore (Held)

/-- Between `s₀` and `s` the store held every record in the ledger, at the version that the
ledger says. -/
structure Kept (s₀ s : MemoryStore) (l : Ledger) : Prop where
  found : ∀ r ∈ l.found, Held s₀ s r
  written : ∀ p ∈ l.written, Held s₀ s (p.1.withVersion p.2)

namespace Kept

variable {s₀ s s' : MemoryStore} {l : Ledger}

/-- Nothing stands in the ledger before the first entry. -/
theorem blank (s₀ s : MemoryStore) : Kept s₀ s .blank :=
  ⟨fun _ h => (nomatch h), fun _ h => (nomatch h)⟩

/-- What was held stays held when others write, as no version is given twice. -/
theorem mono (h : Kept s₀ s l) (hb : s.Becomes s') : Kept s₀ s' l :=
  ⟨fun r hr => (h.found r hr).mono hb, fun p hp => (h.written p hp).mono hb⟩

/-- One entry keeps the ledger true of the store, whatever others wrote before it. -/
theorem enter {e : Entry Custody} (h : Kept s₀ s l) (hb : s₀.Becomes s)
    (ha : s.MayAnswer e s') : Kept s₀ s' (l.enter e) := by
  have hs' := h.mono ha.becomes
  cases ha with
  | readFails e => exact hs'
  | writeFails r c e => exact hs'
  | answers ha =>
    cases ha with
    | asked q a => exact hs'
    | exchange code uri a => exact hs'
    | refresh token a => cases a <;> exact ⟨hs'.found, hs'.written⟩
    | read =>
      refine ⟨fun r hr => ?_, hs'.written⟩
      obtain hr | hr := List.mem_append.mp hr
      · exact hs'.found r hr
      · exact .of_current hb (Option.mem_toList.mp hr)
    | write r c =>
      obtain ⟨e, he, -⟩ | ⟨-, -, hv, hw⟩ := s.put_cases r c
      · rw [he]
        exact hs'
      · rw [hv]
        refine ⟨hs'.found, fun p hp => ?_⟩
        obtain hp | hp := List.mem_append.mp hp
        · exact hs'.written p hp
        · obtain rfl := List.mem_singleton.mp hp
          refine .of_current (hb.trans (.put .same r c)) ?_
          rw [hw]
          exact s.current_write r

/-- A record that is returned with the version of the run's own write is held by the store. -/
theorem stored {r : Record} (h : Kept s₀ s l)
    (hr : ∃ v, r.version = some v ∧ l.written = [(r.bare, v)]) : Held s₀ s r := by
  obtain ⟨v, hv, hw⟩ := hr
  have hp := h.written (r.bare, v) (by rw [hw]; exact List.mem_singleton_self _)
  have he : r.bare.withVersion v = r := by
    cases r
    cases hv
    rfl
  rwa [he] at hp

/-- A record that a run ends with is held by the store. -/
theorem result {o : Task} {x : Result} {r : Record} (h : Kept s₀ s l) (hx : x.Backed o l)
    (hr : x.record? = some r) : Held s₀ s r := by
  match x, hr with
  | .outcome (.ok (.unchanged _)), rfl => exact h.found r hx.2
  | .outcome (.ok (.refreshedByPeer _)), rfl => exact h.found r hx.2
  | .outcome (.ok (.refreshed _)), rfl => exact h.stored hx.1
  | .record (.ok _), rfl => exact h.stored hx
  | .finding (.ok (found, _)), hr => exact h.found r (hx.2 r hr)

end Kept

/-! ## A run to look at

The plainest run that writes: it reads a record whose access token has just expired, is
granted another one and stores it. -/

instance : DecidableEq Custody.Request := inferInstanceAs (DecidableEq CustodyCall)

namespace Sample

/-- So many seconds after the start of 1970. -/
def after (seconds : Int) : Time.Instant := (Time.Instant.ofParts? seconds 0).getD .epoch

/-- An access token that has expired at the start of 1970, and a refresh token for a day. -/
def base : Record :=
  { accessToken := "access 1", refreshToken := "refresh 1", tokenType := "Bearer", scope := none
    issuedAt := .epoch, expiresAt := .epoch
    refreshExpiresAt := after 86400
    lastRefreshAt := none, refreshCount := 0, fault := none, version := none }

/-- The record as it is read. -/
def held : Record := base.withVersion (MemoryStore.seeded base).version

/-- An access token for a minute, and another refresh token for an hour. -/
def grant : Grant :=
  { accessToken := "access 2", refreshToken := some "refresh 2", tokenType := "Bearer"
    scope := none, lifetime := .ofSeconds 60, refreshLifetime := some (.ofSeconds 3600)
    receivedAt := .epoch }

/-- The record that is stored. -/
def next : Record :=
  { accessToken := "access 2", refreshToken := "refresh 2", tokenType := "Bearer", scope := none
    issuedAt := .epoch, expiresAt := after 60
    refreshExpiresAt := after 3600
    lastRefreshAt := some .epoch, refreshCount := 1, fault := none, version := none }

def task : Task := .obtain .default ⟨.ofSeconds 50⟩

/-- What the run sees before it writes, if it is granted `g`. -/
def granted (g : Grant) : List (Entry Custody) :=
  [.asked (.tally .attempt) (), .called (S := Custody) .read (.ok (some held)),
    .asked .now .epoch, .asked (.emit (.state "expired_refreshable")) (),
    .asked (.emit .refreshAttempt) (), .asked (.tally .attempt) (),
    .called (S := Custody) (.refresh "refresh 1") (.ok g), .asked .timer .zero]

/-- The write of a record, and the version that the store gives it. -/
def writing (r : Record) : Entry Custody :=
  .called (S := Custody) (.write r (.replacing held)) (.ok (MemoryStore.versionOf 2))

/-- The store after the write of the record. -/
def renewed : MemoryStore := ((MemoryStore.seeded base).put next (.replacing held)).2

/-- The record that the run ends with. -/
def made : Record := next.withVersion (MemoryStore.versionOf 2)

/-- What the run sees before it writes. -/
def seen : List (Entry Custody) := granted grant

/-- The write. -/
def write : Entry Custody := writing next

/-- All that the run sees, if it is granted `g` and stores `r`. -/
def refreshed (g : Grant) (r : Record) : List (Entry Custody) :=
  granted g ++ [writing r, .asked (.emit (.refresh true)) ()]

/-- All that the run sees. -/
def seenToEnd : List (Entry Custody) := refreshed grant next

/-- The run gets as far as its write. -/
theorem exists_run : ∃ p, seen.foldlM Program.advance task.program = some p :=
  Option.isSome_iff_exists.mp (by decide +kernel)

theorem exists_write {p : Program Custody Result}
    (hp : seen.foldlM Program.advance task.program = some p) : ∃ q, p.advance write = some q := by
  have h : ((seen.foldlM Program.advance task.program).bind (·.advance write)).isSome := by
    decide +kernel
  rw [hp] at h
  exact Option.isSome_iff_exists.mp h

/-- Answered as the store answers it, the write is the end of the run. -/
theorem run_eq : seenToEnd.foldlM Program.advance task.program =
    some (.done (.outcome (.ok (.refreshed (next.withVersion (MemoryStore.versionOf 2)))))) :=
  Program.ends_of_reading (fun _ => Result.eq_outcome) (by decide +kernel)

/-- The store answers the write of any sound record with its second version. -/
theorem stored {r : Record} (hr : r.defect? = none) : (MemoryStore.seeded base).Answers
    (writing r) ((MemoryStore.seeded base).put r (.replacing held)).2 := by
  have hp := MemoryStore.put_of_meets (s := .seeded base) (r := r) (c := .replacing held)
    hr (by decide +kernel)
  have hv : ((MemoryStore.seeded base).put r (.replacing held)).1 =
      .ok (MemoryStore.versionOf 2) := congrArg Prod.fst hp
  have h := MemoryStore.Answers.write (s := .seeded base) r (.replacing held)
  rw [hv] at h
  exact h

/-- The write of the successor is answered by the store. -/
theorem written : (MemoryStore.seeded base).Answers write
    ((MemoryStore.seeded base).put next (.replacing held)).2 :=
  stored (by decide +kernel)

/-- The store gives the answers that the run sees before its write. -/
theorem answered : Answered MemoryStore.Answers (.seeded base) seen (.seeded base) :=
  ⟨_, .asked .., _, .read, _, .asked .., _, .asked .., _, .asked .., _, .asked ..,
    _, .refresh .., _, .asked .., rfl⟩

/-- The store gives all the answers that the run sees. -/
theorem answeredToEnd : Answered MemoryStore.Answers (.seeded base) seenToEnd
    ((MemoryStore.seeded base).put next (.replacing held)).2 :=
  ⟨_, .asked .., _, .read, _, .asked .., _, .asked .., _, .asked .., _, .asked ..,
    _, .refresh .., _, .asked .., _, written, _, .asked .., rfl⟩

end Sample

end Coordination

end TokenCustody
