/-
TokenCustody.Proofs.Authorization.Guards — nothing before every check.

What a browser brings back is let through five guards, one after the
other, and only if all of them let it pass its code is traded for a grant,
once. Only a grant that makes a sound record leads to a write, again once,
over whatever is there. `Completion` lists all whole runs of
`Authorization.complete`; there are six ways for one to go.

Of a store that is served by nobody else this leaves two ends. A run that
fails has not touched it, and after one that does not fail it holds the
new record.

The guard that matters most compares the random text of the session with
what came back. A session of `begin` has a text of 43 characters, so an
answer without a text never passes.
-/
import Mathlib.Logic.Basic
import TokenCustody.Proofs.Coordination.Seen
import TokenCustody.Proofs.Coordination.Serving
import TokenCustody.Proofs.Text.Base64
import TokenCustody.Proofs.Token.Record

namespace TokenCustody.Authorization

open TokenCustody.Program
open TokenCustody.Text
open TokenCustody.Time

/-! ## Guards -/

/-- What is checked before a code is traded for a grant. -/
inductive Guard where
  /-- The session waits for an answer. -/
  | phase
  /-- The provider reports no error. -/
  | consent
  /-- The answer belongs to the session. -/
  | nonce
  /-- The answer came in time. -/
  | time
  /-- There is a code. -/
  | code
  deriving DecidableEq

namespace Guard

/-- The guards in the order in which they check. -/
def inOrder : List Guard := [phase, consent, nonce, time, code]

/-- The guards that check before this one. -/
def earlier (g : Guard) : List Guard := inOrder.takeWhile (· ≠ g)

/-- The guard lets an answer pass. An answer without a text has the empty text. -/
def Passes (s : Session) (c : Callback) (now : Instant) : Guard → Prop
  | phase => s.phase = .awaitingCallback
  | consent => c.error = none
  | nonce => s.nonce.toUTF8 = (c.state.getD "").toUTF8
  | time => now < s.expiresAt
  | code => ∃ text, c.code = some text ∧ text ≠ ""

/-- What a run fails with that this guard has stopped. -/
def error (s : Session) (c : Callback) : Guard → Error
  | phase => .authorization (.unexpectedPhase s.phase.name)
  | consent => .authorization (.denied c.errorDescription c.errorUri)
  | nonce => .authorization (.stateMismatch s.nonce (c.state.getD ""))
  | time => .authorization (.expiredCode "authorization session expired before the callback")
  | code => .authorization .missingCode

end Guard

section Checks

variable {s : Session} {c : Callback} {now : Instant}

theorem passes_consent : Guard.consent.Passes s c now ↔ ¬c.isError = true := by
  simp [Guard.Passes, Callback.isError]

theorem passes_nonce : Guard.nonce.Passes s c now ↔ s.matchesState (c.state.getD "") = true := by
  simp only [Guard.Passes, Session.matchesState, decide_eq_true_eq]
  exact String.toByteArray_inj

theorem passes_time : Guard.time.Passes s c now ↔ ¬s.isExpired now = true := by
  simp only [Session.isExpired, decide_eq_true_eq]
  exact Iff.rfl

theorem passes_code : Guard.code.Passes s c now ↔ c.code.filter (· ≠ "") ≠ none := by
  cases h : c.code <;> simp [Guard.Passes, h]

/-- Three guards look at the answer alone. -/
theorem acceptedState_ok (hphase : Guard.phase.Passes s c now)
    (hconsent : Guard.consent.Passes s c now) (hnonce : Guard.nonce.Passes s c now) :
    acceptedState s c = .ok c.code := by
  have hwaits : ¬s.phase ≠ .awaitingCallback := not_not.mpr hphase
  have hmatches : ¬(!s.matchesState (c.state.getD "")) = true := by
    simp [passes_nonce.mp hnonce]
  unfold acceptedState
  rw [if_neg hwaits, if_neg (passes_consent.mp hconsent), if_neg hmatches]

/-- Then come the clock and the code. -/
theorem acceptedCode_of_state (h : acceptedState s c = .ok c.code) :
    acceptedCode s c now =
      if s.isExpired now then .error (Guard.time.error s c)
      else
        match c.code.filter (· ≠ "") with
        | some text => .ok text
        | none => .error (Guard.code.error s c) := by
  unfold acceptedCode
  rw [h]
  cases s.isExpired now with
  | true => rfl
  | false =>
    show (match c.code.filter (· ≠ "") with
      | some code => pure code
      | none => throw (.authorization .missingCode) : Except Error String) = _
    cases c.code.filter (· ≠ "") <;> rfl

/-- The first guard that does not let an answer pass says what is wrong with it. -/
theorem acceptedCode_error {g : Guard} (hearlier : ∀ g' ∈ g.earlier, g'.Passes s c now)
    (hg : ¬g.Passes s c now) : acceptedCode s c now = .error (g.error s c) := by
  cases g with
  | phase =>
    have hphase : s.phase ≠ .awaitingCallback := hg
    unfold acceptedCode acceptedState
    rw [if_pos hphase]
    rfl
  | consent =>
    have hphase : s.phase = .awaitingCallback := hearlier .phase (by decide)
    have hconsent : c.isError = true := by rwa [passes_consent, not_not] at hg
    unfold acceptedCode acceptedState
    rw [if_neg (not_not.mpr hphase), if_pos hconsent]
    rfl
  | nonce =>
    have hphase : s.phase = .awaitingCallback := hearlier .phase (by decide)
    have hconsent := passes_consent.mp (hearlier .consent (by decide))
    have hnonce : (!s.matchesState (c.state.getD "")) = true := by
      rwa [passes_nonce, Bool.not_eq_true, ← Bool.not_eq_true'] at hg
    unfold acceptedCode acceptedState
    rw [if_neg (not_not.mpr hphase), if_neg hconsent, if_pos hnonce]
    rfl
  | time =>
    have hstate := acceptedState_ok (hearlier .phase (by decide))
      (hearlier .consent (by decide)) (hearlier .nonce (by decide))
    have htime : s.isExpired now = true := by rwa [passes_time, not_not] at hg
    rw [acceptedCode_of_state hstate, if_pos htime]
  | code =>
    have hstate := acceptedState_ok (hearlier .phase (by decide))
      (hearlier .consent (by decide)) (hearlier .nonce (by decide))
    have htime := passes_time.mp (hearlier .time (by decide))
    have hcode : c.code.filter (· ≠ "") = none := by rwa [passes_code, not_not] at hg
    rw [acceptedCode_of_state hstate, if_neg htime, hcode]

/-- Only an answer that all guards let pass brings a code. -/
theorem acceptedCode_ok {text : String} (h : acceptedCode s c now = .ok text) :
    (∀ g : Guard, g.Passes s c now) ∧ c.code = some text := by
  have hpass {g : Guard} (hearlier : ∀ g' ∈ g.earlier, g'.Passes s c now) :
      g.Passes s c now := by
    refine Classical.byContradiction fun hg => ?_
    rw [acceptedCode_error hearlier hg] at h
    cases h
  have hphase : Guard.phase.Passes s c now := hpass (by simp [Guard.earlier, Guard.inOrder])
  have hconsent : Guard.consent.Passes s c now :=
    hpass (by simp [Guard.earlier, Guard.inOrder, hphase])
  have hnonce : Guard.nonce.Passes s c now :=
    hpass (by simp [Guard.earlier, Guard.inOrder, hphase, hconsent])
  have htime : Guard.time.Passes s c now :=
    hpass (by simp [Guard.earlier, Guard.inOrder, hphase, hconsent, hnonce])
  have hcode : Guard.code.Passes s c now :=
    hpass (by simp [Guard.earlier, Guard.inOrder, hphase, hconsent, hnonce, htime])
  constructor
  · intro g
    cases g <;> assumption
  · rw [acceptedCode_of_state (acceptedState_ok hphase hconsent hnonce),
      if_neg (passes_time.mp htime)] at h
    obtain ⟨text', htext, hne⟩ := hcode
    have hfilter : c.code.filter (· ≠ "") = some text' := by simp [htext, hne]
    rw [hfilter] at h
    cases h
    exact htext

end Checks

/-! ## Reasons to call -/

/-- There is a reason for what is asked: a code is traded if all guards have let the answer pass
at the time that was looked at before, and a record is written if it was made of the grant for
that code. Nothing else is asked of the store and the provider. -/
def Vetted (cfg : Settings) (s : Session) (c : Callback) (before : List (Entry Custody)) :
    Entry Custody → Prop
  | .called (.exchange code uri) _ =>
    uri = s.redirectUri ∧ c.code = some code ∧
      ∃ now, before = [.asked .now now] ∧ ∀ g : Guard, g.Passes s c now
  | .called (.write r cond) _ =>
    cond = .always ∧ ∃ now code g, before = [.asked .now now,
      .called (S := Custody) (.exchange code s.redirectUri) (.ok g)] ∧
        g.firstRecord cfg.refreshLifetime = some (.ok r)
  | .called _ _ => False
  | .asked _ _ => True

/-- What a run may have done that has seen `t` when `p` is left of it. -/
structure Guarded (cfg : Settings) (s : Session) (c : Callback) (t : List (Entry Custody))
    (p : Program Custody (Except Error Record)) : Prop where
  exchanges : (pick Entry.exchange? t).length ≤ 1
  writes : (pick Entry.write? t).length ≤ 1
  vetted : ∀ before e after, t = before ++ e :: after → Vetted cfg s c before e
  /-- The first guard that has stopped it says what it fails with, and it asks for nothing. -/
  stopped : ∀ now after g, t = .asked .now now :: after → ¬Guard.Passes s c now g →
    (∀ g' ∈ g.earlier, g'.Passes s c now) →
      ∀ u x, p.Yields u x → after ++ u = [] ∧ x = some (.error (g.error s c))

/-- What a run has done to a store that is served by nobody else. -/
def Told (before after : MemoryStore) : Except Error Record → Prop
  | .error _ => after = before
  | .ok r => after.current = some r ∧ (∃ v, r.version = some v) ∧ r.refreshCount = 0 ∧
    r.fault = none ∧ r.lastRefreshAt = none

/-! ## Whole runs -/

/-- What a whole run sees, and what comes of it. -/
inductive Completion (cfg : Settings) (s : Session) (c : Callback) :
    List (Entry Custody) → Option (Except Error Record) → Prop where
  /-- A guard has stopped it. -/
  | stopped {now : Instant} {e : Error} (h : acceptedCode s c now = .error e) :
      Completion cfg s c [.asked .now now] (some (.error e))
  /-- There is no grant for the code. -/
  | unanswered {now : Instant} {code : String} (h : acceptedCode s c now = .ok code) (e : Error) :
      Completion cfg s c
        [.asked .now now, .called (S := Custody) (.exchange code s.redirectUri) (.error e)]
        (some (.error e))
  /-- The grant leads beyond the calendar. -/
  | beyond {now : Instant} {code : String} {g : Grant} (h : acceptedCode s c now = .ok code)
      (hg : g.firstRecord cfg.refreshLifetime = none) :
      Completion cfg s c
        [.asked .now now, .called (S := Custody) (.exchange code s.redirectUri) (.ok g)] none
  /-- The grant makes no sound record. -/
  | unsound {now : Instant} {code : String} {g : Grant} {e : Error}
      (h : acceptedCode s c now = .ok code)
      (hg : g.firstRecord cfg.refreshLifetime = some (.error e)) :
      Completion cfg s c
        [.asked .now now, .called (S := Custody) (.exchange code s.redirectUri) (.ok g)]
        (some (.error e))
  /-- The record is not stored. -/
  | unstored {now : Instant} {code : String} {g : Grant} {r : Record}
      (h : acceptedCode s c now = .ok code)
      (hg : g.firstRecord cfg.refreshLifetime = some (.ok r)) (e : Error) :
      Completion cfg s c
        [.asked .now now, .called (S := Custody) (.exchange code s.redirectUri) (.ok g),
          .called (S := Custody) (.write r .always) (.error e)]
        (some (.error e))
  | stored {now : Instant} {code : String} {g : Grant} {r : Record}
      (h : acceptedCode s c now = .ok code)
      (hg : g.firstRecord cfg.refreshLifetime = some (.ok r)) (v : Version) :
      Completion cfg s c
        [.asked .now now, .called (S := Custody) (.exchange code s.redirectUri) (.ok g),
          .called (S := Custody) (.write r .always) (.ok v),
          .asked (.emit .authorizationStored) ()]
        (some (.ok (r.withVersion v)))

section Runs

variable {cfg : Settings} {s : Session} {c : Callback} {t : List (Entry Custody)}

/-- A run that completes an authorization has come to its end in one of these ways. -/
theorem of_complete {x : Option (Except Error Record)} (ht : (complete cfg s c).Yields t x) :
    Completion cfg s c t x := by
  obtain ⟨now, u, rfl, hu⟩ := ht.asking_inv
  cases hcode : acceptedCode s c now with
  | error e =>
    rw [hcode] at hu
    obtain ⟨rfl, rfl⟩ := hu.pure_inv
    exact .stopped hcode
  | ok code =>
    rw [hcode] at hu
    obtain ⟨a, u, rfl, ha⟩ := hu.calling_inv
    cases a with
    | error e =>
      obtain ⟨rfl, rfl⟩ := ha.pure_inv
      exact .unanswered hcode e
    | ok g =>
      obtain ⟨hg, rfl, rfl⟩ | ⟨r, hg, hr⟩ := Yields.orHalt_inv ha
      · exact .beyond hcode hg
      cases r with
      | error e =>
        obtain ⟨rfl, rfl⟩ := hr.pure_inv
        exact .unsound hcode hg
      | ok r =>
        obtain ⟨a, u, rfl, hw⟩ := Yields.calling_inv hr
        cases a with
        | error e =>
          obtain ⟨rfl, rfl⟩ := hw.pure_inv
          exact .unstored hcode hg e
        | ok v =>
          obtain ⟨_, u, rfl, hend⟩ := hw.asking_inv
          obtain ⟨rfl, rfl⟩ := hend.pure_inv
          exact .stored hcode hg v

/-- Nothing is exchanged or written that the guards have not let pass. -/
theorem Completion.vetted {x : Option (Except Error Record)} (h : Completion cfg s c t x) :
    Throughout (fun h e _ => Vetted cfg s c h e) [] t := by
  have hexchange {now : Instant} {code : String} {a : Except Error Grant}
      (h : acceptedCode s c now = .ok code) : Vetted cfg s c [.asked .now now]
        (.called (S := Custody) (.exchange code s.redirectUri) a) :=
    ⟨rfl, (acceptedCode_ok h).2, now, rfl, (acceptedCode_ok h).1⟩
  cases h with
  | stopped h => exact ⟨trivial, trivial⟩
  | unanswered h e => exact ⟨trivial, hexchange h, trivial⟩
  | beyond h hg => exact ⟨trivial, hexchange h, trivial⟩
  | unsound h hg => exact ⟨trivial, hexchange h, trivial⟩
  | unstored h hg e => exact ⟨trivial, hexchange h, ⟨rfl, _, _, _, rfl, hg⟩, trivial⟩
  | stored h hg v => exact ⟨trivial, hexchange h, ⟨rfl, _, _, _, rfl, hg⟩, trivial, trivial⟩

/-- A run looks at the clock, and it is over if a guard stops the answer at that time. -/
theorem Completion.head {x : Option (Except Error Record)} (h : Completion cfg s c t x) :
    ∃ now u, t = .asked .now now :: u ∧
      ∀ e, acceptedCode s c now = .error e → u = [] ∧ x = some (.error e) := by
  cases h with
  | stopped h =>
    refine ⟨_, _, rfl, fun e he => ⟨rfl, ?_⟩⟩
    rw [h] at he
    cases he
    rfl
  | unanswered h e => exact ⟨_, _, rfl, fun e he => nomatch h.symm.trans he⟩
  | beyond h hg => exact ⟨_, _, rfl, fun e he => nomatch h.symm.trans he⟩
  | unsound h hg => exact ⟨_, _, rfl, fun e he => nomatch h.symm.trans he⟩
  | unstored h hg e => exact ⟨_, _, rfl, fun e he => nomatch h.symm.trans he⟩
  | stored h hg v => exact ⟨_, _, rfl, fun e he => nomatch h.symm.trans he⟩

/-- However the run is answered and wherever it breaks off, it keeps to its guards. -/
theorem guarded {World : Type} {Answers : World → Entry Custody → World → Prop} {w w' : World}
    {p : Program Custody (Except Error Record)}
    (hc : Course Answers w (complete cfg s c) t w' p) : Guarded cfg s c t p := by
  obtain ⟨u, x, -, hyields⟩ := hc.exists_yields Custody.nonempty_reply
  have hvetted := (of_complete hyields).vetted.of_append
  refine ⟨?_, ?_, throughout_iff.mp hvetted, ?_⟩
  · refine (hvetted.mono fun h e _ he hsome => ?_).length_pick_le (Nat.zero_le _)
    unfold Entry.exchange? at hsome
    split at hsome
    · obtain ⟨-, -, now, rfl, -⟩ := he
      exact Nat.zero_lt_one
    · cases hsome
  · refine (hvetted.mono fun h e _ he hsome => ?_).length_pick_le (Nat.zero_le _)
    unfold Entry.write? at hsome
    split at hsome
    · obtain ⟨-, now, code, g, rfl, -⟩ := he
      exact Nat.zero_lt_one
    · cases hsome
  · rintro now after g rfl hg hearlier u x hu
    have hstopped := acceptedCode_error hearlier hg
    obtain ⟨now', v, heq, hend⟩ := (of_complete (hc.yields hu)).head
    obtain ⟨hnow, rfl⟩ := List.cons.inj heq
    cases hnow
    exact hend _ hstopped

/-- The result of a run that was alone with the store tells what it has done to it. -/
theorem told {before after : MemoryStore} {x : Except Error Record}
    (hc : Course MemoryStore.Answers before (complete cfg s c) t after (.done x)) :
    Told before after x := by
  have hcompletion := of_complete hc.yields_done
  have hanswered := hc.answered
  cases hcompletion with
  | stopped h =>
    obtain ⟨m, hm, rfl⟩ := hanswered
    exact hm.eq_of_asked
  | unanswered h e =>
    obtain ⟨m, hm, m', hm', rfl⟩ := hanswered
    cases hm'
    exact hm.eq_of_asked
  | unsound h hg =>
    obtain ⟨m, hm, m', hm', rfl⟩ := hanswered
    cases hm'
    exact hm.eq_of_asked
  | unstored h hg e =>
    obtain ⟨m, hm, m', hm', m'', hw, rfl⟩ := hanswered
    cases hm'
    obtain ⟨hput, rfl⟩ := hw.write_inv
    rw [hm.eq_of_asked] at hput ⊢
    exact MemoryStore.put_of_error hput
  | stored h hg v =>
    obtain ⟨m, hm, m', hm', m'', hw, m₃, hm₃, rfl⟩ := hanswered
    cases hm'
    obtain ⟨hput, rfl⟩ := hw.write_inv
    obtain ⟨-, -, rfl, hstored⟩ := MemoryStore.put_of_ok hput
    obtain ⟨_, _, _, -, rfl⟩ := Grant.firstRecord_eq hg
    refine ⟨?_, ⟨_, rfl⟩, rfl, rfl, rfl⟩
    rw [hm₃.eq_of_asked, hstored]
    exact MemoryStore.current_write _ _

/-! ## Sessions -/

/-- Where no guard lets the answer pass, nothing is asked of the store or the provider. -/
theorem Guarded.unreached {p : Program Custody (Except Error Record)} (h : Guarded cfg s c t p)
    (hnever : ∀ now, ∃ g : Guard, ¬g.Passes s c now) :
    pick Entry.exchange? t = [] ∧ pick Entry.write? t = [] := by
  have hexchange : pick Entry.exchange? t = [] := by
    refine pick_eq_nil_iff.mpr fun e he => ?_
    obtain ⟨before, after, rfl⟩ := List.append_of_mem he
    have hvetted := h.vetted before e after rfl
    unfold Entry.exchange?
    split
    · obtain ⟨-, -, now, -, hall⟩ := hvetted
      obtain ⟨g, hg⟩ := hnever now
      exact absurd (hall g) hg
    · rfl
  refine ⟨hexchange, pick_eq_nil_iff.mpr fun e he => ?_⟩
  obtain ⟨before, after, rfl⟩ := List.append_of_mem he
  have hvetted := h.vetted before e after rfl
  unfold Entry.write?
  split
  · -- The exchange before the write would have been asked for.
    obtain ⟨-, now, code, g, rfl, -⟩ := hvetted
    cases hexchange
  · rfl

/-- A session has a text of 43 characters that stand in a URL as they are, and waits. -/
theorem of_begin {World : Type} {Answers : World → Entry Custody → World → Prop} {w w' : World}
    {url : String → Except Error String} {uri address : String}
    (hbytes : ∀ w n bytes w', Answers w (.asked (.bytes n) bytes) w' → bytes.length = n)
    (hc : Course Answers w (begin cfg url uri) t w' (.done (.ok (s, address)))) :
    s.phase = .awaitingCallback ∧ s.nonce.length = 43 ∧
      ∀ ch ∈ s.nonce.toList, Base64.IsUrlSafe ch := by
  obtain ⟨bytes, u, rfl, hu⟩ := Yields.asking_inv hc.yields_done
  obtain ⟨m, hm, -⟩ := hc.answered
  have hlen := hbytes _ _ _ _ hm
  obtain ⟨now, u, rfl, hsession⟩ := hu.asking_inv
  obtain ⟨-, -, hnone⟩ | ⟨session, hnew, hurl⟩ := Yields.orHalt_inv hsession
  · cases hnone
  obtain ⟨expiresAt, -, rfl⟩ := Option.map_eq_some_iff.mp hnew
  cases haddress : url (nonceOfBytes bytes) with
  | error e =>
    simp only [haddress] at hurl
    cases hurl.pure_inv.2
  | ok address =>
    simp only [haddress] at hurl
    cases hurl.pure_inv.2
    exact ⟨rfl, length_nonceOfBytes hlen, fun ch => isUrlSafe_nonceOfBytes⟩

/-- An answer without a text belongs to no session that has one. -/
theorem not_passes_nonce {now : Instant} (hlen : s.nonce.length = 43) (hc : c.state = none) :
    ¬Guard.nonce.Passes s c now := by
  intro h
  have hempty : s.nonce = "" := by
    have hmatches : s.nonce.toUTF8 = "".toUTF8 := by simpa [Guard.Passes, hc] using h
    exact String.toByteArray_inj.mp hmatches
  rw [hempty] at hlen
  cases hlen

/-- Whoever answers and however, a code is traded and a record is written only after every
guard, and the first guard that stops an answer says why. A store that is served by nobody else
is untouched after a failure, and holds the new record after a success. An answer without a text
leads a session that was begun to no call at all. -/
theorem guarded_authorization :
    (∀ {World : Type} {Answers : World → Entry Custody → World → Prop} {w w' : World}
      {p : Program Custody (Except Error Record)},
      Course Answers w (complete cfg s c) t w' p → Guarded cfg s c t p) ∧
    (∀ {before after : MemoryStore} {x : Except Error Record},
      Course MemoryStore.Answers before (complete cfg s c) t after (.done x) →
        Told before after x) ∧
    ∀ {World : Type} {Answers : World → Entry Custody → World → Prop} {w w' : World}
      {url : String → Except Error String} {uri address : String},
      (∀ w n bytes w', Answers w (.asked (.bytes n) bytes) w' → bytes.length = n) →
      Course Answers w (begin cfg url uri) t w' (.done (.ok (s, address))) →
        s.phase = .awaitingCallback ∧ s.nonce.length = 43 ∧
        (∀ ch ∈ s.nonce.toList, Base64.IsUrlSafe ch) ∧
        (c.state = none → ∀ {World' : Type} {Answers' : World' → Entry Custody → World' → Prop}
          {w₁ w₂ : World'} {cfg' : Settings} {t' : List (Entry Custody)}
          {p : Program Custody (Except Error Record)},
          Course Answers' w₁ (complete cfg' s c) t' w₂ p →
            pick Entry.exchange? t' = [] ∧ pick Entry.write? t' = []) := by
  refine ⟨guarded, told, ?_⟩
  intro World Answers w w' url uri address hbytes hc
  obtain ⟨hphase, hlen, hsafe⟩ := of_begin hbytes hc
  refine ⟨hphase, hlen, hsafe, ?_⟩
  intro hstate World' Answers' w₁ w₂ cfg' t' p hc'
  exact (guarded hc').unreached fun now => ⟨.nonce, not_passes_nonce hlen hstate⟩

end Runs

namespace Sample

open TokenCustody.Coordination.Sample (after)

/-- The plainest random bytes. -/
def bytes : List UInt8 := List.replicate nonceBytes 0

/-- A session that was begun at the start of 1970. -/
def session : Session :=
  { nonce := nonceOfBytes bytes, redirectUri := "https://127.0.0.1/callback"
    createdAt := .epoch, expiresAt := after 60, phase := .awaitingCallback }

/-- What a session sees that is begun. -/
def beginning : List (Entry Custody) := [.asked (.bytes nonceBytes) bytes, .asked .now .epoch]

/-- An answer with a code that belongs to the session. -/
def callback : Callback :=
  { code := some "code 1", state := some session.nonce, error := none
    errorDescription := none, errorUri := none }

/-- The record that the grant makes. -/
def first : Record :=
  { accessToken := "access 2", refreshToken := "refresh 2", tokenType := "Bearer", scope := none
    issuedAt := .epoch, expiresAt := after 60, refreshExpiresAt := after 3600
    lastRefreshAt := none, refreshCount := 0, fault := none, version := none }

/-- What a run sees that is let through. -/
def completing : List (Entry Custody) :=
  [.asked .now .epoch, .called (S := Custody) (.exchange "code 1" session.redirectUri)
      (.ok Coordination.Sample.grant),
    .called (S := Custody) (.write first .always) (.ok (MemoryStore.versionOf 1)),
    .asked (.emit .authorizationStored) ()]

/-- The answers of random bytes have the right number. -/
def Fair (_ : Unit) (e : Entry Custody) (_ : Unit) : Prop :=
  ∀ n bytes, e = .asked (.bytes n) bytes → bytes.length = n

theorem begins : beginning.foldlM Program.advance
    (begin .default (fun _ => .ok "https://broker.example.com") session.redirectUri) =
      some (.done (.ok (session, "https://broker.example.com"))) :=
  Program.ends_of_reading (fun _ => Program.eq_ok_of_toOption) (by decide +kernel)

theorem completes : completing.foldlM Program.advance (complete .default session callback) =
    some (.done (.ok (first.withVersion (MemoryStore.versionOf 1)))) :=
  Program.ends_of_reading (fun _ => Program.eq_ok_of_toOption) (by decide +kernel)

theorem stores :
    Answered MemoryStore.Answers .empty completing (MemoryStore.empty.write first) := by
  have hput := MemoryStore.put_of_meets (s := .empty) (r := first) (c := .always)
    (by decide +kernel) rfl
  have hwrite := MemoryStore.Answers.write (s := .empty) first .always
  rw [hput] at hwrite
  exact ⟨_, .asked .., _, .exchange .., _, hwrite, _, .asked .., rfl⟩

theorem fair : Answered Fair () beginning () :=
  ⟨(), fun n bytes h => by cases h; rfl, (), nofun, rfl⟩

/-- An answer without the text of the session. -/
def textless : Callback := { callback with state := none }

theorem exists_textless : ∃ p, [Entry.asked (S := Custody) .now .epoch].foldlM Program.advance
    (complete .default session textless) = some p :=
  Option.isSome_iff_exists.mp (by decide +kernel)

end Sample

/-- A session that was begun is completed, and its record is stored where nothing was. An answer
without a text leads to no call. -/
theorem guarded_authorization_of_sample :
    Guarded .default Sample.session Sample.callback Sample.completing
      (.done (.ok (Sample.first.withVersion (MemoryStore.versionOf 1)))) ∧
    (MemoryStore.empty.write Sample.first).current =
      some (Sample.first.withVersion (MemoryStore.versionOf 1)) ∧
    Sample.session.nonce.length = 43 ∧
    ∃ p, Course Sample.Fair () (complete .default Sample.session Sample.textless)
        [.asked .now .epoch] () p ∧
      pick Entry.exchange? [Entry.asked (S := Custody) .now .epoch] = [] := by
  have hcompleted := Course.append .start Sample.stores Sample.completes
  have hbegun := Course.append .start Sample.fair Sample.begins
  obtain ⟨p, hp⟩ := Sample.exists_textless
  have htextless : Course Sample.Fair () (complete .default Sample.session Sample.textless)
      [.asked .now .epoch] () p := Course.append .start ⟨(), nofun, rfl⟩ hp
  have htold := guarded_authorization.2.1 hcompleted
  have hfair : ∀ w n bytes w', Sample.Fair w (.asked (.bytes n) bytes) w' → bytes.length = n :=
    fun _ n bytes _ h => h n bytes rfl
  obtain ⟨-, hlen, -, hunreached⟩ :=
    guarded_authorization (c := Sample.textless).2.2 hfair hbegun
  exact ⟨guarded_authorization.1 hcompleted, htold.1, hlen, p, htextless,
    (hunreached rfl htextless).1⟩

end TokenCustody.Authorization
