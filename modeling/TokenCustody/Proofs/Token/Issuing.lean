/-
TokenCustody.Proofs.Token.Issuing — which records an answer makes.

An answer of the token endpoint becomes a grant, and the grant a first
record or the successor of a record. Each step can refuse, and what it
goes by is in the answer or in the record: the texts that are there, and
whether a refresh token that is kept still lives. Nothing else can go
wrong, as long as the calendar reaches a century beyond the answer,
because announced lifetimes are cut to a century
(`lifetimeOfSeconds_inRange`), and the access token of a record never
outlives its refresh token.

The refusals are told exactly, step by step (`Grant.ofResponse_error_iff`,
`Grant.firstRecord_error_iff`, `Record.successor_refused_iff`), and so is
what the records have in common that are not refused (`Record.Issued`).
-/
import Mathlib.Algebra.Group.Nat.Defs
import TokenCustody.Proofs.Token.State

namespace TokenCustody

open TokenCustody.Time

/-! ## Answers and grants -/

/-- A text that is left out, or that is empty. -/
def Missing (text : Option String) : Prop := text = none ∨ text = some ""

theorem nonEmpty_eq_none_iff {text : Option String} : nonEmpty text = none ↔ Missing text := by
  cases text with
  | none => simp [nonEmpty, Missing]
  | some s => simp [nonEmpty, Missing, Option.filter_eq_none_iff]

/-- An answer grants nothing exactly if it has no access token, or else no lifetime. -/
theorem Grant.ofResponse_error_iff {resp : TokenResponse} {t : Instant} {e : Error} :
    Grant.ofResponse resp t = .error e ↔
      Missing resp.accessToken ∧ e = .protocol (.missingField "access_token") ∨
      ¬Missing resp.accessToken ∧ resp.expiresIn = none ∧
        e = .protocol (.missingField "expires_in") := by
  rw [← nonEmpty_eq_none_iff]
  unfold Grant.ofResponse
  cases nonEmpty resp.accessToken with
  | none => simp [eq_comm]
  | some token =>
    cases resp.expiresIn with
    | none => simp [eq_comm]
    | some n => simp

/-- A lifetime that is cut to a century is one that spans reach. -/
theorem lifetimeOfSeconds_inRange (n : Nat) :
    Span.ofSeconds? (min n maxLifetimeSeconds : Nat) = some (lifetimeOfSeconds n) := by
  have hmax : maxLifetimeSeconds ≤ Span.maxSeconds := by decide
  have hreach : ((min n maxLifetimeSeconds : Nat) : Int).natAbs ≤ Span.maxSeconds := by omega
  exact if_pos hreach

/-! ## Dates in the calendar -/

section Dates

variable {resp : TokenResponse} {t : Instant} {g : Grant} {refreshLifetime : Span}

/-- Where the calendar goes on for a century, it has the end of every announced lifetime. -/
theorem isSome_add_lifetimeOfSeconds (hcentury : (t.add (.ofDays 36500)).isSome) (n : Nat) :
    (t.add (lifetimeOfSeconds n)).isSome := by
  refine Instant.isSome_add_of_le (lifetimeOfSeconds_nonneg n) ?_ hcentury
  have hmax : maxLifetimeSeconds = 36500 * 86400 := rfl
  show ((min n maxLifetimeSeconds : Nat) : Int) * (1000000000 : Nat) ≤
    36500 * 86400 * (1000000000 : Nat)
  omega

/-- The access token that is granted ends in the calendar. -/
theorem Grant.exists_end (hg : Grant.ofResponse resp t = .ok g)
    (hcentury : (t.add (.ofDays 36500)).isSome) : ∃ n ends, resp.expiresIn = some n ∧
      g.lifetime = lifetimeOfSeconds n ∧ t.add (lifetimeOfSeconds n) = some ends := by
  obtain ⟨-, hannounced, -, -⟩ := Grant.ofResponse_ok hg
  obtain ⟨n, hn, hlifetime⟩ := Option.map_eq_some_iff.mp hannounced
  obtain ⟨ends, hends⟩ := Option.isSome_iff_exists.mp (isSome_add_lifetimeOfSeconds hcentury n)
  exact ⟨n, ends, hn, hlifetime.symm, hends⟩

/-- A refresh token that is granted ends in the calendar, and no earlier than it was received. -/
theorem Grant.exists_limit (hg : Grant.ofResponse resp t = .ok g)
    (hcentury : (t.add (.ofDays 36500)).isSome) (hlifetime : 0 ≤ refreshLifetime.nanos)
    (hend : (t.add refreshLifetime).isSome) :
    ∃ limit, t.add (g.refreshLifetime.getD refreshLifetime) = some limit ∧ t ≤ limit := by
  obtain ⟨-, -, -, hannounced⟩ := Grant.ofResponse_ok hg
  have hreaches : (t.add (g.refreshLifetime.getD refreshLifetime)).isSome ∧
      0 ≤ (g.refreshLifetime.getD refreshLifetime).nanos := by
    rw [hannounced]
    cases resp.refreshTokenExpiresIn with
    | none => exact ⟨hend, hlifetime⟩
    | some n => exact ⟨isSome_add_lifetimeOfSeconds hcentury n, lifetimeOfSeconds_nonneg n⟩
  obtain ⟨limit, hlimit⟩ := Option.isSome_iff_exists.mp hreaches.1
  exact ⟨limit, hlimit, Instant.le_add hlimit hreaches.2⟩

/-! ## First records and successors -/

/-- A grant makes no first record exactly if the answer brings no refresh token. -/
theorem Grant.firstRecord_error_iff {e : Error} (hg : Grant.ofResponse resp t = .ok g)
    (hcentury : (t.add (.ofDays 36500)).isSome) (hlifetime : 0 ≤ refreshLifetime.nanos)
    (hend : (t.add refreshLifetime).isSome) :
    g.firstRecord refreshLifetime = some (.error e) ↔
      Missing resp.refreshToken ∧ e = .protocol (.missingField "refresh_token") := by
  obtain ⟨n, ends, -, hlasts, hends⟩ := Grant.exists_end hg hcentury
  obtain ⟨limit, hlimit, hlater⟩ := Grant.exists_limit hg hcentury hlifetime hend
  obtain ⟨rfl, -, hbrought, -⟩ := Grant.ofResponse_ok hg
  rw [← nonEmpty_eq_none_iff, ← hbrought]
  unfold Grant.firstRecord
  cases htoken : g.refreshToken with
  | none => simp [eq_comm]
  | some token =>
    have hne : token ≠ "" := ne_of_nonEmpty (hbrought.symm.trans htoken)
    have hissued : g.receivedAt ≤ min ends limit :=
      Instant.le_min_iff.mpr ⟨Instant.le_add hends (lifetimeOfSeconds_nonneg n), hlater⟩
    simp only [hlimit, hlasts, hends, expiryWithin, Option.bind_eq_bind, Option.bind_some,
      Option.map_some, Option.some.injEq]
    rw [Record.checked_eq (Grant.accessToken_ne hg) Instant.min_le_right, if_neg hne,
      if_pos hissued]
    simp

/-- No date of a first record lies beyond the calendar. -/
theorem Grant.isSome_firstRecord (hg : Grant.ofResponse resp t = .ok g)
    (hcentury : (t.add (.ofDays 36500)).isSome) (hlifetime : 0 ≤ refreshLifetime.nanos)
    (hend : (t.add refreshLifetime).isSome) : (g.firstRecord refreshLifetime).isSome := by
  obtain ⟨n, ends, -, hlasts, hends⟩ := Grant.exists_end hg hcentury
  obtain ⟨limit, hlimit, -⟩ := Grant.exists_limit hg hcentury hlifetime hend
  obtain ⟨rfl, -, -, -⟩ := Grant.ofResponse_ok hg
  unfold Grant.firstRecord
  cases g.refreshToken with
  | none => rfl
  | some token => simp [hlimit, hlasts, hends, expiryWithin]

/-- No date of a successor lies beyond the calendar. -/
theorem Record.isSome_successor {base : Record} (hg : Grant.ofResponse resp t = .ok g)
    (hcentury : (t.add (.ofDays 36500)).isSome) (hlifetime : 0 ≤ refreshLifetime.nanos)
    (hend : (t.add refreshLifetime).isSome) (hcount : base.refreshCount + 1 < Text.wordCount) :
    (base.successor g refreshLifetime).isSome := by
  obtain ⟨n, ends, -, hlasts, hends⟩ := Grant.exists_end hg hcentury
  obtain ⟨limit, hlimit, -⟩ := Grant.exists_limit hg hcentury hlifetime hend
  obtain ⟨rfl, -, -, -⟩ := Grant.ofResponse_ok hg
  unfold Record.successor Record.refreshTokenAfter Record.countAfter
  cases g.refreshToken with
  | none => simp [hlasts, hends, expiryWithin, hcount]
  | some token => simp [hlimit, hlasts, hends, expiryWithin, hcount]

end Dates

/-! ## What is issued -/

/-- A record as answers make them: with both tokens, in order, and with an access token that
lives as long as it was announced, at most a century, but never longer than the refresh token. -/
structure Record.Issued (resp : TokenResponse) (t : Instant) (r : Record) : Prop where
  issued : r.issuedAt = t
  tokens : r.accessToken ≠ "" ∧ r.refreshToken ≠ ""
  ordered : r.issuedAt ≤ r.expiresAt ∧ r.expiresAt ≤ r.refreshExpiresAt
  expires : ∃ n ends, resp.expiresIn = some n ∧
    t.add (.ofSeconds (min n (36500 * 86400) : Nat)) = some ends ∧
    r.expiresAt = min ends r.refreshExpiresAt
  counted : r.refreshCount < Text.wordCount

theorem Record.issued_of {resp : TokenResponse} {t : Instant} {g : Grant} {r : Record}
    (hg : Grant.ofResponse resp t = .ok g) (hsound : r.defect? = none) (hfault : r.fault = none)
    (hissued : r.issuedAt = g.receivedAt)
    (hexpires : expiryWithin g.receivedAt g.lifetime r.refreshExpiresAt = some r.expiresAt)
    (hcount : r.refreshCount < Text.wordCount) : r.Issued resp t := by
  obtain ⟨rfl, hannounced, -, -⟩ := Grant.ofResponse_ok hg
  obtain ⟨n, hn, hlasts⟩ := Option.map_eq_some_iff.mp hannounced
  obtain ⟨ends, hends, hmin⟩ := Option.map_eq_some_iff.mp hexpires
  obtain ⟨htoken, -, hordered⟩ := Record.defect_eq_none_iff.mp hsound
  exact
    { issued := hissued
      tokens := ⟨Record.accessToken_ne hsound hfault, htoken⟩
      ordered := hordered
      expires := ⟨n, ends, hn, by rw [← hlasts] at hends; exact hends, hmin.symm⟩
      counted := hcount }

/-- **Which records an answer makes.** If the calendar has the century after the answer and the
end of the configured lifetime, then no step of the making leaves it; each step refuses exactly
for the reasons that are told here; and all records that are made are sound, with the expiry that
was announced, as far as the century and the refresh token allow. -/
theorem Grant.issuing (resp : TokenResponse) (t : Instant) (base : Record)
    (refreshLifetime : Span) (hcentury : (t.add (.ofDays 36500)).isSome)
    (hlifetime : 0 ≤ refreshLifetime.nanos) (hend : (t.add refreshLifetime).isSome)
    (hcount : base.refreshCount < 2 ^ 64 - 1) :
    (∀ n, Span.ofSeconds? (min n maxLifetimeSeconds : Nat) = some (lifetimeOfSeconds n)) ∧
    (∀ e, Grant.ofResponse resp t = .error e ↔
      Missing resp.accessToken ∧ e = .protocol (.missingField "access_token") ∨
      ¬Missing resp.accessToken ∧ resp.expiresIn = none ∧
        e = .protocol (.missingField "expires_in")) ∧
    ∀ g, Grant.ofResponse resp t = .ok g →
      ((g.firstRecord refreshLifetime).isSome ∧
        ∀ e, g.firstRecord refreshLifetime = some (.error e) ↔
          Missing resp.refreshToken ∧ e = .protocol (.missingField "refresh_token")) ∧
      ((base.successor g refreshLifetime).isSome ∧
        ∀ e, base.successor g refreshLifetime = some (.error e) ↔
          Missing resp.refreshToken ∧
            (base.refreshToken = "" ∧ e = .protocol (.invalidRecord "empty refresh token") ∨
              base.refreshToken ≠ "" ∧ base.refreshExpiresAt < t ∧
                e = .protocol (.invalidRecord "issued_at is after expires_at"))) ∧
      ∀ r, g.firstRecord refreshLifetime = some (.ok r) ∨
          base.successor g refreshLifetime = some (.ok r) → r.Issued resp t := by
  have hword : base.refreshCount + 1 < Text.wordCount := by
    have : Text.wordCount = 2 ^ 64 := rfl
    omega
  refine ⟨lifetimeOfSeconds_inRange, fun e => Grant.ofResponse_error_iff, fun g hg =>
    ⟨⟨Grant.isSome_firstRecord hg hcentury hlifetime hend, fun e =>
      Grant.firstRecord_error_iff hg hcentury hlifetime hend⟩,
    ⟨Record.isSome_successor hg hcentury hlifetime hend hword, fun e => ?_⟩, ?_⟩⟩
  · obtain ⟨n, ends, -, hlasts, hends⟩ := Grant.exists_end hg hcentury
    obtain ⟨-, -, hbrought, -⟩ := Grant.ofResponse_ok hg
    rw [Record.successor_refused_iff hg hlifetime, ← nonEmpty_eq_none_iff, ← hbrought, hlasts,
      hends]
    simp only [Option.isSome_some, hword, true_and]
  · rintro r (hfirst | hnext)
    · obtain ⟨_, _, _, -, -, hexpires, hsound, rfl⟩ := Grant.firstRecord_made hfirst
      exact Record.issued_of hg hsound rfl rfl hexpires (by decide : 0 < Text.wordCount)
    · obtain ⟨_, _, _, -, hexpires, hsound, rfl⟩ := Record.successor_ok hnext
      exact Record.issued_of hg hsound rfl rfl hexpires hword

/-! ### An answer in a leap second -/

namespace Issuing.Sample

/-- The middle of the leap second that ended 2016, or a nanosecond before that. -/
def inLeap (nano : Nat) : Instant := (Instant.ofParts? 1483228799 (1000000000 + nano)).getD .epoch

/-- The answer announces the longest lifetime that can be told, and keeps the refresh token. -/
def answer : TokenResponse :=
  { accessToken := some "access 2", tokenType := "Bearer", expiresIn := some (2 ^ 64 - 1)
    refreshToken := some "", refreshTokenExpiresIn := none, scope := none, extra := [] }

def granted : Grant :=
  { accessToken := "access 2", refreshToken := none, tokenType := "Bearer", scope := none
    lifetime := .ofDays 36500, refreshLifetime := none, receivedAt := inLeap 500000000 }

/-- Its refresh token expires a nanosecond before the answer. -/
def expired : Record :=
  { accessToken := "access 1", refreshToken := "refresh", tokenType := "Bearer", scope := none
    issuedAt := .epoch, expiresAt := .epoch, refreshExpiresAt := inLeap 499999999
    lastRefreshAt := none, refreshCount := 2 ^ 64 - 2, fault := none, version := none }

end Issuing.Sample

open Issuing.Sample in
theorem Grant.issuing_of_sample :
    ((inLeap 500000000).add (.ofDays 36500)).isSome ∧
      0 ≤ (Span.ofDays 90).nanos ∧ ((inLeap 500000000).add (.ofDays 90)).isSome ∧
      expired.refreshCount < 2 ^ 64 - 1 ∧
      Grant.ofResponse answer (inLeap 500000000) = .ok granted ∧
      granted.firstRecord (.ofDays 90) =
        some (.error (.protocol (.missingField "refresh_token"))) ∧
      expired.successor granted (.ofDays 90) =
        some (.error (.protocol (.invalidRecord "issued_at is after expires_at"))) := by
  have hcentury : ((inLeap 500000000).add (.ofDays 36500)).isSome := by decide +kernel
  have hend : ((inLeap 500000000).add (.ofDays 90)).isSome := by decide +kernel
  have hgranted : Grant.ofResponse answer (inLeap 500000000) = .ok granted := rfl
  obtain ⟨-, -, hmakes⟩ := Grant.issuing answer (inLeap 500000000) expired (.ofDays 90) hcentury
    (by decide) hend (by decide)
  obtain ⟨⟨-, hfirst⟩, ⟨-, hnext⟩, -⟩ := hmakes granted hgranted
  have hmissing : Missing answer.refreshToken := Or.inr rfl
  exact ⟨hcentury, by decide, hend, by decide, hgranted, (hfirst _).mpr ⟨hmissing, rfl⟩,
    (hnext _).mpr ⟨hmissing, Or.inr ⟨by decide, by decide +kernel, rfl⟩⟩⟩

end TokenCustody
