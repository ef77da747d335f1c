/-
TokenCustody.Proofs.Token.Chain — a refresh token that stays.

A provider that does not rotate the refresh token may leave it out of its
answer, or send the same one again. The token is the same either way, but
`Record.refreshTokenAfter` goes by the grant alone: a token that was left
out keeps its expiry, and one that was sent again is dated as if it were
new.

So along a chain of refreshes with one refresh token the expiry stays
where it was exactly as long as no grant echoes the token, or every echo
is by chance dated to the same instant (`Record.Chain.expiry_kept_iff`).
-/
import TokenCustody.Proofs.Time.Instant
import TokenCustody.Proofs.Token.Record

namespace TokenCustody

open TokenCustody.Time

/-! ## One refresh -/

/-- The grant sends the refresh token of the record again. -/
def Grant.Echoes (g : Grant) (r : Record) : Prop := g.refreshToken = some r.refreshToken

namespace Record

variable {base next : Record} {g : Grant} {lifetime : Span}

/-- A refresh token that is left out of a grant is kept with its expiry. One that is in the
grant is dated from the grant. -/
theorem successor_expiry (h : base.successor g lifetime = some (.ok next)) :
    (g.refreshToken = none ∧ next.refreshToken = base.refreshToken ∧
        next.refreshExpiresAt = base.refreshExpiresAt) ∨
      (g.refreshToken = some next.refreshToken ∧
        g.receivedAt.add (g.refreshLifetime.getD lifetime) = some next.refreshExpiresAt) := by
  obtain ⟨token, t, _, hafter, -, -, rfl⟩ := successor_ok h
  unfold refreshTokenAfter at hafter
  cases hg : g.refreshToken with
  | none =>
    simp only [hg, Option.some.injEq, Prod.mk.injEq] at hafter
    exact Or.inl ⟨rfl, hafter.1.symm, hafter.2.symm⟩
  | some sent =>
    simp only [hg] at hafter
    obtain ⟨t', hadd, hpair⟩ := Option.map_eq_some_iff.mp hafter
    cases hpair
    exact Or.inr ⟨rfl, hadd⟩

theorem successor_expiresAt_le (h : base.successor g lifetime = some (.ok next)) :
    next.expiresAt ≤ next.refreshExpiresAt := by
  obtain ⟨_, limit, _, -, hexpires, -, rfl⟩ := successor_ok h
  obtain ⟨_, -, rfl⟩ := Option.map_eq_some_iff.mp hexpires
  exact Instant.min_le_right

/-- The refresh token that stays keeps its expiry, unless the grant echoes it and dates it
to another instant. -/
theorem successor_keeps_iff (h : base.successor g lifetime = some (.ok next))
    (hsame : next.refreshToken = base.refreshToken) (hsilent : g.refreshLifetime = none) :
    next.refreshExpiresAt = base.refreshExpiresAt ↔
      (g.Echoes base → g.receivedAt.add lifetime = some base.refreshExpiresAt) := by
  rcases successor_expiry h with ⟨hnone, -, hkept⟩ | ⟨hsent, hdated⟩
  · have hnot : ¬g.Echoes base := by
      intro hechoes
      rw [Grant.Echoes, hnone] at hechoes
      cases hechoes
    exact iff_of_true hkept fun hechoes => absurd hechoes hnot
  · have hechoes : g.Echoes base := hsent.trans (congrArg some hsame)
    rw [hsilent, Option.getD_none] at hdated
    simp [hechoes, hdated]

/-! ## A chain of refreshes -/

/-- Refreshes that succeed one after the other, and the records they lead to. Every grant
comes with the lifetime that counts for a refresh token of which none is announced. -/
inductive Chain : Record → List (Grant × Span) → List Record → Prop where
  | nil (base : Record) : Chain base [] []
  | cons {base next : Record} {g : Grant} {lifetime : Span} {steps : List (Grant × Span)}
      {rs : List Record} (h : base.successor g lifetime = some (.ok next))
      (rest : Chain next steps rs) : Chain base ((g, lifetime) :: steps) (next :: rs)

namespace Chain

variable {steps : List (Grant × Span)} {rs : List Record}

/-- No access token in a chain outlives the refresh token beside it. -/
theorem expiresAt_le (h : base.Chain steps rs) : ∀ r ∈ rs, r.expiresAt ≤ r.refreshExpiresAt := by
  induction h with
  | nil base => exact fun r hr => (List.not_mem_nil hr).elim
  | cons h _ ih => exact List.forall_mem_cons.mpr ⟨successor_expiresAt_le h, ih⟩

/-- Along a chain with one refresh token its expiry stays exactly if every echo is dated to
it. -/
theorem refreshExpiresAt_eq_iff (h : base.Chain steps rs)
    (hsame : ∀ r ∈ rs, r.refreshToken = base.refreshToken)
    (hsilent : ∀ s ∈ steps, s.1.refreshLifetime = none) :
    (∀ r ∈ rs, r.refreshExpiresAt = base.refreshExpiresAt) ↔
      ∀ s ∈ steps, s.1.Echoes base → s.1.receivedAt.add s.2 = some base.refreshExpiresAt := by
  induction h with
  | nil base => simp
  | @cons base next g lifetime steps rs h rest ih =>
    obtain ⟨hnext, hrest⟩ := List.forall_mem_cons.mp hsame
    obtain ⟨hg, hsteps⟩ := List.forall_mem_cons.mp hsilent
    rw [List.forall_mem_cons, List.forall_mem_cons]
    have hhead := successor_keeps_iff h hnext hg
    by_cases hkept : next.refreshExpiresAt = base.refreshExpiresAt
    · -- The rest starts from the same token and the same expiry.
      have htail := ih (fun r hr => (hrest r hr).trans hnext.symm) hsteps
      simp only [Grant.Echoes, hnext, hkept] at htail
      exact and_congr hhead htail
    · exact iff_of_false (fun hall => hkept hall.1) fun hall => hkept (hhead.mpr hall.1)

/-- **A refresh token that is not rotated keeps its expiry** along any number of refreshes,
and no access token outlives it, exactly if every grant that echoes the token dates it to the
expiry it had. In any case no access token outlives the expiry beside it. -/
theorem expiry_kept_iff (h : base.Chain steps rs)
    (hsame : ∀ r ∈ rs, r.refreshToken = base.refreshToken)
    (hsilent : ∀ s ∈ steps, s.1.refreshLifetime = none) :
    (∀ r ∈ rs, r.expiresAt ≤ r.refreshExpiresAt) ∧
      ((∀ r ∈ rs, r.refreshExpiresAt = base.refreshExpiresAt ∧
          r.expiresAt ≤ base.refreshExpiresAt) ↔
        ∀ s ∈ steps, s.1.Echoes base →
          s.1.receivedAt.add s.2 = some base.refreshExpiresAt) := by
  have hclamped := h.expiresAt_le
  refine ⟨hclamped, ?_⟩
  rw [← h.refreshExpiresAt_eq_iff hsame hsilent]
  constructor
  · exact fun hall r hr => (hall r hr).1
  · intro hall r hr
    have hle := hclamped r hr
    rw [hall r hr] at hle
    exact ⟨hall r hr, hle⟩

/-! ### A token that is left out, and then sent again -/

namespace Sample

/-- So many hours after the start of 1970. -/
def hour (n : Int) : Instant := (Instant.ofParts? (n * 3600) 0).getD .epoch

/-- An access token for an hour and a refresh token for a day. -/
def first : Record :=
  { accessToken := "access 1", refreshToken := "refresh", tokenType := "Bearer", scope := none
    issuedAt := hour 0, expiresAt := hour 1, refreshExpiresAt := hour 24
    lastRefreshAt := none, refreshCount := 0, fault := none, version := none }

/-- An access token for two hours, received in some hour. -/
def granted (n : Int) (refreshToken : Option String) : Grant :=
  { accessToken := "access 2", refreshToken, tokenType := "Bearer", scope := none
    lifetime := .ofSeconds 7200, refreshLifetime := none, receivedAt := hour n }

/-- The record of the grant of some hour, with the expiry of its refresh token. -/
def renewed (n expires limit : Int) (count : Nat) : Record :=
  { first with
    accessToken := "access 2", issuedAt := hour n, expiresAt := hour expires
    refreshExpiresAt := hour limit, lastRefreshAt := some (hour n), refreshCount := count }

end Sample

open Sample

theorem expiry_kept_iff_of_sample :
    let steps := [(granted 8 none, Span.ofDays 1), (granted 23 (some "refresh"), ⟨3600000000000⟩)]
    let rs := [renewed 8 10 24 1, renewed 23 24 24 2]
    first.Chain steps rs ∧
      (∀ r ∈ rs, r.refreshExpiresAt = first.refreshExpiresAt ∧
        r.expiresAt ≤ first.refreshExpiresAt) := by
  intro steps rs
  have hchain : first.Chain steps rs :=
    .cons rfl (.cons rfl (.nil _))
  refine ⟨hchain, (expiry_kept_iff hchain ?_ ?_).2.mpr ?_⟩
  · decide +kernel
  · decide +kernel
  · -- The hour that the token has left at the echo leads to the expiry it had.
    have hdated : ∀ s ∈ steps, s.1.refreshToken = some "refresh" →
        s.1.receivedAt.add s.2 = some first.refreshExpiresAt := by
      decide +kernel
    exact hdated

/-- An echo an hour before the token expires moves the expiry by a day, and the access token
outlives the one it had. -/
theorem expiry_moved_by_echo :
    ∃ (base next : Record) (g : Grant) (lifetime : Span),
      base.Chain [(g, lifetime)] [next] ∧ g.Echoes base ∧ g.refreshLifetime = none ∧
        next.refreshToken = base.refreshToken ∧
        next.refreshExpiresAt ≠ base.refreshExpiresAt ∧
        ¬next.expiresAt ≤ base.refreshExpiresAt :=
  ⟨first, renewed 23 25 47 1, granted 23 (some "refresh"), .ofDays 1,
    .cons rfl (.nil _), rfl, rfl, rfl, by decide +kernel, by decide +kernel⟩

end Chain

end Record

end TokenCustody
