/-
TokenCustody.Proofs.Token.Record — what a run makes of records.

A run gives a record a version, checks it, and makes new ones of grants.
A record that passes `Record.checked` is the record it was before, and
nothing is wrong with it. So what a first record or a successor consists
of can be read off the definitions, once it is known to be there
(`Record.successor_ok`, `Grant.firstRecord_facts`).
-/
import TokenCustody.Token.Grant

namespace TokenCustody

open TokenCustody.Time

theorem Record.bare_withVersion {r : Record} (h : r.version = none) (v : Version) :
    (r.withVersion v).bare = r := by
  cases r
  cases h
  rfl

/-- A check that is passed gives back the record and says that nothing is wrong with it. -/
theorem Record.checked_ok {r r' : Record} (h : r.checked = .ok r') :
    r' = r ∧ r.defect? = none := by
  unfold Record.checked at h
  split at h
  · cases h
  · next hd =>
    cases h
    exact ⟨rfl, hd⟩

theorem Record.countAfter_eq_some_iff {r : Record} {n : Nat} :
    r.countAfter = some n ↔ r.refreshCount + 1 < Text.wordCount ∧ r.refreshCount + 1 = n := by
  unfold Record.countAfter
  split <;> simp [*]

/-- A successor is made of the grant, of the token that counts after it and of an expiry
within that token's, is one refresh further and carries no fault. -/
theorem Record.successor_ok {base next : Record} {g : Grant} {lifetime : Span}
    (h : base.successor g lifetime = some (.ok next)) :
    ∃ token refreshExpiresAt expiresAt,
      base.refreshTokenAfter g lifetime = some (token, refreshExpiresAt) ∧
      expiryWithin g.receivedAt g.lifetime refreshExpiresAt = some expiresAt ∧
      next.defect? = none ∧
      next =
        { accessToken := g.accessToken
          refreshToken := token
          tokenType := g.tokenType
          scope := g.scope.orElse fun _ => base.scope
          issuedAt := g.receivedAt
          expiresAt
          refreshExpiresAt
          lastRefreshAt := some g.receivedAt
          refreshCount := base.refreshCount + 1
          fault := none
          version := none } := by
  unfold Record.successor at h
  cases ht : base.refreshTokenAfter g lifetime with
  | none => simp [ht] at h
  | some p =>
    cases he : expiryWithin g.receivedAt g.lifetime p.2 with
    | none => simp [ht, he] at h
    | some expiresAt =>
      cases hc : base.countAfter with
      | none => simp [ht, hc] at h
      | some count =>
        simp only [ht, he, hc, Option.bind_eq_bind, Option.bind_some, Option.some.injEq] at h
        obtain ⟨rfl, hd⟩ := Record.checked_ok h
        obtain ⟨-, rfl⟩ := Record.countAfter_eq_some_iff.mp hc
        exact ⟨p.1, p.2, expiresAt, rfl, he, hd, rfl⟩

/-- A successor is one refresh further, carries no fault and has no version yet. -/
theorem Record.successor_facts {base next : Record} {g : Grant} {lifetime : Span}
    (h : base.successor g lifetime = some (.ok next)) :
    next.refreshCount = base.refreshCount + 1 ∧ next.fault = none ∧ next.version = none := by
  obtain ⟨_, _, _, -, -, -, rfl⟩ := Record.successor_ok h
  exact ⟨rfl, rfl, rfl⟩

/-- The first record of a credential is made of the grant, of its refresh token and of an expiry
within that token's, and knows of no refresh and no fault. -/
theorem Grant.firstRecord_made {r : Record} {g : Grant} {lifetime : Span}
    (h : g.firstRecord lifetime = some (.ok r)) : ∃ token refreshExpiresAt expiresAt,
      g.refreshToken = some token ∧
      g.receivedAt.add (g.refreshLifetime.getD lifetime) = some refreshExpiresAt ∧
      expiryWithin g.receivedAt g.lifetime refreshExpiresAt = some expiresAt ∧
      r.defect? = none ∧
      r = { accessToken := g.accessToken, refreshToken := token, tokenType := g.tokenType
            scope := g.scope, issuedAt := g.receivedAt, expiresAt, refreshExpiresAt
            lastRefreshAt := none, refreshCount := 0, fault := none, version := none } := by
  unfold Grant.firstRecord at h
  cases hr : g.refreshToken with
  | none => simp [hr] at h
  | some token =>
    cases ht : g.receivedAt.add (g.refreshLifetime.getD lifetime) with
    | none => simp [hr, ht] at h
    | some t =>
      cases he : expiryWithin g.receivedAt g.lifetime t with
      | none => simp [hr, ht, he] at h
      | some t' =>
        simp only [hr, ht, he, Option.bind_eq_bind, Option.bind_some, Option.some.injEq] at h
        obtain ⟨rfl, hd⟩ := Record.checked_ok h
        exact ⟨token, t, t', rfl, rfl, he, hd, rfl⟩

theorem Grant.firstRecord_eq {r : Record} {g : Grant} {lifetime : Span}
    (h : g.firstRecord lifetime = some (.ok r)) : ∃ token refreshExpiresAt expiresAt,
      g.refreshToken = some token ∧
      r = { accessToken := g.accessToken, refreshToken := token, tokenType := g.tokenType
            scope := g.scope, issuedAt := g.receivedAt, expiresAt, refreshExpiresAt
            lastRefreshAt := none, refreshCount := 0, fault := none, version := none } := by
  obtain ⟨token, limit, expiresAt, htoken, -, -, -, hr⟩ := Grant.firstRecord_made h
  exact ⟨token, limit, expiresAt, htoken, hr⟩

/-- The first record of a credential has the refresh token that was granted, counts no refresh,
carries no fault and has no version yet. -/
theorem Grant.firstRecord_ok {r : Record} {g : Grant} {lifetime : Span}
    (h : g.firstRecord lifetime = some (.ok r)) :
    g.refreshToken = some r.refreshToken ∧
      r.refreshCount = 0 ∧ r.fault = none ∧ r.version = none := by
  obtain ⟨token, _, _, htoken, rfl⟩ := Grant.firstRecord_eq h
  exact ⟨htoken, rfl, rfl, rfl⟩

theorem Grant.firstRecord_facts {r : Record} {g : Grant} {lifetime : Span}
    (h : g.firstRecord lifetime = some (.ok r)) :
    r.refreshCount = 0 ∧ r.fault = none ∧ r.version = none :=
  (Grant.firstRecord_ok h).2

end TokenCustody
