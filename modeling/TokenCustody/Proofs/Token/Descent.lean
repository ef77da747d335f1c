/-
TokenCustody.Proofs.Token.Descent — a record is the sum of its grants.

A record descends from a first grant and from one more grant for each
refresh since. What it has of them follows a rule per field: some fields
are those of the latest grant, the scope and the refresh token are those
of the last grant that had one, the expiry of the refresh token was set
with it, and the refreshes are counted (`Record.Sums`). The first record
is such a sum of one grant, one refresh carries the sum on to one more
grant (`Record.Sums.step`), and so every descendant is the sum of all
grants (`Record.Descends.sums`).

Between two refreshes a record is kept: stored, read at a version,
declared unusable. A successor takes nothing of that over
(`Record.Kept.successor_eq`), so it does not show in any later record.
-/
import TokenCustody.Proofs.Token.Chain

namespace TokenCustody

open TokenCustody.Time

namespace Record

/-! ## Descent -/

/-- What may become of a record until the next refresh. -/
inductive Kept (r : Record) : Record → Prop where
  | same : Kept r r
  | faulted {r' : Record} (h : Kept r r') (f : Fault) : Kept r (r'.withFault f)
  | versioned {r' : Record} (h : Kept r r') (v : Version) : Kept r (r'.withVersion v)

/-- A record that a first grant and a grant for each refresh since have led to. The configured
`lifetime` stands in for the lifetime of every refresh token of which none is announced. -/
inductive Descends (lifetime : Span) (first : Grant) : List Grant → Record → Prop where
  | first {r : Record} (h : first.firstRecord lifetime = some (.ok r)) :
      Descends lifetime first [] r
  | next {later : List Grant} {r r' next : Record} {g : Grant}
      (h : Descends lifetime first later r) (hkept : r.Kept r')
      (hnext : r'.successor g lifetime = some (.ok next)) :
      Descends lifetime first (later ++ [g]) next

/-- A record made of a first grant and later ones, field by field. -/
structure Sums (lifetime : Span) (first : Grant) (later : List Grant) (r : Record) : Prop where
  refreshCount : r.refreshCount = later.length
  accessToken : r.accessToken = (later.getLastD first).accessToken
  tokenType : r.tokenType = (later.getLastD first).tokenType
  issuedAt : r.issuedAt = (later.getLastD first).receivedAt
  lastRefreshAt : r.lastRefreshAt = later.getLast?.map Grant.receivedAt
  scope : r.scope = ((first :: later).filterMap Grant.scope).getLast?
  /-- The last grant with a refresh token says what it is and how long it lives. -/
  refreshToken : ∃ g, ((first :: later).filter fun g => g.refreshToken.isSome).getLast? = some g ∧
    g.refreshToken = some r.refreshToken ∧
    g.receivedAt.add (g.refreshLifetime.getD lifetime) = some r.refreshExpiresAt
  /-- The latest grant says how long the access token lives, within the refresh token's life. -/
  expiresAt : ∃ ends,
    (later.getLastD first).receivedAt.add (later.getLastD first).lifetime = some ends ∧
    r.expiresAt = min ends r.refreshExpiresAt
  fault : r.fault = none
  version : r.version = none
  sound : r.defect? = none

variable {lifetime : Span} {first g : Grant} {later : List Grant} {r r' next : Record}

/-- A successor takes nothing over of what became of a record that was kept. -/
theorem Kept.successor_eq (h : r.Kept r') : r'.successor g lifetime = r.successor g lifetime := by
  induction h with
  | same => rfl
  | faulted _ f ih => exact ih
  | versioned _ v ih => exact ih

/-! ## Sums -/

namespace Sums

theorem start (h : first.firstRecord lifetime = some (.ok r)) : r.Sums lifetime first [] := by
  obtain ⟨token, limit, expiresAt, htoken, hlimit, hexpires, hsound, rfl⟩ :=
    Grant.firstRecord_made h
  obtain ⟨ends, hends, rfl⟩ := Option.map_eq_some_iff.mp hexpires
  exact
    { refreshCount := rfl
      accessToken := rfl
      tokenType := rfl
      issuedAt := rfl
      lastRefreshAt := rfl
      scope := by cases hscope : first.scope <;> simp [hscope]
      refreshToken := ⟨first, by simp [htoken], htoken, hlimit⟩
      expiresAt := ⟨ends, hends, rfl⟩
      fault := rfl
      version := rfl
      sound := hsound }

/-- One refresh adds its grant to the sum. -/
theorem step (h : r.Sums lifetime first later)
    (hnext : r.successor g lifetime = some (.ok next)) :
    next.Sums lifetime first (later ++ [g]) := by
  obtain ⟨token, limit, expiresAt, hcounts, hexpires, hsound, rfl⟩ := successor_ok hnext
  obtain ⟨ends, hends, rfl⟩ := Option.map_eq_some_iff.mp hexpires
  have hlatest : (later ++ [g]).getLastD first = g := by simp [List.getLastD_eq_getLast?]
  refine
    { refreshCount := by simp [h.refreshCount]
      accessToken := by rw [hlatest]
      tokenType := by rw [hlatest]
      issuedAt := by rw [hlatest]
      lastRefreshAt := by simp
      scope := ?_
      refreshToken := ?_
      expiresAt := ⟨ends, by rw [hlatest]; exact hends, rfl⟩
      fault := rfl
      version := rfl
      sound := hsound }
  · rw [← List.cons_append, List.filterMap_append, List.getLast?_append, ← h.scope]
    cases hscope : g.scope <;> simp [hscope]
  · rw [← List.cons_append, List.filter_append, List.getLast?_append]
    unfold refreshTokenAfter at hcounts
    cases hg : g.refreshToken with
    | some token' =>
      rw [hg] at hcounts
      obtain ⟨limit', hlimit, hpair⟩ := Option.map_eq_some_iff.mp hcounts
      cases hpair
      exact ⟨g, by simp [hg], hg, hlimit⟩
    | none =>
      -- a grant without a refresh token is not among the carriers, so the last one stays the last
      rw [hg] at hcounts
      cases hcounts
      obtain ⟨carrier, hlast, hcarrier⟩ := h.refreshToken
      exact ⟨carrier, by simpa [hg] using hlast, hcarrier⟩

/-- The sum says all of a record. -/
theorem unique (h : r.Sums lifetime first later) (h' : r'.Sums lifetime first later) : r' = r := by
  obtain ⟨carrier, hlast, htoken, hlimit⟩ := h.refreshToken
  obtain ⟨carrier', hlast', htoken', hlimit'⟩ := h'.refreshToken
  obtain rfl : carrier' = carrier := Option.some.inj (hlast'.symm.trans hlast)
  have hrefresh : r'.refreshToken = r.refreshToken := Option.some.inj (htoken'.symm.trans htoken)
  have hlimits : r'.refreshExpiresAt = r.refreshExpiresAt :=
    Option.some.inj (hlimit'.symm.trans hlimit)
  obtain ⟨ends, hends, hmin⟩ := h.expiresAt
  obtain ⟨ends', hends', hmin'⟩ := h'.expiresAt
  obtain rfl : ends' = ends := Option.some.inj (hends'.symm.trans hends)
  have hexpires : r'.expiresAt = r.expiresAt := by rw [hmin', hmin, hlimits]
  have haccess := h'.accessToken.trans h.accessToken.symm
  have htype := h'.tokenType.trans h.tokenType.symm
  have hscope := h'.scope.trans h.scope.symm
  have hissued := h'.issuedAt.trans h.issuedAt.symm
  have hrefreshed := h'.lastRefreshAt.trans h.lastRefreshAt.symm
  have hcount := h'.refreshCount.trans h.refreshCount.symm
  have hfault := h'.fault.trans h.fault.symm
  have hversion := h'.version.trans h.version.symm
  cases r
  cases r'
  simp only at *
  subst_vars
  rfl

end Sums

/-! ## Descendants -/

theorem Descends.sums (h : Descends lifetime first later r) : r.Sums lifetime first later := by
  induction h with
  | first h => exact Sums.start h
  | next _ hkept hnext ih =>
    rw [hkept.successor_eq] at hnext
    exact ih.step hnext

/-- **A record is the sum of its grants**, whatever became of the records between the refreshes:
the same grants lead to the same record, and it is of no consequence for a refresh what became
of the record before. -/
theorem Descends.fold (h : Descends lifetime first later r) :
    r.Sums lifetime first later ∧
      (∀ r', Descends lifetime first later r' → r' = r) ∧
      ∀ r', r.Kept r' → ∀ g, r'.successor g lifetime = r.successor g lifetime :=
  ⟨h.sums, fun _ h' => h.sums.unique h'.sums, fun _ hkept _ => hkept.successor_eq⟩

/-! ### A lineage with a fault in it -/

namespace Descends.Sample

open Chain.Sample (hour)

/-- An access token for eight hours, received in some hour. -/
def granted (n : Int) (refreshToken scope : Option String) : Grant :=
  { accessToken := "access", refreshToken, tokenType := "Bearer", scope
    lifetime := .ofSeconds 28800, refreshLifetime := none, receivedAt := hour n }

/-- The refresh token lives for a day, unless it is replaced. -/
def authorized : Grant :=
  { granted 0 (some "refresh 1") (some "read") with refreshLifetime := some (.ofDays 1) }

def refused : Fault := ⟨.apiRejected, "revoked", hour 9⟩

/-- After the refreshes of hour 20, which keeps the refresh token, and of hour 22. -/
def descendant : Record :=
  { accessToken := "access", refreshToken := "refresh 2", tokenType := "Bearer"
    scope := some "read", issuedAt := hour 22, expiresAt := hour 30
    refreshExpiresAt := hour (22 + 90 * 24), lastRefreshAt := some (hour 22), refreshCount := 2
    fault := none, version := none }

end Descends.Sample

open Descends.Sample in
theorem Descends.fold_of_sample :
    let later := [granted 20 none none, granted 22 (some "refresh 2") none]
    Descends (.ofDays 90) authorized later descendant ∧
      descendant.Sums (.ofDays 90) authorized later := by
  intro later
  have hsecond : ∃ r, Descends (.ofDays 90) authorized [granted 20 none none] r ∧
      r.successor (granted 22 (some "refresh 2") none) (.ofDays 90) = some (.ok descendant) :=
    ⟨_, .next (.first rfl) (.versioned (.faulted .same refused) ⟨"3"⟩) rfl, rfl⟩
  obtain ⟨r, hr, hnext⟩ := hsecond
  have hdescends : Descends (.ofDays 90) authorized later descendant := hr.next .same hnext
  exact ⟨hdescends, (Descends.fold hdescends).1⟩

end Record

end TokenCustody
