/-
TokenCustody.Proofs.Token.State — when an access token can be presented.

Of the states of a sound record two are usable, and together they last
exactly until the access token expires, if the record carries no fault.
How long that is for a record made of a grant depends on what the
provider has announced: a lifetime of no seconds is allowed, and then
the access token has expired when it is received.
-/
import TokenCustody.Proofs.Time.Instant
import TokenCustody.Proofs.Token.Record
import TokenCustody.Token.Response
import TokenCustody.Token.State

namespace TokenCustody

open TokenCustody.Time

namespace Record

variable {r : Record} {threshold : Span} {t : Instant}

/-- Nothing is wrong with a record if it has its tokens and its times are in order. -/
theorem defect_eq_none_iff : r.defect? = none ↔
    r.refreshToken ≠ "" ∧ ¬(r.accessToken = "" ∧ r.fault = none) ∧
      r.issuedAt ≤ r.expiresAt ∧ r.expiresAt ≤ r.refreshExpiresAt := by
  unfold defect?
  by_cases hr : r.refreshToken = ""
  · simp [hr]
  by_cases ha : r.accessToken = "" ∧ r.fault = none
  · simp [hr, ha]
  by_cases hi : r.issuedAt ≤ r.expiresAt
  · simp [hr, ha, hi]
  · simp [hr, ha, hi]

/-- With a record that has its access token and expires within its refresh token, two things can
be wrong. -/
theorem checked_eq (ha : r.accessToken ≠ "") (hle : r.expiresAt ≤ r.refreshExpiresAt) :
    r.checked =
      if r.refreshToken = "" then .error (.protocol (.invalidRecord "empty refresh token"))
      else if r.issuedAt ≤ r.expiresAt then .ok r
      else .error (.protocol (.invalidRecord "issued_at is after expires_at")) := by
  have hpresent : ¬(r.accessToken = "" ∧ r.fault = none) := fun h => ha h.1
  unfold checked defect?
  rw [if_neg hpresent, if_neg (not_not_intro hle), ite_not]
  by_cases hr : r.refreshToken = ""
  · simp only [if_pos hr]
  · by_cases hi : r.issuedAt ≤ r.expiresAt
    · simp only [if_neg hr, if_pos hi]
    · simp only [if_neg hr, if_neg hi]

theorem accessToken_ne (hr : r.defect? = none) (hf : r.fault = none) : r.accessToken ≠ "" :=
  fun ha => (defect_eq_none_iff.mp hr).2.1 ⟨ha, hf⟩

/-- The access token can be presented at an instant. -/
def UsableAt (threshold : Span) (r : Record) (t : Instant) : Prop :=
  ∃ st, r.stateAt threshold t .notObserved = some st ∧ st.isUsable = true

/-- A sound record is usable as long as it is unfaulted and its access token has not
expired, if the threshold before the expiry is in the calendar. -/
theorem usableAt_iff (hr : r.defect? = none) : r.UsableAt threshold t ↔
    r.fault = none ∧ t < r.expiresAt ∧ (r.expiresAt.sub threshold).isSome := by
  obtain ⟨-, -, -, horder⟩ := defect_eq_none_iff.mp hr
  unfold UsableAt stateAt
  cases hf : r.fault with
  | some f => simp [TokenState.isUsable]
  | none =>
    by_cases ht : r.expiresAt ≤ t
    · -- Expired, whether or not the refresh token is too.
      have hnot : ¬t < r.expiresAt := fun h => h ht
      by_cases hrt : r.refreshExpiresAt ≤ t
      · simp [hrt, hnot, TokenState.isUsable, ApiOutcome.isRejection]
      · simp [ht, hrt, hnot, TokenState.isUsable, ApiOutcome.isRejection]
    · have hlt : t < r.expiresAt := ht
      have hrt : ¬r.refreshExpiresAt ≤ t := fun h => ht (Instant.le_trans horder h)
      cases hsub : r.expiresAt.sub threshold with
      | none => simp [ht, hrt, ApiOutcome.isRejection]
      | some due =>
        by_cases hdue : due ≤ t
        · simp [ht, hrt, hlt, hdue, TokenState.isUsable, ApiOutcome.isRejection]
        · simp [ht, hrt, hlt, hdue, TokenState.isUsable, ApiOutcome.isRejection]

/-- What a state that the clock alone decides says about the record. -/
theorem stateAt_cases {st : TokenState} (h : r.stateAt threshold t .notObserved = some st) :
    (st = .invalid ∧ r.fault ≠ none) ∨
      (st = .expiredUnrefreshable ∧ r.fault = none ∧ r.refreshExpiresAt ≤ t) ∨
      (st = .valid ∨ st = .expiringSoon ∨ st = .expiredRefreshable) ∧ r.fault = none := by
  unfold stateAt at h
  cases hf : r.fault with
  | some f =>
    simp only [hf, Option.isSome_some, true_or, if_true, Option.some.injEq] at h
    exact Or.inl ⟨h.symm, nofun⟩
  | none =>
    simp only [hf, Option.isSome_none, Bool.false_eq_true, ApiOutcome.isRejection, or_self,
      if_false] at h
    split at h
    · next hle => exact Or.inr (Or.inl ⟨(Option.some.inj h).symm, rfl, hle⟩)
    · refine Or.inr (Or.inr ⟨?_, rfl⟩)
      split at h
      · exact Or.inr (Or.inr (Option.some.inj h).symm)
      · obtain ⟨due, -, rfl⟩ := Option.map_eq_some_iff.mp h
        split
        · exact Or.inr (Or.inl rfl)
        · exact Or.inl rfl

/-- A record that is about to be refreshed has a refresh token that has not expired. -/
theorem lt_refreshExpiresAt {st : TokenState} (h : r.stateAt threshold t .notObserved = some st)
    (hst : st.needsRefresh = true) : t < r.refreshExpiresAt := by
  intro hle
  unfold stateAt at h
  split at h
  · cases h
    cases hst
  · cases h
    cases hst

/-! ## When there is no state -/

/-- Nothing but the threshold decides about the record: it carries no fault, no call was
rejected, and neither of its tokens has expired. -/
def Lives (r : Record) (now : Instant) (api : ApiOutcome) : Prop :=
  r.fault = none ∧ api.isRejection = false ∧ now < r.expiresAt ∧ now < r.refreshExpiresAt

/-- A record has no state exactly if only the threshold decides about it and that leads beyond
the calendar. -/
theorem stateAt_eq_none_iff {api : ApiOutcome} :
    r.stateAt threshold t api = none ↔ r.Lives t api ∧ r.expiresAt.sub threshold = none := by
  unfold stateAt Lives
  by_cases hrefused : r.fault.isSome ∨ api.isRejection
  · have hnot : ¬(r.fault = none ∧ api.isRejection = false) := by
      rintro ⟨hf, ha⟩
      simp [hf, ha] at hrefused
    simp only [if_pos hrefused, reduceCtorEq, false_iff]
    exact fun h => hnot ⟨h.1.1, h.1.2.1⟩
  have hsound : r.fault = none ∧ api.isRejection = false := by simpa using hrefused
  rw [if_neg hrefused]
  by_cases hrefresh : r.refreshExpiresAt ≤ t
  · simp only [if_pos hrefresh, reduceCtorEq, false_iff]
    exact fun h => h.1.2.2.2 hrefresh
  rw [if_neg hrefresh]
  by_cases hexpired : r.expiresAt ≤ t
  · simp only [if_pos hexpired, reduceCtorEq, false_iff]
    exact fun h => h.1.2.2.1 hexpired
  rw [if_neg hexpired, Option.map_eq_none_iff]
  exact (and_iff_right ⟨hsound.1, hsound.2, hexpired, hrefresh⟩).symm

/-! ## When a refresh is due -/

/-- When a refresh falls due: the threshold before the access token expires. It is due at the
expiry if the threshold is negative or leads beyond the calendar. -/
def dueFrom (threshold : Span) (r : Record) : Instant :=
  if threshold.nanos < 0 then r.expiresAt else (r.expiresAt.sub threshold).getD r.expiresAt

theorem dueFrom_congr {r' : Record} (h : r.expiresAt = r'.expiresAt) :
    r.dueFrom threshold = r'.dueFrom threshold := by
  unfold dueFrom
  rw [h]

/-- A refresh never falls due after the access token has expired. -/
theorem dueFrom_le_expiresAt : r.dueFrom threshold ≤ r.expiresAt := by
  unfold dueFrom
  split
  · exact Instant.le_refl _
  · next hnot =>
    cases hsub : r.expiresAt.sub threshold with
    | none => exact Instant.le_refl _
    | some due =>
      have hlt : ¬r.expiresAt < due := fun h => hnot ((Instant.lt_sub_iff hsub).mp h)
      exact Decidable.not_not.mp hlt

/-- A record is about to be refreshed only when that is due. -/
theorem dueFrom_le {st : TokenState} (h : r.stateAt threshold t .notObserved = some st)
    (hst : st.needsRefresh = true) : r.dueFrom threshold ≤ t := by
  unfold stateAt at h
  split at h
  · cases h
    cases hst
  split at h
  · cases h
    cases hst
  split at h
  · next hexpired => exact Instant.le_trans dueFrom_le_expiresAt hexpired
  · obtain ⟨due, hsub, rfl⟩ := Option.map_eq_some_iff.mp h
    have hdue : due ≤ t := by
      split at hst
      · next hdue => exact hdue
      · cases hst
    unfold dueFrom
    split
    · next hneg =>
      -- With a negative threshold this comes after the expiry.
      have hlater : ¬due ≤ r.expiresAt := (Instant.lt_sub_iff hsub).mpr hneg
      exact Instant.le_trans ((Instant.le_total r.expiresAt due).resolve_right hlater) hdue
    · rw [hsub]
      exact hdue

end Record

/-! ## Lifetimes -/

theorem lifetimeOfSeconds_pos {n : Nat} : 0 < (lifetimeOfSeconds n).nanos ↔ n ≠ 0 := by
  have hm : 0 < maxLifetimeSeconds := by decide
  show (0 : Int) < (min n maxLifetimeSeconds : Nat) * (1000000000 : Nat) ↔ n ≠ 0
  omega

theorem lifetimeOfSeconds_nonneg (n : Nat) : 0 ≤ (lifetimeOfSeconds n).nanos := by
  show (0 : Int) ≤ (min n maxLifetimeSeconds : Nat) * (1000000000 : Nat)
  omega

/-- A grant has the lifetimes that the answer announces, from when the answer was received. -/
theorem Grant.ofResponse_ok {resp : TokenResponse} {t : Instant} {g : Grant}
    (h : Grant.ofResponse resp t = .ok g) :
    g.receivedAt = t ∧ resp.expiresIn.map lifetimeOfSeconds = some g.lifetime ∧
      g.refreshToken = nonEmpty resp.refreshToken ∧
      g.refreshLifetime = resp.refreshTokenExpiresIn.map lifetimeOfSeconds := by
  unfold Grant.ofResponse at h
  split at h
  · cases h
  · cases h
  · next hn =>
    cases h
    exact ⟨rfl, by rw [hn]; rfl, rfl, rfl⟩

theorem ne_of_nonEmpty {t : Option String} {s : String} (h : nonEmpty t = some s) : s ≠ "" := by
  obtain ⟨-, hs⟩ := Option.filter_eq_some_iff.mp h
  exact of_decide_eq_true hs

theorem Grant.accessToken_ne {resp : TokenResponse} {t : Instant} {g : Grant}
    (h : Grant.ofResponse resp t = .ok g) : g.accessToken ≠ "" := by
  unfold Grant.ofResponse at h
  split at h
  · cases h
  · cases h
  · next htoken _ =>
    cases h
    exact ne_of_nonEmpty htoken

/-- The access token and a new refresh token live for some time. The lifetime of a refresh
token that is not announced is the configured one. -/
def TokenResponse.Lasting (resp : TokenResponse) (refreshLifetime : Span) : Prop :=
  resp.expiresIn ≠ some 0 ∧
    (nonEmpty resp.refreshToken ≠ none →
      match resp.refreshTokenExpiresIn with
      | some n => n ≠ 0
      | none => 0 < refreshLifetime.nanos)

/-- A successor expires after its grant was received exactly if the answer lasts, as long as
the refresh token before it has not expired. -/
theorem Record.lt_expiresAt_iff {base next : Record} {resp : TokenResponse} {t : Instant}
    {g : Grant} {refreshLifetime : Span} (hg : Grant.ofResponse resp t = .ok g)
    (hnext : base.successor g refreshLifetime = some (.ok next)) (ht : t < base.refreshExpiresAt) :
    t < next.expiresAt ↔ resp.Lasting refreshLifetime := by
  obtain ⟨hreceived, hlifetime, htoken, hrefresh⟩ := Grant.ofResponse_ok hg
  obtain ⟨token, limit, expiresAt, hlimit, hexpires, -, rfl⟩ := Record.successor_ok hnext
  obtain ⟨n, hn, hlifetime⟩ := Option.map_eq_some_iff.mp hlifetime
  obtain ⟨t', ht', rfl⟩ := Option.map_eq_some_iff.mp hexpires
  rw [hreceived, ← hlifetime] at ht'
  have haccess : t < t' ↔ resp.expiresIn ≠ some 0 := by
    rw [Instant.lt_add_iff ht', lifetimeOfSeconds_pos, hn, ne_eq, ne_eq, Option.some.injEq]
  have hrotated : t < limit ↔ (nonEmpty resp.refreshToken ≠ none →
      match resp.refreshTokenExpiresIn with
      | some n => n ≠ 0
      | none => 0 < refreshLifetime.nanos) := by
    unfold Record.refreshTokenAfter at hlimit
    rw [htoken] at hlimit
    cases hnew : nonEmpty resp.refreshToken with
    | none =>
      rw [hnew] at hlimit
      cases hlimit
      simpa using ht
    | some token' =>
      rw [hnew] at hlimit
      obtain ⟨limit', hadd, hpair⟩ := Option.map_eq_some_iff.mp hlimit
      cases hpair
      rw [hreceived, hrefresh] at hadd
      rw [Instant.lt_add_iff hadd]
      cases resp.refreshTokenExpiresIn with
      | none => simp
      | some n => simpa using lifetimeOfSeconds_pos
  exact Instant.lt_min_iff.trans (and_congr haccess hrotated)

/-- A refresh token that counts after a refresh is empty only if it is kept and was empty, and
has expired when the grant is received only if it is kept and had expired. -/
theorem Record.refreshTokenAfter_facts {base : Record} {resp : TokenResponse} {t limit : Instant}
    {g : Grant} {refreshLifetime : Span} {token : String} (hg : Grant.ofResponse resp t = .ok g)
    (hlifetime : 0 ≤ refreshLifetime.nanos)
    (h : base.refreshTokenAfter g refreshLifetime = some (token, limit)) :
    (token = "" ↔ g.refreshToken = none ∧ base.refreshToken = "") ∧
      (t ≤ limit ↔ ¬(g.refreshToken = none ∧ base.refreshExpiresAt < t)) := by
  obtain ⟨hreceived, -, htoken, hrefresh⟩ := Grant.ofResponse_ok hg
  unfold Record.refreshTokenAfter at h
  cases hnew : g.refreshToken with
  | none =>
    rw [hnew] at h
    cases h
    simp only [true_and]
    exact Decidable.not_not.symm
  | some token' =>
    rw [hnew] at h
    obtain ⟨limit', hadd, hpair⟩ := Option.map_eq_some_iff.mp h
    cases hpair
    rw [hreceived, hrefresh] at hadd
    have hle : t ≤ limit := by
      refine Instant.le_add hadd ?_
      cases resp.refreshTokenExpiresIn with
      | none => exact hlifetime
      | some n => exact lifetimeOfSeconds_nonneg n
    have hne : token ≠ "" := ne_of_nonEmpty (htoken.symm.trans hnew)
    simp [hne, hle]

/-- A grant makes no sound successor exactly if it replaces no refresh token, and the one that is
kept is empty or had expired when the grant was received. Then the successor would have been
issued after its expiry. Where the refreshes cannot be counted further there is none at all. -/
theorem Record.successor_refused_iff {base : Record} {resp : TokenResponse} {t : Instant}
    {g : Grant} {refreshLifetime : Span} {e : Error} (hg : Grant.ofResponse resp t = .ok g)
    (hlifetime : 0 ≤ refreshLifetime.nanos) :
    base.successor g refreshLifetime = some (.error e) ↔
      g.refreshToken = none ∧ (t.add g.lifetime).isSome ∧
        base.refreshCount + 1 < Text.wordCount ∧
        (base.refreshToken = "" ∧ e = .protocol (.invalidRecord "empty refresh token") ∨
          base.refreshToken ≠ "" ∧ base.refreshExpiresAt < t ∧
            e = .protocol (.invalidRecord "issued_at is after expires_at")) := by
  obtain ⟨rfl, hannounced, -, -⟩ := Grant.ofResponse_ok hg
  cases hcounts : base.refreshTokenAfter g refreshLifetime with
  | none =>
    have hnew : g.refreshToken ≠ none := by
      intro hnone
      simp [Record.refreshTokenAfter, hnone] at hcounts
    simp [Record.successor, hcounts, hnew]
  | some p =>
    obtain ⟨token, limit⟩ := p
    obtain ⟨htoken, horder⟩ := Record.refreshTokenAfter_facts hg hlifetime hcounts
    cases hexpires : g.receivedAt.add g.lifetime with
    | none => simp [Record.successor, hcounts, expiryWithin, hexpires]
    | some expiresAt =>
      by_cases hcount : base.refreshCount + 1 < Text.wordCount
      case neg => simp [Record.successor, hcounts, expiryWithin, hexpires, Record.countAfter, hcount]
      have hlater : g.receivedAt ≤ expiresAt := by
        obtain ⟨n, -, hn⟩ := Option.map_eq_some_iff.mp hannounced
        exact Instant.le_add hexpires (by rw [← hn]; exact lifetimeOfSeconds_nonneg n)
      have hissued : g.receivedAt ≤ min expiresAt limit ↔
          ¬(g.refreshToken = none ∧ base.refreshExpiresAt < g.receivedAt) := by
        rw [Instant.le_min_iff, ← horder]
        exact and_iff_right hlater
      simp only [Record.successor, hcounts, expiryWithin, hexpires, Record.countAfter,
        if_pos hcount, Option.bind_eq_bind, Option.bind_some, Option.map_some, Option.some.injEq]
      rw [Record.checked_eq (Grant.accessToken_ne hg) Instant.min_le_right]
      simp only [htoken, hissued]
      by_cases hkept : g.refreshToken = none
      · by_cases hempty : base.refreshToken = ""
        · simp [hkept, hempty, hcount, eq_comm]
        · by_cases hexpired : base.refreshExpiresAt < g.receivedAt
          · simp [hkept, hempty, hexpired, hcount, eq_comm]
          · simp [hkept, hempty, hexpired]
      · simp [hkept]

/-- A grant makes no sound successor of a sound record exactly if it replaces no refresh token
and was received after the one that is kept had expired. -/
theorem Record.successor_error_iff {base : Record} {resp : TokenResponse} {t : Instant}
    {g : Grant} {refreshLifetime : Span} {e : Error} (hbase : base.defect? = none)
    (hg : Grant.ofResponse resp t = .ok g) (hlifetime : 0 ≤ refreshLifetime.nanos) :
    base.successor g refreshLifetime = some (.error e) ↔
      g.refreshToken = none ∧ base.refreshExpiresAt < t ∧ (t.add g.lifetime).isSome ∧
        base.refreshCount + 1 < Text.wordCount ∧
        e = .protocol (.invalidRecord "issued_at is after expires_at") := by
  have htoken : base.refreshToken ≠ "" := (defect_eq_none_iff.mp hbase).1
  rw [Record.successor_refused_iff hg hlifetime]
  simp only [htoken, false_and, ne_eq, not_false_eq_true, true_and, false_or]
  constructor
  · rintro ⟨hkept, hends, hcount, hexpired, he⟩
    exact ⟨hkept, hexpired, hends, hcount, he⟩
  · rintro ⟨hkept, hexpired, hends, hcount, he⟩
    exact ⟨hkept, hends, hcount, hexpired, he⟩

end TokenCustody
