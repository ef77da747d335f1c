/-
TokenCustody.Proofs.Config.Environment — the numbers that variables tell.

Three numbers are read by one reader, `Variables.seconds`, and what is
written is what is read, for every number of 64 bits. They then go three
ways. The budget takes all of them. The timeouts take those within their
bounds and refuse the others.

The threshold is a span, and a span has a sign. The numbers it can hold
are read as they are written. Above them lie numbers that no span can
hold, and there reading ends without a result, not even an error. The
numbers at the upper end of the 64 bits are taken for negative ones
(`Variables.jobConfig_numbers`).
-/
import TokenCustody.Config.Environment
import TokenCustody.Proofs.Text.Written

namespace TokenCustody

open TokenCustody.Text
open TokenCustody.Time

/-! ## Parts of a configuration -/

/-- An error says what is wrong with the configuration, and a result has the property. -/
inductive Gives {α : Type} (P : α → Prop) : Except Error α → Prop where
  | error (c : ConfigurationError) : Gives P (.error (.configuration c))
  | ok {a : α} (h : P a) : Gives P (.ok a)

namespace Gives

variable {α β : Type} {P : α → Prop} {Q : β → Prop} {x : Except Error α}

/-- Parts are put together, and the first error is the error of the whole. -/
theorem bind {f : α → Except Error β} (hx : Gives P x) (hf : ∀ a, P a → Gives Q (f a)) :
    Gives Q (x >>= f) := by
  cases hx with
  | error c => exact .error c
  | ok h => exact hf _ h

theorem mono {P' : α → Prop} (hx : Gives P x) (h : ∀ a, P a → P' a) : Gives P' x := by
  cases hx with
  | error c => exact .error c
  | ok ha => exact .ok (h _ ha)

/-- A result that is given has the property. -/
theorem result {a : α} (h : Gives P (.ok a : Except Error α)) : P a := by
  cases h with
  | ok h => exact h

/-- An error is one of the configuration, whatever was expected. -/
theorem of_error {e : Error} (h : Gives P (.error e : Except Error α)) : Gives Q (.error e) := by
  cases h with
  | error c => exact .error c

end Gives

namespace ClientDraft

theorem gives_need (value : Option String) (field : String) :
    Gives (fun _ => True) (need value field) := by
  unfold need
  split
  · exact .ok trivial
  · exact .error _

/-- An address is kept as it was written, if it reads as a URL. -/
theorem gives_needUrl (value : String) :
    Gives (fun s => s = value ∧ ∃ u, Url.ofString s = .ok u) (needUrl value) := by
  unfold needUrl
  split
  · next u hu => exact .ok ⟨rfl, u, hu⟩
  · exact .error _

/-- A timeout is kept, if it is within its bounds. -/
theorem gives_needTimeout (timeout : Duration) :
    Gives (fun t => t = timeout ∧ minTimeout ≤ t ∧ t ≤ maxTimeout) (needTimeout timeout) := by
  unfold needTimeout
  split
  · next h => exact .ok ⟨rfl, h⟩
  · exact .error _

/-- A finished configuration has the timeout of the draft, and that is within its bounds. -/
theorem gives_complete (d : ClientDraft) :
    Gives (fun c => c.timeout = d.timeout ∧ minTimeout ≤ d.timeout ∧ d.timeout ≤ maxTimeout)
      d.complete := by
  unfold complete
  refine (gives_need _ _).bind fun _ _ => ?_
  refine (gives_need _ _).bind fun _ _ => ?_
  refine (gives_need _ _).bind fun _ _ => (gives_needUrl _).bind fun _ _ => ?_
  refine (gives_need _ _).bind fun _ _ => (gives_needUrl _).bind fun _ _ => ?_
  refine (gives_need _ _).bind fun _ _ => (gives_needUrl _).bind fun _ _ => ?_
  refine (gives_needTimeout _).bind fun t ht => ?_
  obtain ⟨rfl, hbounds⟩ := ht
  exact .ok ⟨rfl, hbounds⟩

end ClientDraft

namespace Variables

variable {v : Variables} {name : String}

theorem gives_need (v : Variables) (name : String) :
    Gives (fun s => v.value name = some s) (v.need name) := by
  unfold need
  split
  · next h => exact .ok h
  · exact .error _

/-- The timeout of the client is the one it is given. -/
theorem gives_clientConfig (v : Variables) (timeout : Duration) :
    Gives (fun c => c.timeout = timeout ∧ minTimeout ≤ timeout ∧ timeout ≤ maxTimeout)
      (v.clientConfig timeout) := by
  unfold clientConfig
  refine (v.gives_need _).bind fun _ _ => ?_
  refine (v.gives_need _).bind fun _ _ => ?_
  refine (v.gives_need _).bind fun _ _ => ?_
  refine (v.gives_need _).bind fun _ _ => ?_
  refine (v.gives_need _).bind fun _ _ => ?_
  exact (ClientDraft.gives_complete _).mono fun _ h => h

/-- The place of the record is the one that its variable names, and a URL. -/
def Placed (v : Variables) (c : StoreConfig) : Prop :=
  v.value "STORE_URL" = some c.baseUrl ∧ ∃ u, Url.ofString c.baseUrl = .ok u

/-- The timeout of the store is the one it is given, and its address is that of the variable. -/
theorem gives_storeConfig (v : Variables) (timeout : Duration) :
    Gives (fun c => c.timeout = timeout ∧ v.Placed c) (v.storeConfig timeout) := by
  unfold storeConfig
  refine (v.gives_need _).bind fun url hvalue => (v.gives_need _).bind fun _ _ => ?_
  refine (ClientDraft.gives_needUrl _).bind fun _ hurl => ?_
  obtain ⟨rfl, hread⟩ := hurl
  exact .ok ⟨rfl, hvalue, hread⟩

/-! ## What a variable tells -/

/-- What a variable tells in numbers: nothing if it is missing or empty, and otherwise the
number that is written in it, of whatever size. -/
inductive Tells (v : Variables) (name : String) : Option Nat → Prop where
  | missing (h : v (mark ++ name) = none) : Tells v name none
  | empty (h : v (mark ++ name) = some "") : Tells v name none
  | number {s : String} {n : Nat} (h : v (mark ++ name) = some s) (hs : Writes s.toList n) :
      Tells v name (some n)

/-- An empty variable counts as a missing one. -/
theorem value_eq_none_iff :
    v.value name = none ↔ v (mark ++ name) = none ∨ v (mark ++ name) = some "" := by
  unfold value
  cases v (mark ++ name) with
  | none => simp
  | some s => by_cases hs : s = "" <;> simp [Option.filter, hs]

/-- A variable counts if it is not empty. -/
theorem value_eq_some_iff {s : String} :
    v.value name = some s ↔ v (mark ++ name) = some s ∧ s ≠ "" := by
  unfold value
  rw [Option.filter_eq_some_iff, decide_eq_true_iff]

theorem tells_none_iff : v.Tells name none ↔ v.value name = none := by
  rw [value_eq_none_iff]
  constructor
  · rintro (h | h)
    · exact Or.inl h
    · exact Or.inr h
  · exact fun h => h.elim .missing .empty

/-- A variable tells a number if one is written in it. -/
theorem tells_some_iff {n : Nat} :
    v.Tells name (some n) ↔ ∃ s, v.value name = some s ∧ Writes s.toList n := by
  constructor
  · rintro (_ | _ | ⟨h, hs⟩)
    refine ⟨_, value_eq_some_iff.mpr ⟨h, ?_⟩, hs⟩
    rintro rfl
    exact not_writes_nil n hs
  · rintro ⟨s, hvalue, hs⟩
    exact .number (value_eq_some_iff.mp hvalue).1 hs

/-- A variable tells one thing. -/
theorem Tells.unique {x y : Option Nat} (hx : v.Tells name x) (hy : v.Tells name y) : x = y := by
  cases x with
  | none =>
    rw [tells_none_iff] at hx
    cases y with
    | none => rfl
    | some n =>
      obtain ⟨s, hs, -⟩ := tells_some_iff.mp hy
      rw [hx] at hs
      cases hs
  | some m =>
    obtain ⟨s, hs, hm⟩ := tells_some_iff.mp hx
    cases y with
    | none =>
      rw [tells_none_iff, hs] at hy
      cases hy
    | some n =>
      obtain ⟨s', hs', hn⟩ := tells_some_iff.mp hy
      rw [hs] at hs'
      cases hs'
      rw [hm.unique hn]

/-- What is read is what is told, as long as it fits into 64 bits. -/
theorem seconds_eq_ok_iff {x : Option Nat} :
    v.seconds name = .ok x ↔ v.Tells name x ∧ ∀ n ∈ x, n < wordCount := by
  unfold seconds
  cases x with
  | none =>
    rw [tells_none_iff]
    cases v.value name with
    | none => simp
    | some s => cases hread : readWord (trim s.toList) <;> simp [hread]
  | some n =>
    rw [tells_some_iff]
    cases v.value name with
    | none => simp
    | some s =>
      have hwritten : readWord (trim s.toList) = some n ↔ _ := readWord_trim_eq_some_iff
      cases hread : readWord (trim s.toList) <;> simp_all

/-- A variable that tells seconds tells 64 bits of them at most. -/
theorem gives_seconds (v : Variables) (name : String) :
    Gives (fun x => v.Tells name x ∧ ∀ n ∈ x, n < wordCount) (v.seconds name) := by
  cases hx : v.seconds name with
  | ok x => exact .ok (seconds_eq_ok_iff.mp hx)
  | error e =>
    unfold seconds at hx
    split at hx
    · cases hx
    · split at hx <;> cases hx
      exact .error _

/-! ## The bounds of a span -/

/-- The upper half of the 64 bits is taken for negative numbers. -/
theorem bmod_wordCount {n : Nat} (hn : n < wordCount) :
    (n : Int).bmod wordCount =
      if n < 9223372036854775808 then (n : Int) else (n : Int) - wordCount := by
  have hlt : (n : Int) < 18446744073709551616 := Int.ofNat_lt.mpr hn
  have hcast : (wordCount : Int) = 18446744073709551616 := rfl
  simp only [Int.bmod, hcast]
  split <;> split <;> omega

/-- A number of 64 bits that has no span lies between the longest span and the numbers that
are taken for negative ones. -/
theorem spanOfSeconds_eq_none_iff {n : Nat} (hn : n < wordCount) :
    spanOfSeconds n = none ↔ Span.maxSeconds < n ∧ n + Span.maxSeconds < wordCount := by
  have hiff (m : Int) : Span.ofSeconds? m = none ↔ Span.maxSeconds < m.natAbs := by
    simp [Span.ofSeconds?]
  rw [spanOfSeconds, hiff, bmod_wordCount hn]
  simp only [Span.maxSeconds, wordCount] at *
  split <;> omega

/-- How a threshold is made of what its variable tells. -/
inductive Threshold : Option Nat → Span → Prop where
  /-- Five minutes, if it tells nothing. -/
  | usual : Threshold none (.ofSeconds 300)
  /-- The number that is written, if a span reaches so far. -/
  | exact {n : Nat} (h : n ≤ Span.maxSeconds) : Threshold (some n) (.ofSeconds n)
  /-- Less than nothing, if the number is at the upper end of the 64 bits. -/
  | wrapped {n : Nat} (hn : n < wordCount) (h : wordCount ≤ n + Span.maxSeconds) :
      Threshold (some n) (.ofSeconds ((n : Int) - wordCount))

/-- A span that is made of a number of 64 bits is that number, or what lies below zero by the same
bits. -/
theorem threshold_of_spanOfSeconds {n : Nat} {t : Span} (hn : n < wordCount)
    (h : spanOfSeconds n = some t) : Threshold (some n) t := by
  unfold spanOfSeconds Span.ofSeconds? at h
  rw [bmod_wordCount hn] at h
  by_cases hhalf : n < 9223372036854775808
  · rw [if_pos hhalf] at h
    obtain ⟨hle, ht⟩ := Option.ite_none_right_eq_some.mp h
    cases ht
    exact .exact hle
  · rw [if_neg hhalf] at h
    obtain ⟨hle, ht⟩ := Option.ite_none_right_eq_some.mp h
    cases ht
    refine .wrapped hn ?_
    simp only [Span.maxSeconds, wordCount] at *
    omega

/-! ## The configuration of a job -/

/-- The numbers of a configuration are those that the variables tell, or the usual ones. -/
structure Numbers (v : Variables) (job : JobConfig) : Prop where
  timeouts : ∃ x, v.Tells "HTTP_TIMEOUT_SECS" x ∧ 5 ≤ x.getD 10 ∧ x.getD 10 ≤ 10 ∧
    job.client.timeout = .ofSeconds (x.getD 10) ∧ job.store.timeout = .ofSeconds (x.getD 10)
  budget : ∃ x, v.Tells "INVOCATION_BUDGET_SECS" x ∧ job.settings.budget = .ofSeconds (x.getD 50)
  threshold : ∃ x, v.Tells "REFRESH_THRESHOLD_SECS" x ∧ Threshold x job.settings.refreshThreshold

/-- The numbers are those that the variables tell, or the usual ones, the threshold too. -/
def Exact (v : Variables) (job : JobConfig) : Prop :=
  v.Numbers job ∧ ∃ x : Option Nat, v.Tells "REFRESH_THRESHOLD_SECS" x ∧
    job.settings.refreshThreshold = .ofSeconds (x.getD 300 : Nat)

/-- Numbers are as they were written if the threshold was one that a span can hold. -/
theorem Numbers.exact {job : JobConfig} (h : v.Numbers job)
    (hheld : ∀ n, v.Tells "REFRESH_THRESHOLD_SECS" (some n) → n ≤ Span.maxSeconds) :
    v.Exact job := by
  refine ⟨h, ?_⟩
  obtain ⟨x, htells, ht⟩ := h.threshold
  refine ⟨x, htells, ?_⟩
  generalize job.settings.refreshThreshold = t at ht
  cases ht with
  | usual => rfl
  | exact _ => rfl
  | @wrapped n _ hwrapped =>
    have hle := hheld n htells
    simp only [Span.maxSeconds, wordCount] at hle hwrapped
    omega

/-- All is well with the client, and then comes a threshold that no span can hold. -/
def Beyond (v : Variables) : Prop :=
  ∃ (timeout : Option Nat) (client : ClientConfig) (n : Nat),
    v.Tells "HTTP_TIMEOUT_SECS" timeout ∧
    v.clientConfig (.ofSeconds (timeout.getD 10)) = .ok client ∧
    v.Tells "REFRESH_THRESHOLD_SECS" (some n) ∧
    Span.maxSeconds < n ∧ n + Span.maxSeconds < wordCount

/-- The client configuration with its timeout. -/
def clientPart (v : Variables) : Except Error ClientConfig := do
  let timeout := (← v.seconds "HTTP_TIMEOUT_SECS").map Duration.ofSeconds
  v.clientConfig (timeout.getD defaultTimeout)

/-- What is read once the client and the threshold are known. -/
def rest (v : Variables) (client : ClientConfig) (refreshThreshold : Span) :
    Except Error JobConfig := do
  let budget := (← v.seconds "INVOCATION_BUDGET_SECS").map Duration.ofSeconds
  let store ← v.storeConfig client.timeout
  let settings : Settings :=
    { Settings.default with refreshThreshold, budget := budget.getD Settings.default.budget }
  return { client, settings, store }

/-- The threshold of what its variable tells, if there is one. -/
def thresholdOf : Option Nat → Option Span
  | some n => spanOfSeconds n
  | none => some defaultThreshold

/-- A job is read in three parts. -/
theorem jobConfig_eq (v : Variables) : v.jobConfig =
    match v.clientPart, v.seconds "REFRESH_THRESHOLD_SECS" with
    | .error e, _ | .ok _, .error e => some (.error e)
    | .ok client, .ok threshold => (thresholdOf threshold).map (v.rest client) := rfl

theorem getD_map_ofSeconds (x : Option Nat) (n : Nat) :
    (x.map Duration.ofSeconds).getD (.ofSeconds n) = .ofSeconds (x.getD n) := by
  cases x <;> rfl

theorem ofSeconds_le_ofSeconds {a b : Nat} : Duration.ofSeconds a ≤ .ofSeconds b ↔ a ≤ b := by
  simp only [Duration.le_def, Duration.ofSeconds, nanosPerSecond]
  omega

/-- A client has the timeout that its variable tells, and that is within the bounds. -/
theorem timeout_of_clientConfig {n : Nat} {client : ClientConfig}
    (h : v.clientConfig (.ofSeconds n) = .ok client) :
    client.timeout = .ofSeconds n ∧ 5 ≤ n ∧ n ≤ 10 := by
  have hgives := v.gives_clientConfig (.ofSeconds n)
  rw [h] at hgives
  obtain ⟨htimeout, hmin, hmax⟩ := hgives.result
  exact ⟨htimeout, ofSeconds_le_ofSeconds.mp hmin, ofSeconds_le_ofSeconds.mp hmax⟩

/-- The client is configured with the seconds that its variable tells, or ten. -/
theorem clientPart_eq_ok_iff {client : ClientConfig} : v.clientPart = .ok client ↔
    ∃ x, v.Tells "HTTP_TIMEOUT_SECS" x ∧ v.clientConfig (.ofSeconds (x.getD 10)) = .ok client := by
  have hpart {x : Option Nat} (hx : v.seconds "HTTP_TIMEOUT_SECS" = .ok x) :
      v.clientPart = v.clientConfig (.ofSeconds (x.getD 10)) := by
    unfold clientPart
    rw [hx, ← getD_map_ofSeconds]
    rfl
  constructor
  · intro h
    cases hx : v.seconds "HTTP_TIMEOUT_SECS" with
    | error e =>
      unfold clientPart at h
      rw [hx] at h
      cases h
    | ok x => exact ⟨x, (seconds_eq_ok_iff.mp hx).1, hpart hx ▸ h⟩
  · rintro ⟨x, htells, h⟩
    -- A timeout within the bounds fits into 64 bits.
    have hx : v.seconds "HTTP_TIMEOUT_SECS" = .ok x := by
      refine seconds_eq_ok_iff.mpr ⟨htells, ?_⟩
      rintro n rfl
      have hle : n ≤ 10 := (timeout_of_clientConfig h).2.2
      simp only [wordCount]
      omega
    rw [hpart hx, h]

theorem gives_clientPart (v : Variables) : Gives (fun _ => True) v.clientPart :=
  (v.gives_seconds _).bind fun _ _ => (v.gives_clientConfig _).mono fun _ _ => trivial

/-- Reading ends without a result exactly at a threshold that no span can hold. -/
theorem jobConfig_eq_none_iff : v.jobConfig = none ↔ v.Beyond := by
  rw [jobConfig_eq]
  constructor
  · intro h
    split at h
    · cases h
    · cases h
    · next client threshold hclient hthreshold =>
      obtain ⟨x, htells, hconfig⟩ := clientPart_eq_ok_iff.mp hclient
      obtain ⟨hthreshold, hlt⟩ := seconds_eq_ok_iff.mp hthreshold
      cases threshold with
      | none => cases h
      | some n =>
        have hnone := Option.map_eq_none_iff.mp h
        exact ⟨x, client, n, htells, hconfig, hthreshold,
          (spanOfSeconds_eq_none_iff (hlt n rfl)).mp hnone⟩
  · rintro ⟨x, client, n, htells, hconfig, hthreshold, hlong, hshort⟩
    have hlt : n < wordCount := by omega
    have hread : v.seconds "REFRESH_THRESHOLD_SECS" = .ok (some n) := by
      refine seconds_eq_ok_iff.mpr ⟨hthreshold, ?_⟩
      rintro _ ⟨⟩
      exact hlt
    have hnone := (spanOfSeconds_eq_none_iff hlt).mpr ⟨hlong, hshort⟩
    rw [clientPart_eq_ok_iff.mpr ⟨x, htells, hconfig⟩, hread]
    exact Option.map_eq_none_iff.mpr hnone

/-- What is read last adds the budget and the store. -/
theorem gives_rest (v : Variables) (client : ClientConfig) (t : Span) :
    Gives (fun job => job.client = client ∧ job.settings.refreshThreshold = t ∧
      (job.store.timeout = client.timeout ∧ v.Placed job.store) ∧
        ∃ x, v.Tells "INVOCATION_BUDGET_SECS" x ∧ job.settings.budget = .ofSeconds (x.getD 50))
      (v.rest client t) :=
  (v.gives_seconds _).bind fun x hx => (v.gives_storeConfig _).bind fun _ hstore =>
    .ok ⟨rfl, rfl, hstore, x, hx.1, getD_map_ofSeconds x 50⟩

/-- A configuration has the numbers and the place that its variables tell. -/
theorem gives_parts {r : Except Error JobConfig} (h : v.jobConfig = some r) :
    Gives (fun job => v.Numbers job ∧ v.Placed job.store) r := by
  rw [jobConfig_eq] at h
  split at h
  · next e _ he =>
    cases h
    have hclient := v.gives_clientPart
    rw [he] at hclient
    exact hclient.of_error
  · next e _ he =>
    cases h
    have hseconds := v.gives_seconds "REFRESH_THRESHOLD_SECS"
    rw [he] at hseconds
    exact hseconds.of_error
  · next client threshold hclient hthreshold =>
    obtain ⟨x, htells, hconfig⟩ := clientPart_eq_ok_iff.mp hclient
    obtain ⟨htimeout, hmin, hmax⟩ := timeout_of_clientConfig hconfig
    obtain ⟨hthreshold, hlt⟩ := seconds_eq_ok_iff.mp hthreshold
    obtain ⟨t, ht, rfl⟩ := Option.map_eq_some_iff.mp h
    have hspan : Threshold threshold t := by
      cases threshold with
      | none =>
        cases ht
        exact .usual
      | some n => exact threshold_of_spanOfSeconds (hlt n rfl) ht
    refine (v.gives_rest client t).mono ?_
    rintro job ⟨rfl, rfl, ⟨hstore, hplaced⟩, hbudget⟩
    exact ⟨⟨⟨x, htells, hmin, hmax, htimeout, hstore.trans htimeout⟩, hbudget,
      threshold, hthreshold, hspan⟩, hplaced⟩

/-- A configuration that is accepted has the numbers of its variables. -/
theorem gives_jobConfig {r : Except Error JobConfig} (h : v.jobConfig = some r) :
    Gives v.Numbers r := (gives_parts h).mono fun _ hjob => hjob.1

/-- **The numbers of the variables.** Reading ends without a result exactly at a threshold that
no span can hold. If it ends, it ends with an error that says what is wrong with the
configuration, or the timeouts and the budget are exactly the seconds that are written, and so
is the threshold, unless it is taken for a negative one. All is exact as long as the threshold
is a number that a span can hold. -/
theorem jobConfig_numbers (v : Variables) :
    (v.jobConfig = none ↔ v.Beyond) ∧ (∀ r, v.jobConfig = some r → Gives v.Numbers r) ∧
      ((∀ n, v.Tells "REFRESH_THRESHOLD_SECS" (some n) → n ≤ Span.maxSeconds) →
        ∃ r, v.jobConfig = some r ∧ Gives v.Exact r) := by
  refine ⟨jobConfig_eq_none_iff, fun r => gives_jobConfig, fun hheld => ?_⟩
  cases hr : v.jobConfig with
  | none =>
    obtain ⟨_, _, n, -, -, hthreshold, hlong, -⟩ := jobConfig_eq_none_iff.mp hr
    exact absurd (hheld n hthreshold) (Nat.not_le_of_lt hlong)
  | some r => exact ⟨r, rfl, (gives_jobConfig hr).mono fun job hjob => hjob.exact hheld⟩

/-! ### Variables to look at -/

namespace Sample

/-- All that is needed, and a threshold. -/
def given (threshold : String) : Variables := fun name =>
  [("TOKEN_KEEPER_CLIENT_ID", "client"), ("TOKEN_KEEPER_CLIENT_SECRET", "secret"),
    ("TOKEN_KEEPER_AUTHORIZE_URL", "https://[::1]/authorize"),
    ("TOKEN_KEEPER_TOKEN_URL", "https://[::1]/token"),
    ("TOKEN_KEEPER_REDIRECT_URI", "https://[::1]/callback"),
    ("TOKEN_KEEPER_STORE_URL", "https://[::1]/store"),
    ("TOKEN_KEEPER_STORE_SECRET", "credential"),
    ("TOKEN_KEEPER_REFRESH_THRESHOLD_SECS", threshold)].lookup name

/-- The threshold that is read. -/
def threshold (v : Variables) : Option Span :=
  (v.jobConfig.bind Except.toOption).map fun job => job.settings.refreshThreshold

theorem exists_job {v : Variables} {t : Span} (h : threshold v = some t) :
    ∃ job, v.jobConfig = some (.ok job) ∧ job.settings.refreshThreshold = t := by
  obtain ⟨job, hjob, ht⟩ := Option.map_eq_some_iff.mp h
  obtain ⟨r, hr, hok⟩ := Option.bind_eq_some_iff.mp hjob
  cases r with
  | error e => cases hok
  | ok job' =>
    cases hok
    exact ⟨job, hr, ht⟩

theorem tells {s : String} {n : Nat} (h : readWord (trim s.toList) = some n) :
    (given s).Tells "REFRESH_THRESHOLD_SECS" (some n) :=
  .number (by rfl) (readWord_trim_eq_some_iff.mp h).1

end Sample

open Sample

theorem jobConfig_numbers_of_sample : ∃ job,
    (given " +600 ").jobConfig = some (.ok job) ∧ (given " +600 ").Exact job ∧
      job.settings.refreshThreshold = .ofSeconds 600 := by
  have htells : (given " +600 ").Tells "REFRESH_THRESHOLD_SECS" (some 600) :=
    tells (by decide +kernel)
  obtain ⟨r, hr, hexact⟩ := (jobConfig_numbers (given " +600 ")).2.2 fun n hn => by
    cases hn.unique htells
    decide
  obtain ⟨job, hjob, ht⟩ := exists_job (v := given " +600 ") (t := .ofSeconds 600)
    (by decide +kernel)
  rw [hjob] at hr
  cases hr
  exact ⟨job, hjob, hexact.result, ht⟩

/-- The largest number of 64 bits becomes a threshold of less than nothing, and with half of
it reading does not end. -/
theorem threshold_not_exact :
    (∃ job, (given "18446744073709551615").jobConfig = some (.ok job) ∧
      (given "18446744073709551615").Tells "REFRESH_THRESHOLD_SECS"
        (some 18446744073709551615) ∧
      job.settings.refreshThreshold = .ofSeconds (-1)) ∧
    (given "9223372036854775807").Tells "REFRESH_THRESHOLD_SECS"
        (some 9223372036854775807) ∧
      (given "9223372036854775807").jobConfig = none := by
  obtain ⟨job, hjob, ht⟩ := exists_job (v := given "18446744073709551615")
    (t := .ofSeconds (-1)) (by decide +kernel)
  have hnone : (given "9223372036854775807").jobConfig.isNone := by decide +kernel
  exact ⟨⟨job, hjob, tells (by decide +kernel), ht⟩, tells (by decide +kernel),
    Option.isNone_iff_eq_none.mp hnone⟩

end Variables

end TokenCustody
