/-
TokenCustody.Proofs.Coordination.Transcript — whole runs, entry by entry.

The moves of a task (`Proofs.Coordination.Stage`) leave open what is
counted, when the timer is looked at and how often a call is tried. Some
questions are about just that: how many calls there are, whether there is
time for them, what the metrics say. `Transcript` leaves nothing open. It
says what a run sees from one of its stages to its end, entry by entry,
and what comes of it.

Every constructor tells one stretch of a run and goes on at the stage that
it leads to, with the same functions that the moves use. Stretches of
retried calls are `Attempts`. One lemma for each function of
`Coordination`, in the order in which they are defined, shows that a whole
run of the function is told by a transcript.
-/
import TokenCustody.Proofs.Coordination.Seen

namespace TokenCustody.Coordination

open TokenCustody.Program
open TokenCustody.Time

/-! ## Stretches -/

/-- What is counted when a run ends so: a human is called, or nothing. -/
def summons : Except Error Outcome → List Metric
  | .ok (.needsAuthorization why) => [.authorizationNeeded why.name]
  | _ => []

/-- What is counted when the state of the record is known. Only the first read counts. -/
def Goal.notes (st : TokenState) : Goal → List Metric
  | first => [.state st.name]
  | _ => []

/-- What is counted when the write is answered. -/
def Draft.notes : Draft → Except Error Version → List Metric
  | successor _ _, .ok _ | overShadow _ _ _, .ok _ => [.refresh true]
  | fault _ _ _ _, .ok _ => []
  | first _, .ok _ => [.authorizationStored]
  | first _, .error _ => []
  | d, .error e =>
    if e.isConflict then [.conflict]
    else
      match d with
      | fault _ _ _ _ => [.error e.code]
      | _ => [.refresh false, .error e.code]

/-- What the lack of time for the write is called. -/
def Draft.title : Draft → String
  | fault _ _ _ _ => "fault annotation"
  | _ => "refresh write"

/-- What is counted when there is too little time for a write. -/
def outOfTime (name : String) : Metric := .error (Error.cancelled (.budgetExhausted name)).code

/-- The store is read, as often as it takes. -/
abbrev Reads (cfg : Settings) (d : Deadline) :
    List (Entry Custody) → Except Error (Option Record) → Prop :=
  Attempts d (fun a => .called (S := Custody) .read a) (cfg.retry.attemptLimit - 1)
    (.new cfg.retry)

/-- The provider is asked for a refresh, as often as it takes. -/
abbrev Asks (cfg : Settings) (d : Deadline) (token : String) :
    List (Entry Custody) → Except Error Grant → Prop :=
  Attempts d (fun a => .called (S := Custody) (.refresh token) a) (cfg.retry.attemptLimit - 1)
    (.new cfg.retry)

/-- Of a look into the store only its end is of note to whoever knows no failed reads. -/
theorem Reads.pick_eq {cfg : Settings} {d : Deadline} {s : List (Entry Custody)}
    {r : Except Error (Option Record)} {β : Type} {f : Entry Custody → Option β}
    (hs : Reads cfg d s r) (hf : ∀ q a, q ≠ .now → f (.asked q a) = none)
    (hfail : ∀ e : Error, f (.called .read (.error e)) = none) :
    pick f s = (f (.called .read r)).toList :=
  Attempts.pick_eq_toList (fun _ => rfl) (fun _ => Entry.eq_none_of_isRetry hf) hfail hs

/-- Of a look into the store and at the calendar, and of what is counted then, only the end of
the look and the time are of note to whoever knows no failed reads. -/
theorem Reads.pick_assessed {cfg : Settings} {d : Deadline} {s : List (Entry Custody)}
    {r : Except Error (Option Record)} {β : Type} {f : Entry Custody → Option β}
    (hs : Reads cfg d s r) (hf : ∀ q a, q ≠ .now → f (.asked q a) = none)
    (hfail : ∀ e : Error, f (.called .read (.error e)) = none) (now : Instant)
    (ms : List Metric) : pick f (s ++ .asked .now now :: counted ms) =
      (f (.called .read r)).toList ++ (f (.asked .now now)).toList := by
  have hcounted : pick f (counted ms) = [] := pick_counted ms fun _ => hf _ _ nofun
  rw [pick_append, pick_cons, hs.pick_eq hf hfail, hcounted, List.append_nil]

/-- Of a request to the provider only its end is of note to whoever knows no failed refreshes. -/
theorem Asks.pick_eq {cfg : Settings} {d : Deadline} {token : String} {s : List (Entry Custody)}
    {r : Except Error Grant} {β : Type} {f : Entry Custody → Option β}
    (hs : Asks cfg d token s r) (hf : ∀ q a, q ≠ .now → f (.asked q a) = none)
    (hfail : ∀ e : Error, f (.called (.refresh token) (.error e)) = none) :
    pick f s = (f (.called (.refresh token) r)).toList :=
  Attempts.pick_eq_toList (fun _ => rfl) (fun _ => Entry.eq_none_of_isRetry hf) hfail hs

/-! ## Transcripts -/

/-- What a run sees from a stage to its end, and what comes of it: nothing, if it ends without
a result. -/
inductive Transcript (cfg : Settings) (d : Deadline) :
    Stage → List (Entry Custody) → Option (Except Error Outcome) → Prop where
  | ended (x : Except Error Outcome) :
      Transcript cfg d (.ended (.outcome x)) (counted (summons x)) (some x)
  | halted : Transcript cfg d .halted [] none
  | unread {g : Goal} {s : List (Entry Custody)} {e : Error} (hs : Reads cfg d s (.error e)) :
      Transcript cfg d (.looking g none) s (some (.error e))
  /-- Nothing was ever stored. -/
  | nothing {s t : List (Entry Custody)} {x : Option (Except Error Outcome)}
      (hs : Reads cfg d s (.ok none))
      (ht : Transcript cfg d (Goal.first.looked none) t x) :
      Transcript cfg d (.looking .first none)
        (s ++ (counted [.state TokenState.uninitialized.name] ++ t)) x
  /-- The clock and the threshold lead beyond the calendar. -/
  | beyond {g : Goal} {s : List (Entry Custody)} {found : Option Record} {now : Instant}
      (hs : Reads cfg d s (.ok found)) (hg : g.looked found = .weighing g found)
      (hst : stateOf cfg.refreshThreshold found now .notObserved = none) :
      Transcript cfg d (.looking g none) (s ++ [.asked .now now]) none
  | weighed {g : Goal} {s t : List (Entry Custody)} {found : Option Record} {now : Instant}
      {st : TokenState} {x : Option (Except Error Outcome)} (hs : Reads cfg d s (.ok found))
      (hg : g.looked found = .weighing g found)
      (hst : stateOf cfg.refreshThreshold found now .notObserved = some st)
      (ht : Transcript cfg d (g.weighed found (some st)) t x) :
      Transcript cfg d (.looking g none) (s ++ .asked .now now :: (counted (g.notes st) ++ t)) x
  | granted {base : Record} {g : Grant} {s t : List (Entry Custody)}
      {x : Option (Except Error Outcome)} (hs : Asks cfg d base.refreshToken s (.ok g))
      (ht : Transcript cfg d (.ofSuccessor base (base.successor g cfg.refreshLifetime)) t x) :
      Transcript cfg d (.refreshing base none) (counted [.refreshAttempt] ++ (s ++ t)) x
  | refused {base : Record} {e : Error} {s t : List (Entry Custody)} {now : Instant}
      {x : Option (Except Error Outcome)} (hs : Asks cfg d base.refreshToken s (.error e))
      (he : e.needsHuman = true)
      (ht : Transcript cfg d (.writing (.fault base ⟨faultKindOf e, e.message, now⟩
        (.refreshRejected e.message) fun _ => .ok (.needsAuthorization (.refreshRejected
          e.message)))) t x) :
      Transcript cfg d (.refreshing base none)
        (counted [.refreshAttempt] ++ (s ++ (counted [.refresh false] ++ .asked .now now :: t))) x
  | failed {base : Record} {e : Error} {s : List (Entry Custody)}
      (hs : Asks cfg d base.refreshToken s (.error e)) (he : ¬e.needsHuman = true) :
      Transcript cfg d (.refreshing base none)
        (counted [.refreshAttempt] ++ (s ++ counted [.refresh false, .error e.code]))
        (some (.error e))
  /-- There is too little time for the write. -/
  | late (dr : Draft) {now : Duration} {t : List (Entry Custody)}
      {x : Option (Except Error Outcome)} (hlate : ¬cfg.writeGuard ≤ d.remainingAt now)
      (ht : Transcript cfg d (.ended (dr.tooLate dr.title)) t x) :
      Transcript cfg d (.writing dr)
        (.asked .timer now :: (counted [outOfTime dr.title] ++ t)) x
  | wrote {dr : Draft} {now : Duration} {t : List (Entry Custody)}
      {x : Option (Except Error Outcome)} (hfits : cfg.writeGuard ≤ d.remainingAt now)
      (a : Except Error Version) (ht : Transcript cfg d (dr.written a) t x) :
      Transcript cfg d (.writing dr)
        (.asked .timer now :: .called (.write dr.record dr.condition) a ::
          (counted (dr.notes a) ++ t)) x
  /-- There is too little time to note that a call was turned away. -/
  | notReported {used : Record} {why : String} {now : Duration}
      (hlate : ¬cfg.writeGuard ≤ d.remainingAt now) :
      Transcript cfg d (.reporting used why)
        (.asked .timer now :: counted [outOfTime "rejection annotation"])
        (some (.error (.cancelled (.budgetExhausted "rejection annotation"))))
  | reported {used : Record} {why : String} {now : Duration} {at_ : Instant} {dr : Draft}
      {t : List (Entry Custody)} {x : Option (Except Error Outcome)}
      (hfits : cfg.writeGuard ≤ d.remainingAt now)
      (hdr : dr = .fault used ⟨.apiRejected, why, at_⟩ (.invalid why) .error)
      (a : Except Error Version) (ht : Transcript cfg d (dr.written a) t x) :
      Transcript cfg d (.reporting used why)
        (.asked .timer now :: .asked .now at_ :: .called (.write dr.record dr.condition) a ::
          (counted (dr.notes a) ++ t)) x

variable {cfg : Settings} {d : Deadline} {t : List (Entry Custody)}

/-! ## Looking -/

theorem of_emit {m : Metric} {β : Type} {f : Unit → Program Custody β} {x : Option β}
    (h : (emit m >>= f).Yields t x) : ∃ u, t = counted [m] ++ u ∧ (f ()).Yields u x := by
  obtain ⟨_, u, rfl, hu⟩ := h.asking_inv
  exact ⟨u, rfl, hu⟩

theorem of_callHuman {why : Reason} {x : Option Outcome} (h : (callHuman why).Yields t x) :
    t = counted [.authorizationNeeded why.name] ∧ x = some (.needsAuthorization why) := by
  obtain ⟨u, rfl, hu⟩ := of_emit h
  obtain ⟨rfl, rfl⟩ := hu.pure_inv
  exact ⟨rfl, rfl⟩

theorem of_readStore {x : Option (Except Error (Option Record))}
    (h : (readStore cfg d).Yields t x) : ∃ a, x = some a ∧ Reads cfg d t a := by
  refine RetryPolicy.attempts_of_withRetries (fun t x ht => ?_) h
  cases ht with
  | call _ _ a hu =>
    cases hu
    exact ⟨a, rfl, rfl⟩

theorem of_assess {r : Option Record} {x : Option TokenState} (h : (assess cfg r).Yields t x) :
    ∃ now, t = [.asked .now now] ∧ x = stateOf cfg.refreshThreshold r now .notObserved := by
  obtain ⟨now, u, rfl, hu⟩ := h.asking_inv
  cases hst : stateOf cfg.refreshThreshold r now .notObserved with
  | none =>
    rw [hst] at hu
    cases hu
    exact ⟨now, rfl, hst.symm⟩
  | some st =>
    rw [hst] at hu
    cases hu
    exact ⟨now, rfl, hst.symm⟩

/-- Another look at the store: it cannot be read, or it is read and the clock tells the state of
what it holds, if there is one. -/
theorem of_lookAgain {x : Option (Except Error (Option Record × TokenState))}
    (h : (lookAgain cfg d).Yields t x) : (∃ e, x = some (.error e) ∧ Reads cfg d t (.error e)) ∨
      ∃ s found now, t = s ++ [.asked .now now] ∧ Reads cfg d s (.ok found) ∧
        x = (stateOf cfg.refreshThreshold found now .notObserved).map fun st =>
          .ok (found, st) := by
  obtain ⟨hs, -⟩ | ⟨s, a, u, rfl, hs, hu⟩ := h.bind_inv
  · obtain ⟨a, ha, -⟩ := of_readStore hs
    cases ha
  obtain ⟨_, ha, hreads⟩ := of_readStore hs
  cases ha
  cases a with
  | error e =>
    obtain ⟨rfl, rfl⟩ := hu.pure_inv
    rw [List.append_nil]
    exact Or.inl ⟨e, rfl, hreads⟩
  | ok found =>
    obtain ⟨hst, rfl⟩ | ⟨u, st, v, rfl, hst, hv⟩ := hu.bind_inv
    · obtain ⟨now, rfl, hnone⟩ := of_assess hst
      exact Or.inr ⟨s, found, now, rfl, hreads, by rw [← hnone]; rfl⟩
    · obtain ⟨now, rfl, hsome⟩ := of_assess hst
      obtain ⟨rfl, rfl⟩ := hv.pure_inv
      exact Or.inr ⟨s, found, now, by simp, hreads, by rw [← hsome]; rfl⟩

/-- A run that has looked again counts whatever it ends with, if it ends with that. -/
theorem of_adopt {found : Option Record} {st : TokenState} {x : Option (Option Outcome)}
    (h : (adopt found st).Yields t x) :
    x = some (adopted found st) ∧
      t = counted (((adopted found st).map fun o => summons (.ok o)).getD []) := by
  have human {why : Reason} (h : (do return some (← callHuman why) :
      Program Custody (Option Outcome)).Yields t x) :
      x = some (some (.needsAuthorization why)) ∧
        t = counted [.authorizationNeeded why.name] := by
    obtain ⟨hs, -⟩ | ⟨s, a, u, rfl, hs, hu⟩ := h.bind_inv
    · cases (of_callHuman hs).2
    obtain ⟨rfl, ha⟩ := of_callHuman hs
    cases ha
    obtain ⟨rfl, rfl⟩ := hu.pure_inv
    exact ⟨rfl, rfl⟩
  cases found with
  | none => exact human h
  | some r =>
    cases st with
    | invalid => exact human h
    | expiredUnrefreshable => exact human h
    | _ =>
      obtain ⟨rfl, rfl⟩ := h.pure_inv
      exact ⟨rfl, rfl⟩

/-! ## Ends -/

theorem of_human {why : Reason} {x : Option (Except Error Outcome)}
    (h : (do return .ok (← callHuman why) :
      Program Custody (Except Error Outcome)).Yields t x) :
    Transcript cfg d (.ended (.outcome (.ok (.needsAuthorization why)))) t x := by
  obtain ⟨hs, -⟩ | ⟨s, a, u, rfl, hs, hu⟩ := h.bind_inv
  · cases (of_callHuman hs).2
  obtain ⟨rfl, ha⟩ := of_callHuman hs
  cases ha
  obtain ⟨rfl, rfl⟩ := hu.pure_inv
  exact .ended (.ok (.needsAuthorization why))

theorem of_error {e : Error} {x : Option (Except Error Outcome)}
    (h : (pure (.error e) : Program Custody (Except Error Outcome)).Yields t x) :
    Transcript cfg d (.ended (.outcome (.error e))) t x := by
  obtain ⟨rfl, rfl⟩ := h.pure_inv
  exact .ended (.error e)

theorem of_adoptOr {e : Error} {found : Option Record} {st : TokenState}
    {x : Option (Except Error Outcome)} (h : (adoptOr e found st).Yields t x) :
    Transcript cfg d (.ended (.outcome (settled found st (.error e)))) t x := by
  obtain ⟨hs, -⟩ | ⟨s, a, u, rfl, hs, hu⟩ := h.bind_inv
  · cases (of_adopt hs).1
  obtain ⟨ha, rfl⟩ := of_adopt hs
  cases ha
  unfold settled
  cases hadopted : adopted found st with
  | none =>
    rw [hadopted] at hu
    exact of_error hu
  | some o =>
    rw [hadopted] at hu
    obtain ⟨rfl, rfl⟩ := hu.pure_inv
    have hend : Transcript cfg d (.ended (.outcome (.ok o))) _ _ := .ended (.ok o)
    simpa using hend

/-- A run that looks again, and then goes on as its goal says. -/
theorem of_lookingAgain {g : Goal}
    {rest : Option Record → TokenState → Program Custody (Except Error Outcome)}
    {x : Option (Except Error Outcome)} (hg : ∀ found, g.looked found = .weighing g found)
    (hnotes : ∀ st, g.notes st = [])
    (hrest : ∀ found st u, (rest found st).Yields u x →
      Transcript cfg d (g.weighed found (some st)) u x)
    (h : (do
      match ← lookAgain cfg d with
      | .error e => return .error e
      | .ok (found, state) => rest found state :
        Program Custody (Except Error Outcome)).Yields t x) :
    Transcript cfg d (.looking g none) t x := by
  obtain ⟨hs, rfl⟩ | ⟨s, a, u, rfl, hs, hu⟩ := h.bind_inv
  · obtain ⟨e, he, -⟩ | ⟨s, found, now, rfl, hreads, hst⟩ := of_lookAgain hs
    · cases he
    · exact .beyond hreads (hg found) (Option.map_eq_none_iff.mp hst.symm)
  · obtain ⟨e, he, hreads⟩ | ⟨s, found, now, rfl, hreads, hst⟩ := of_lookAgain hs
    · cases he
      obtain ⟨rfl, rfl⟩ := hu.pure_inv
      rw [List.append_nil]
      exact .unread hreads
    · obtain ⟨st, hsome, rfl⟩ := Option.map_eq_some_iff.mp hst.symm
      have hweighed := Transcript.weighed hreads (hg found) hsome (hrest found st u hu)
      rw [hnotes] at hweighed
      simpa [counted] using hweighed

/-- A run that looks again because nothing is left for it to write. -/
theorem of_settle {otherwise : Except Error Outcome}
    {rest : Option Record → TokenState → Program Custody (Except Error Outcome)}
    {x : Option (Except Error Outcome)}
    (hrest : ∀ found st u, (rest found st).Yields u x →
      Transcript cfg d (.ended (.outcome (settled found st otherwise))) u x)
    (h : (do
      match ← lookAgain cfg d with
      | .error e => return .error e
      | .ok (found, state) => rest found state :
        Program Custody (Except Error Outcome)).Yields t x) :
    Transcript cfg d (.looking (.settle otherwise) none) t x :=
  of_lookingAgain (fun _ => rfl) (fun _ => rfl) hrest h

theorem of_refreshFailed {e : Error} {x : Option (Except Error Outcome)}
    (h : (refreshFailed e).Yields t x) :
    t = counted [.refresh false, .error e.code] ∧ x = some (.error e) := by
  obtain ⟨u, rfl, hu⟩ := of_emit h
  obtain ⟨v, rfl, hv⟩ := of_emit hu
  obtain ⟨rfl, rfl⟩ := hv.pure_inv
  exact ⟨rfl, rfl⟩

/-! ## Writing -/

/-- The time that is left decides whether a run goes on to write. -/
theorem of_ensureBudget {name : String} {β : Type} {f : Except Error Unit → Program Custody β}
    {x : Option β} (h : (ensureBudget cfg d name >>= f).Yields t x) :
    ∃ now u, (cfg.writeGuard ≤ d.remainingAt now ∧ t = .asked .timer now :: u ∧
        (f (.ok ())).Yields u x) ∨
      (¬cfg.writeGuard ≤ d.remainingAt now ∧
        t = .asked .timer now :: (counted [outOfTime name] ++ u) ∧
        (f (.error (.cancelled (.budgetExhausted name)))).Yields u x) := by
  have hbudget {s : List (Entry Custody)} {y : Option (Except Error Unit)}
      (hs : (ensureBudget cfg d name).Yields s y) : ∃ now,
        (cfg.writeGuard ≤ d.remainingAt now ∧ s = [.asked .timer now] ∧ y = some (.ok ())) ∨
        (¬cfg.writeGuard ≤ d.remainingAt now ∧
          s = .asked .timer now :: counted [outOfTime name] ∧
          y = some (.error (.cancelled (.budgetExhausted name)))) := by
    obtain ⟨now, u, rfl, hu⟩ := Yields.hasAtLeast_inv hs
    refine ⟨now, ?_⟩
    split at hu
    · next hfits =>
      obtain ⟨rfl, rfl⟩ := hu.pure_inv
      exact Or.inl ⟨of_decide_eq_true hfits, rfl, rfl⟩
    · next hlate =>
      obtain ⟨v, rfl, hv⟩ := of_emit hu
      obtain ⟨rfl, rfl⟩ := hv.pure_inv
      exact Or.inr ⟨fun hfits => hlate (decide_eq_true hfits), rfl, rfl⟩
  obtain ⟨hs, -⟩ | ⟨s, a, u, rfl, hs, hu⟩ := h.bind_inv
  · obtain ⟨now, ⟨-, -, hy⟩ | ⟨-, -, hy⟩⟩ := hbudget hs
    · cases hy
    · cases hy
  · obtain ⟨now, ⟨hfits, rfl, ha⟩ | ⟨hlate, rfl, ha⟩⟩ := hbudget hs
    · cases ha
      exact ⟨now, u, Or.inl ⟨hfits, rfl, hu⟩⟩
    · cases ha
      exact ⟨now, u, Or.inr ⟨hlate, rfl, hu⟩⟩

/-- What a run sees after its write was answered. -/
def Draft.Sequel (cfg : Settings) (d : Deadline) (dr : Draft) (a : Except Error Version)
    (t : List (Entry Custody)) (x : Option (Except Error Outcome)) : Prop :=
  ∃ u, t = counted (dr.notes a) ++ u ∧ Transcript cfg d (dr.written a) u x

theorem Draft.Sequel.wrote {dr : Draft} {a : Except Error Version} {now : Duration}
    {x : Option (Except Error Outcome)} (h : dr.Sequel cfg d a t x)
    (hfits : cfg.writeGuard ≤ d.remainingAt now) :
    Transcript cfg d (.writing dr)
      (.asked .timer now :: .called (.write dr.record dr.condition) a :: t) x := by
  obtain ⟨u, rfl, hu⟩ := h
  exact .wrote hfits a hu

/-- A write that came too late, and then another look. -/
theorem Draft.Sequel.conflict {dr : Draft} {e : Error} {goal : Goal}
    {f : Unit → Program Custody (Except Error Outcome)} {x : Option (Except Error Outcome)}
    (hagain : dr.again e = some goal) (he : e.isConflict = true)
    (h : (emit .conflict >>= f).Yields t x)
    (hf : ∀ u, (f ()).Yields u x → Transcript cfg d (.looking goal none) u x) :
    dr.Sequel cfg d (.error e) t x := by
  obtain ⟨u, rfl, hu⟩ := of_emit h
  refine ⟨u, ?_, ?_⟩
  · cases dr with
    | first r => cases hagain
    | _ => simp [Draft.notes, he]
  · simpa [Draft.written, hagain, he] using hf u hu

/-- The write stores the refreshed record `next`. -/
inductive Draft.Renewal (next : Record) : Draft → Prop where
  | successor (base : Record) : Renewal next (.successor base next)
  | overShadow (base shadow : Record) : Renewal next (.overShadow base next shadow)

/-- The write of a refreshed record: too little time is left for it, or it is made, or it
cannot be made, or it comes too late and `rest` follows. -/
theorem Draft.Renewal.of_store {dr : Draft} {next : Record} {c : WriteCondition}
    {rest : Error → Program Custody (Except Error Outcome)} {x : Option (Except Error Outcome)}
    (hdr : dr.Renewal next) (hc : dr.condition = c)
    (h : (do
      match ← ensureBudget cfg d "refresh write" with
      | .error e => return .error e
      | .ok () =>
        match ← Custody.write next c with
        | .ok v =>
          emit (.refresh true)
          return .ok (.refreshed (next.withVersion v))
        | .error e =>
          if e.isConflict then
            emit .conflict
            rest e
          else refreshFailed e : Program Custody (Except Error Outcome)).Yields t x)
    (hrest : ∀ e goal u, dr.again e = some goal → (rest e).Yields u x →
      Transcript cfg d (.looking goal none) u x) :
    Transcript cfg d (.writing dr) t x := by
  obtain ⟨now, u, ⟨hfits, rfl, hu⟩ | ⟨hlate, rfl, hu⟩⟩ := of_ensureBudget h
  · obtain ⟨a, v, rfl, hv⟩ := hu.calling_inv
    have hsequel : dr.Sequel cfg d a v x := by
      cases a with
      | ok version =>
        obtain ⟨w, rfl, hw⟩ := of_emit hv
        obtain ⟨rfl, rfl⟩ := hw.pure_inv
        cases hdr with
        | successor base => exact ⟨[], rfl, .ended _⟩
        | overShadow base shadow => exact ⟨[], rfl, .ended _⟩
      | error e =>
        dsimp only at hv
        split at hv
        · next he =>
          cases hdr with
          | successor base => exact .conflict rfl he hv fun w hw => hrest e _ w rfl hw
          | overShadow base shadow => exact .conflict rfl he hv fun w hw => hrest e _ w rfl hw
        · next he =>
          obtain ⟨rfl, rfl⟩ := of_refreshFailed hv
          have hend : Transcript cfg d (.ended (.outcome (.error e))) [] (some (.error e)) :=
            .ended (.error e)
          cases hdr with
          | successor base =>
            exact ⟨[], by simp [Draft.notes, he], by simpa [Draft.written, Draft.again, he]⟩
          | overShadow base shadow =>
            exact ⟨[], by simp [Draft.notes, he], by simpa [Draft.written, Draft.again, he]⟩
    subst hc
    cases hdr with
    | successor base => exact hsequel.wrote hfits
    | overShadow base shadow => exact hsequel.wrote hfits
  · cases hdr with
    | successor base => exact .late (.successor base next) hlate (of_error hu)
    | overShadow base shadow =>
      exact .late (.overShadow base next shadow) hlate (of_error hu)

theorem of_replaceShadow {base next shadow : Record} {x : Option (Except Error Outcome)}
    (h : (replaceShadow cfg d next shadow).Yields t x) :
    Transcript cfg d (.writing (.overShadow base next shadow)) t x := by
  refine (Draft.Renewal.overShadow base shadow).of_store rfl h fun e goal u hgoal hu => ?_
  cases hgoal
  exact of_settle (fun _ _ _ hs => of_adoptOr hs) hu

theorem of_storeRefreshed {base next : Record} {x : Option (Except Error Outcome)}
    (h : (storeRefreshed cfg d base next).Yields t x) :
    Transcript cfg d (.writing (.successor base next)) t x := by
  refine (Draft.Renewal.successor base).of_store rfl h fun e goal u hgoal hu => ?_
  cases hgoal
  refine of_lookingAgain (fun _ => rfl) (fun _ => rfl) (fun found st v hv => ?_) hu
  dsimp only [Goal.weighed]
  cases hshadow : found.filter (isOwnShadow base) with
  | some shadow =>
    rw [hshadow] at hv
    exact of_replaceShadow hv
  | none =>
    rw [hshadow] at hv
    exact of_adoptOr hv

/-- What follows when the record is written as refused, or cannot be. -/
theorem Draft.Sequel.fault {base : Record} {f : Fault} {why : Reason}
    {otherwise : Error → Except Error Outcome} {a : Except Error Version}
    {rest last : Error → Program Custody (Except Error Outcome)}
    {x : Option (Except Error Outcome)}
    (h : (match a with
      | .ok _ => (do return .ok (← callHuman why) : Program Custody (Except Error Outcome))
      | .error e =>
        if e.isConflict then do
          emit .conflict
          rest e
        else do
          emit (.error e.code)
          last e).Yields t x)
    (hrest : ∀ e u, (rest e).Yields u x →
      Transcript cfg d (.looking (.settle (otherwise e)) none) u x)
    (hlast : ∀ e u, (last e).Yields u x →
      Transcript cfg d (.ended (.outcome (otherwise e))) u x) :
    (Draft.fault base f why otherwise).Sequel cfg d a t x := by
  cases a with
  | ok v => exact ⟨t, rfl, of_human h⟩
  | error e =>
    dsimp only at h
    split at h
    · next he => exact .conflict rfl he h (hrest e)
    · next he =>
      obtain ⟨u, rfl, hu⟩ := of_emit h
      refine ⟨u, by simp [Draft.notes, he], ?_⟩
      simpa [Draft.written, Draft.again, Draft.refused, he] using hlast e u hu

theorem of_storeFault {base : Record} {f : Fault} {why : Reason}
    {x : Option (Except Error Outcome)} (h : (storeFault cfg d base f why).Yields t x) :
    Transcript cfg d
      (.writing (.fault base f why fun _ => .ok (.needsAuthorization why))) t x := by
  obtain ⟨now, u, ⟨hfits, rfl, hu⟩ | ⟨hlate, rfl, hu⟩⟩ := of_ensureBudget h
  · obtain ⟨a, v, rfl, hv⟩ := hu.calling_inv
    refine Draft.Sequel.wrote (.fault hv ?_ fun e w hw => of_human hw) hfits
    intro e w hw
    refine of_settle (fun found st s hs => ?_) hw
    obtain ⟨hs, -⟩ | ⟨s, a, u, rfl, hs, hu⟩ := hs.bind_inv
    · cases (of_adopt hs).1
    obtain ⟨ha, rfl⟩ := of_adopt hs
    cases ha
    unfold settled
    cases hadopted : adopted found st with
    | none =>
      rw [hadopted] at hu
      exact of_human hu
    | some o =>
      rw [hadopted] at hu
      obtain ⟨rfl, rfl⟩ := hu.pure_inv
      simpa using Transcript.ended (.ok o)
  · exact .late (.fault base f why _) hlate (of_human hu)

/-! ## Runs -/

theorem of_refresh {base : Record} {x : Option (Except Error Outcome)}
    (h : (refresh cfg d base).Yields t x) : Transcript cfg d (.refreshing base none) t x := by
  have hasks {s : List (Entry Custody)} {y : Option (Except Error Grant)}
      (hs : (withRetries cfg.retry d (Custody.refresh base.refreshToken)).Yields s y) :
      ∃ a, y = some a ∧ Asks cfg d base.refreshToken s a := by
    refine RetryPolicy.attempts_of_withRetries (fun t x ht => ?_) hs
    cases ht with
    | call _ _ a hu =>
      cases hu
      exact ⟨a, rfl, rfl⟩
  obtain ⟨u, rfl, hu⟩ := of_emit h
  obtain ⟨hs, -⟩ | ⟨s, a, v, rfl, hs, hv⟩ := hu.bind_inv
  · obtain ⟨a, ha, -⟩ := hasks hs
    cases ha
  obtain ⟨_, ha, hasked⟩ := hasks hs
  cases ha
  cases a with
  | ok g =>
    refine .granted hasked ?_
    obtain ⟨hnone, rfl, rfl⟩ | ⟨r, hsome, hr⟩ := hv.orHalt_inv
    · rw [hnone]
      exact .halted
    · rw [hsome]
      cases r with
      | error e => exact of_error hr
      | ok next => exact of_storeRefreshed hr
  | error e =>
    dsimp only at hv
    split at hv
    · next he =>
      obtain ⟨w, rfl, hw⟩ := of_emit hv
      obtain ⟨now, w, rfl, hfault⟩ := hw.asking_inv
      exact .refused hasked he (of_storeFault hfault)
    · next he =>
      obtain ⟨rfl, rfl⟩ := of_refreshFailed hv
      exact .failed hasked he

theorem of_obtainBy {x : Option (Except Error Outcome)} (h : (obtainBy cfg d).Yields t x) :
    Transcript cfg d (.looking .first none) t x := by
  obtain ⟨hs, -⟩ | ⟨s, a, u, rfl, hs, hu⟩ := h.bind_inv
  · obtain ⟨a, ha, -⟩ := of_readStore hs
    cases ha
  obtain ⟨_, ha, hreads⟩ := of_readStore hs
  cases ha
  match a with
  | .error e =>
    obtain ⟨rfl, rfl⟩ := hu.pure_inv
    rw [List.append_nil]
    exact .unread hreads
  | .ok none =>
    obtain ⟨v, rfl, hv⟩ := of_emit hu
    exact .nothing hreads (of_human hv)
  | .ok (some r) =>
    obtain ⟨hst, rfl⟩ | ⟨v, st, w, rfl, hst, hw⟩ := hu.bind_inv
    · obtain ⟨now, rfl, hnone⟩ := of_assess hst
      exact .beyond hreads rfl hnone.symm
    obtain ⟨now, rfl, hsome⟩ := of_assess hst
    obtain ⟨w, rfl, hstate⟩ := of_emit hw
    refine .weighed hreads rfl hsome.symm ?_
    cases st with
    | valid =>
      obtain ⟨rfl, rfl⟩ := hstate.pure_inv
      exact .ended (.ok (.unchanged r))
    | expiringSoon => exact of_refresh hstate
    | expiredRefreshable => exact of_refresh hstate
    | expiredUnrefreshable => exact of_human hstate
    | invalid => exact of_human hstate
    | uninitialized => exact of_human hstate

/-- A report of a rejection ends at once where there is nothing to note, and otherwise it sets
its deadline first, if the clock goes so far. -/
theorem of_reportRejection {used : Record} {why : String} {x : Option (Except Error Outcome)}
    (h : (reportRejection cfg used why).Yields t x) :
    (∃ r, Stage.ofUsed used why = .ended r ∧ ∀ d, Transcript cfg d (.ended r) t x) ∨
      ∃ now u, t = .asked .timer now :: u ∧
        ((Deadline.afterAt now cfg.budget = none ∧ u = [] ∧ x = none) ∨
          ∃ d, Deadline.afterAt now cfg.budget = some d ∧
            Transcript cfg d (.reporting used why) u x) := by
  unfold reportRejection at h
  cases hversion : used.version with
  | none =>
    rw [hversion] at h
    exact Or.inl ⟨_, by simp [Stage.ofUsed, hversion], fun d => of_error h⟩
  | some version =>
    simp only [hversion] at h
    split at h
    · next hf => exact Or.inl ⟨_, by simp [Stage.ofUsed, hversion, hf], fun d => of_human h⟩
    obtain ⟨now, u, rfl, hbeyond | ⟨d, hd, hu⟩⟩ := h.after_inv
    · exact Or.inr ⟨now, u, rfl, Or.inl hbeyond⟩
    refine Or.inr ⟨now, u, rfl, Or.inr ⟨d, hd, ?_⟩⟩
    obtain ⟨now, v, ⟨hfits, rfl, hv⟩ | ⟨hlate, rfl, hv⟩⟩ := of_ensureBudget hu
    · obtain ⟨at_, w, rfl, hw⟩ := hv.asking_inv
      obtain ⟨a, w, rfl, ha⟩ := hw.calling_inv
      have hsequel : (Draft.fault used ⟨.apiRejected, why, at_⟩ (.invalid why) .error).Sequel
          cfg d a w x := .fault ha (fun e w hw => of_settle (fun _ _ _ hs => of_adoptOr hs) hw)
            fun e w hw => of_error hw
      have hcondition : WriteCondition.replacing used = .holds version := by
        rw [WriteCondition.replacing, hversion]
      obtain ⟨s, rfl, hs⟩ := hsequel
      rw [← hcondition]
      exact .reported hfits rfl a hs
    · obtain ⟨rfl, rfl⟩ := hv.pure_inv
      simpa using Transcript.notReported hlate

end TokenCustody.Coordination
