/-
TokenCustody.Proofs.Coordination.Spacing — no refresh comes early.

A run decides to refresh on a record that it has read, and by the time it
has its grant the store may hold something else. Still no refreshed
record gets into the store before the record that it replaces was due,
however many runs refresh, report rejections or store the grant of a
human at the same time. It replaces the very record that the decision was
taken on, or one with a fault of the provider that expires when that
record does.

The second needs a provider that keeps its lineages of refresh tokens
apart. A refresh stays in the lineage of the token that was presented, an
authorization begins a new one, and no token belongs to two. Then what
looks like the fault on a record is one (`Chronicle.agree`).

A negative threshold puts nothing off: a record whose access token has
expired is refreshed whatever the threshold is
(`refreshed_early_by_threshold`).
-/
import TokenCustody.Proofs.Coordination.Absorption
import TokenCustody.Proofs.Coordination.Agreement
import TokenCustody.Proofs.Coordination.Chronicle

namespace TokenCustody

open TokenCustody.Time

/-! ## A provider with lineages -/

/-- A store, a clock, and the lineages that the provider has begun. -/
structure Issuing extends Timed where
  begun : List Nat

/-- A refresh token that is granted for another is of the same lineage, and the grant is
received when it is answered. A refresh token that is granted for a code begins a lineage. -/
def Entry.Issues (lineageOf : String → Nat) (begun begun' : List Nat) (t : Instant) :
    Entry Custody → Prop
  | .called (.refresh token) (.ok g) =>
    g.receivedAt = t ∧ (∀ token', g.refreshToken = some token' →
      lineageOf token' = lineageOf token) ∧ begun' = begun
  | .called (.exchange _ _) (.ok g) =>
    match g.refreshToken with
    | some token => lineageOf token ∉ begun ∧ begun' = lineageOf token :: begun
    | none => begun' = begun
  | _ => begun' = begun

/-- The store answers, the clock does not go back, and the provider keeps its lineages apart. -/
structure Issuing.Serves (lineageOf : String → Nat) (w : Issuing) (e : Entry Custody)
    (w' : Issuing) : Prop where
  timed : w.toTimed.Serves e w'.toTimed
  issues : e.Issues lineageOf w.begun w'.begun w'.clock

namespace Coordination

/-- All kinds of runs. Those that obtain a token have the same threshold, and a rejection may
be reported of any record whatever. -/
def issuing (threshold : Span) (lineageOf : String → Nat) : Surroundings where
  World := Issuing
  Begins _ _ o := ∀ cfg deadline, o = .obtain cfg deadline → cfg.refreshThreshold = threshold
  Answers _ := Issuing.Serves lineageOf

variable {threshold : Span} {lineageOf : String → Nat}

/-! ## Runs and what is due -/

/-- The run has read `base`, and was granted `next` in its place when that was due. -/
structure Ripe (threshold : Span) (lineageOf : String → Nat) (l : Ledger) (base next : Record) :
    Prop where
  found : base ∈ l.found
  due : base.dueFrom threshold ≤ next.issuedAt
  lineage : lineageOf next.refreshToken = lineageOf base.refreshToken

/-- A run refreshes only what it has read and what is due, and unless it reports a rejection it
stores a fault only on what it has read. -/
def Stage.Patient (threshold : Span) (lineageOf : String → Nat) (o : Task) (l : Ledger)
    (t : Instant) : Stage → Prop
  | looking .first _ | weighing .first _ => o.settings.refreshThreshold = threshold
  | refreshing base _ => base ∈ l.found ∧ base.dueFrom threshold ≤ t
  | refused base _ => base ∈ l.found
  | looking (.recover base next _) _ | weighing (.recover base next _) _
  | writing (.successor base next) | writing (.overShadow base next _) =>
    Ripe threshold lineageOf l base next
  | writing (.fault base f _ _) => f.kind ≠ .apiRejected → base ∈ l.found
  | _ => True

theorem Ledger.found_enter (l : Ledger) (e : Entry Custody) : l.found ⊆ (l.enter e).found := by
  unfold Ledger.enter
  split
  · exact List.subset_append_left _ _
  · exact List.Subset.refl _
  · exact List.Subset.refl _
  · exact List.Subset.refl _

theorem Ripe.mono {l l' : Ledger} {base next : Record} (h : Ripe threshold lineageOf l base next)
    (hl : l.found ⊆ l'.found) : Ripe threshold lineageOf l' base next :=
  ⟨hl h.found, h.due, h.lineage⟩

section Moves

variable {o : Task} {l : Ledger} {w w' : Issuing} {e : Entry Custody} {s s' : Stage}

/-- What is due stays so as time passes, and what was read stays read. -/
theorem Stage.Patient.mono {l' : Ledger} {t t' : Instant}
    (h : s.Patient threshold lineageOf o l t) (hl : l.found ⊆ l'.found) (ht : t ≤ t') :
    s.Patient threshold lineageOf o l' t' := by
  cases s with
  | looking goal last =>
    cases goal with
    | first => exact h
    | recover base next e' => exact Ripe.mono h hl
    | _ => exact trivial
  | weighing goal found =>
    cases goal with
    | first => exact h
    | recover base next e' => exact Ripe.mono h hl
    | _ => exact trivial
  | refreshing base last => exact ⟨hl h.1, Instant.le_trans h.2 ht⟩
  | refused base e' => exact hl h
  | writing d =>
    cases d with
    | successor base next => exact Ripe.mono h hl
    | overShadow base next shadow => exact Ripe.mono h hl
    | fault base f why otherwise => exact fun hkind => hl (h hkind)
    | first r => exact trivial
  | _ => exact trivial

theorem Stage.patient_start {t : Instant}
    (ho : ∀ cfg deadline, o = .obtain cfg deadline → cfg.refreshThreshold = threshold) :
    o.start.Patient threshold lineageOf o l t := by
  cases o with
  | obtain cfg deadline => exact ho cfg deadline rfl
  | rejection cfg used why =>
    show (ofUsed used why).Patient threshold lineageOf _ _ _
    unfold ofUsed
    split
    · exact trivial
    · split <;> exact trivial
  | authorization cfg s c => exact trivial
  | inspection cfg => exact trivial

/-- A run that has just looked at the clock refreshes only what is due. -/
theorem Stage.patient_weighed {g : Goal} {found : Option Record} {t : Instant}
    (hb : (weighing g found).Backed o l)
    (h : (weighing g found).Patient threshold lineageOf o l t) :
    (g.weighed found (stateOf o.settings.refreshThreshold found t .notObserved)).Patient
      threshold lineageOf o l t := by
  obtain ⟨-, -, hfound, -⟩ := hb
  cases hst : stateOf o.settings.refreshThreshold found t .notObserved with
  | none => cases g <;> exact trivial
  | some st =>
    cases g with
    | first =>
      cases found with
      | none => exact trivial
      | some r =>
        have hthreshold : o.settings.refreshThreshold = threshold := h
        have hdue (hneeds : st.needsRefresh = true) : r ∈ l.found ∧ r.dueFrom threshold ≤ t := by
          rw [← hthreshold]
          exact ⟨hfound r rfl, Record.dueFrom_le hst hneeds⟩
        cases st with
        | expiringSoon => exact hdue rfl
        | expiredRefreshable => exact hdue rfl
        | _ => exact trivial
    | recover base next e =>
      dsimp only [Goal.weighed]
      cases found.filter (isOwnShadow base) with
      | none => exact trivial
      | some shadow => exact h
    | settle otherwise => exact trivial
    | tell => exact trivial

theorem Stage.patient_written {t : Instant} {d : Draft}
    (h : (writing d).Patient threshold lineageOf o l t) (a : Except Error Version) :
    (d.written a).Patient threshold lineageOf o l t := by
  cases a with
  | ok v => exact trivial
  | error e =>
    rcases d.written_error e with ⟨goal, hagain, hw⟩ | hw
    · rw [hw]
      cases d with
      | successor base next =>
        cases hagain
        exact h
      | overShadow base next shadow =>
        cases hagain
        exact trivial
      | fault base f why otherwise =>
        cases hagain
        exact trivial
      | first r => cases hagain
    · rw [hw]
      exact trivial

/-- A grant makes a successor that was issued when it was received, in the same lineage. -/
theorem Ripe.of_granted {base next : Record} {g : Grant} {lifetime : Span} {t : Instant}
    (hfound : base ∈ l.found) (hdue : base.dueFrom threshold ≤ t) (ht : t ≤ g.receivedAt)
    (hlineage : ∀ token, g.refreshToken = some token →
      lineageOf token = lineageOf base.refreshToken)
    (hnext : base.successor g lifetime = some (.ok next)) :
    Ripe threshold lineageOf l base next := by
  obtain ⟨token, refreshExpiresAt, expiresAt, htoken, -, -, rfl⟩ := Record.successor_ok hnext
  refine ⟨hfound, Instant.le_trans hdue ht, ?_⟩
  show lineageOf token = lineageOf base.refreshToken
  unfold Record.refreshTokenAfter at htoken
  cases hg : g.refreshToken with
  | none =>
    rw [hg] at htoken
    cases htoken
    rfl
  | some token' =>
    rw [hg] at htoken
    obtain ⟨t', -, hpair⟩ := Option.map_eq_some_iff.mp htoken
    cases hpair
    exact hlineage _ hg

/-- Every move of a run leads to where it has waited long enough. -/
theorem Move.patient (h : Move o s e s') (ha : w.Serves lineageOf e w') (hb : s.Backed o l)
    (hs : s.Patient threshold lineageOf o l w.clock) :
    s'.Patient threshold lineageOf o (l.enter e) w'.clock := by
  have hstay := hs.mono (l.found_enter e) ha.timed.clock
  cases h with
  | emit m => exact hstay
  | tally t h => exact hstay
  | timer t => exact hstay
  | draw h x => exact hstay
  | sleep h d => exact hstay
  | @readFailed g last e => cases g <;> exact hstay
  | @readGivenUp g e => cases g <;> exact trivial
  | @read g last found =>
    cases g with
    | first =>
      cases found with
      | none => exact trivial
      | some r => exact hstay
    | recover base next e => exact hstay
    | settle otherwise => exact trivial
    | tell => exact trivial
  | weighed t =>
    obtain rfl : t = w'.clock := ha.timed.told t rfl
    exact Stage.patient_weighed hb hstay
  | refreshFailed e => exact hstay
  | refreshRefused e h => exact hstay.1
  | refreshGivenUp e h => exact trivial
  | @granted base last g =>
    obtain ⟨hreceived, hlineage, -⟩ := ha.issues
    cases hn : base.successor g o.settings.refreshLifetime with
    | none => exact trivial
    | some r =>
      cases r with
      | error e => exact trivial
      | ok next =>
        exact .of_granted hstay.1 hstay.2 (hreceived ▸ Instant.le_refl _) hlineage hn
  | @faulted base e t => exact fun _ => hs
  | wrote a => exact Stage.patient_written hstay a
  | @tooLate d stage t h => cases d <;> exact trivial
  | reported t => exact fun hkind => absurd rfl hkind
  | notReported stage t => exact trivial
  | beyond h t => exact trivial
  | checked t r => cases r <;> exact trivial
  | exchanged code uri a =>
    unfold Stage.ofExchange
    cases a with
    | error e => exact trivial
    | ok g =>
      dsimp only
      split <;> exact trivial

/-! ## First records -/

/-- The first record that a run is about to store. -/
def Stage.first? : Stage → Option Record
  | writing (.first r) => some r
  | _ => none

theorem Goal.first?_weighed (g : Goal) (found : Option Record) (st : Option TokenState) :
    (g.weighed found st).first? = none := by
  cases st with
  | none => cases g <;> rfl
  | some st =>
    cases g with
    | first =>
      cases found with
      | none => rfl
      | some r => cases st <;> rfl
    | recover base next e =>
      dsimp only [Goal.weighed]
      cases found.filter (isOwnShadow base) <;> rfl
    | settle otherwise => rfl
    | tell => rfl

theorem Draft.first?_written (d : Draft) (a : Except Error Version) :
    (d.written a).first? = none := by
  cases a with
  | ok v => rfl
  | error e => rcases d.written_error e with ⟨goal, -, hw⟩ | hw <;> rw [hw] <;> rfl

theorem Task.first?_start (o : Task) : o.start.first? = none := by
  cases o with
  | rejection cfg used why =>
    show (Stage.ofUsed used why).first? = none
    unfold Stage.ofUsed
    split
    · rfl
    · split <;> rfl
  | _ => rfl

/-- A run has a first record to store because it had it before, or because it has just traded
a code for it. Either way it has written nothing. -/
theorem Move.first? {r : Record} (h : Move o s e s') (hr : s'.first? = some r) :
    (∀ next c a, e ≠ .called (S := Custody) (.write next c) a) ∧
      (s.first? = some r ∨ ∃ code uri g, e = .called (S := Custody) (.exchange code uri) (.ok g) ∧
        g.refreshToken = some r.refreshToken) := by
  cases h with
  | emit m => exact ⟨fun _ _ _ h => (by cases h), Or.inl hr⟩
  | tally t h => exact ⟨fun _ _ _ h => (by cases h), Or.inl hr⟩
  | timer t => exact ⟨fun _ _ _ h => (by cases h), Or.inl hr⟩
  | draw h x => exact ⟨fun _ _ _ h => (by cases h), Or.inl hr⟩
  | sleep h d => exact ⟨fun _ _ _ h => (by cases h), Or.inl hr⟩
  | readFailed e => cases hr
  | @readGivenUp g e => cases g <;> cases hr
  | @read g last found => cases g <;> cases found <;> cases hr
  | @weighed g found t =>
    rw [Goal.first?_weighed] at hr
    cases hr
  | refreshFailed e => cases hr
  | refreshRefused e h => cases hr
  | refreshGivenUp e h => cases hr
  | @granted base last g =>
    cases hn : base.successor g o.settings.refreshLifetime with
    | none =>
      rw [hn] at hr
      cases hr
    | some x =>
      rw [hn] at hr
      cases x <;> cases hr
  | faulted t => cases hr
  | @wrote d a =>
    rw [Draft.first?_written] at hr
    cases hr
  | @tooLate d stage t h => cases d <;> cases hr
  | reported t => cases hr
  | notReported stage t => cases hr
  | beyond h t => cases hr
  | checked t r => cases r <;> cases hr
  | exchanged code uri a =>
    cases a with
    | error e => cases hr
    | ok g =>
      unfold Stage.ofExchange at hr
      dsimp only at hr
      split at hr
      · cases hr
      · cases hr
      · next r' hfirst =>
        obtain rfl : r' = r := Option.some.inj hr
        exact ⟨fun _ _ _ h => (by cases h),
          Or.inr ⟨code, uri, g, rfl, (Grant.firstRecord_ok hfirst).1⟩⟩

end Moves

/-! ## All runs -/

/-- A lineage that has begun stays so. -/
theorem begun_subset {begun begun' : List Nat} {t : Instant} {e : Entry Custody}
    (h : e.Issues lineageOf begun begun' t) : begun ⊆ begun' := by
  have hsame (heq : begun' = begun) : begun ⊆ begun' := heq ▸ List.Subset.refl _
  unfold Entry.Issues at h
  split at h
  · exact hsame h.2.2
  · split at h
    · rw [h.2]
      exact List.subset_cons_self _ _
    · exact hsame h
  · exact hsame h

/-- A first record that is not stored yet is of a lineage that has begun, and nothing of it was
held but what a call was turned away with. -/
structure Unheld (lineageOf : String → Nat) (begun : List Nat) (records : List Record)
    (r : Record) : Prop where
  begun : lineageOf r.refreshToken ∈ begun
  new : ∀ b ∈ records, b.Unrejected → lineageOf b.refreshToken ≠ lineageOf r.refreshToken

/-- The first records that two actors are about to store are of different lineages. -/
def Actor.ApartFrom (lineageOf : String → Nat) (a b : Actor) : Prop :=
  ∀ r r', a.stage.first? = some r → b.stage.first? = some r' →
    lineageOf r.refreshToken ≠ lineageOf r'.refreshToken

theorem Actor.ApartFrom.symm {a b : Actor} (h : a.ApartFrom lineageOf b) :
    b.ApartFrom lineageOf a :=
  fun r r' hr hr' => (h r' r hr' hr).symm

/-- What holds of the world and the actors in it. -/
structure Spacing (threshold : Span) (lineageOf : String → Nat) (s₀ : MemoryStore) (w : Issuing)
    (c : Cast) : Prop where
  crowd : CrowdInvariant s₀ w.store c
  patient : ∀ i a, c i = some a →
    a.stage.Patient threshold lineageOf a.task a.ledger w.clock
  chronicle : Chronicle threshold lineageOf w.begun (s₀.heldSince w.store)
  unheld : ∀ i a, c i = some a → ∀ r, a.stage.first? = some r →
    Unheld lineageOf w.begun (s₀.heldSince w.store) r
  apart : ∀ i j a b, i ≠ j → c i = some a → c j = some b → a.ApartFrom lineageOf b

namespace Spacing

variable {s₀ : MemoryStore} {w w' : Issuing} {c : Cast} {i : Nat} {a : Actor}

theorem start (h : ∀ r, w.store.current = some r → lineageOf r.refreshToken ∈ w.begun) :
    Spacing threshold lineageOf w.store w fun _ => none := by
  refine ⟨.start _, fun i a hi => ?_, ?_, fun i a hi => ?_, fun i j a b _ hi => ?_⟩
  · cases hi
  · rw [MemoryStore.heldSince_self]
    refine .start fun b hb => ?_
    have hcur : w.store.current = some (b.withVersion w.store.version) :=
      congrArg (Option.map _) hb
    exact h (b.withVersion w.store.version) hcur
  · cases hi
  · cases hi

theorem begin (h : Spacing threshold lineageOf s₀ w c) {o : Task}
    (ho : ∀ cfg deadline, o = .obtain cfg deadline → cfg.refreshThreshold = threshold) :
    Spacing threshold lineageOf s₀ w (Function.update c i (some (.begin o))) := by
  have hnone {r : Record} (hr : (Actor.begin o).stage.first? = some r) : False := by
    have hstart : (Actor.begin o).stage.first? = none := o.first?_start
    rw [hstart] at hr
    cases hr
  exact ⟨h.crowd.begin o, forall_update (Stage.patient_start ho) fun j b _ hj => h.patient j b hj,
    h.chronicle, forall_update (fun r hr => (hnone hr).elim) fun j b _ hj => h.unheld j b hj,
    pairwise_update (fun _ _ hab => hab.symm) h.apart
      fun j b _ _ r r' hr _ => (hnone hr).elim⟩

/-- A record that is held and has been read is the last that was held. -/
theorem last_of_meets (h : Spacing threshold lineageOf s₀ w c) (hi : c i = some a) {r : Record}
    (hr : r ∈ a.ledger.found) (hmeets : w.store.meets (.replacing r) = true) :
    ∃ b ∈ s₀.heldSince w.store, (s₀.heldSince w.store).getLast? = some b ∧
      ∃ v, r = b.withVersion v :=
  MemoryStore.mem_heldSince_of_current h.crowd.becomes
    (((h.crowd.kept i a hi).found r hr).current_of_meets hmeets)

/-- What is written goes on with the chronicle. It is of a lineage that was held, unless it is
the first of a lineage or a rejection. -/
theorem written (h : Spacing threshold lineageOf s₀ w c) (hi : c i = some a) {d : Draft}
    (hd : a.stage = .writing d) (hmeets : w.store.meets d.condition = true) :
    Chronicle threshold lineageOf w.begun (s₀.heldSince w.store ++ [d.record.bare]) ∧
      (d.record.Unrejected → a.stage.first? = some d.record ∨ ∃ b ∈ s₀.heldSince w.store,
        b.Unrejected ∧ lineageOf b.refreshToken = lineageOf d.record.refreshToken) := by
  have hp := h.patient i a hi
  have hb := a.backed
  rw [hd] at hp hb
  cases d with
  | successor base next =>
    have hripe : Ripe threshold lineageOf a.ledger base next := hp
    have hrenews : Renews a.task a.ledger base next := hb.2
    obtain ⟨g, -, hn⟩ := hrenews.granted
    obtain ⟨hcount, hfault, -⟩ := Record.successor_facts hn
    obtain ⟨b, hmem, hlast, v, rfl⟩ := h.last_of_meets hi hripe.found hmeets
    have hr := Record.unrejected_of_unfaulted (r := b) hrenews.unfaulted
    exact ⟨h.chronicle.refreshed hlast hr hcount hripe.lineage hfault hripe.due,
      fun _ => Or.inr ⟨b, hmem, hr, hripe.lineage.symm⟩⟩
  | overShadow base next shadow =>
    have hripe : Ripe threshold lineageOf a.ledger base next := hp
    obtain ⟨hrenews, hfound, hown⟩ := hb.2
    obtain ⟨g, -, hn⟩ := hrenews.granted
    obtain ⟨hcount, hfault, -⟩ := Record.successor_facts hn
    obtain ⟨⟨f, hf, hkind⟩, htoken, hsame⟩ := shadows_iff.mp hown
    obtain ⟨p, hmem, hlast, v, rfl⟩ := h.last_of_meets hi hfound hmeets
    obtain ⟨b, hbmem, v', rfl⟩ := ((h.crowd.kept i a hi).found base hripe.found).mem_heldSince
    have hr : p.Unrejected := by
      intro f' hf'
      obtain rfl : f = f' := Option.some.inj (hf.symm.trans hf')
      rcases hkind with hk | hk <;> rw [hk] <;> decide
    -- The fault is on a record of the same lineage that is as far, so it expires with that.
    have hexpires := h.chronicle.agree b hbmem p hmem
      (Record.unrejected_of_unfaulted hrenews.unfaulted) hr htoken hsame
    have hlineage : lineageOf next.refreshToken = lineageOf p.refreshToken :=
      hripe.lineage.trans (congrArg lineageOf htoken.symm)
    have hdue : p.dueFrom threshold ≤ next.issuedAt := by
      rw [Record.dueFrom_congr hexpires]
      exact hripe.due
    have hnext : next.refreshCount = p.refreshCount + 1 :=
      hcount.trans (congrArg (· + 1) hsame.symm)
    exact ⟨h.chronicle.refreshed hlast hr hnext hlineage hfault hdue,
      fun _ => Or.inr ⟨p, hmem, hr, hlineage.symm⟩⟩
  | fault base f why otherwise =>
    by_cases hkind : f.kind = .apiRejected
    · exact ⟨h.chronicle.rejected rfl hkind, fun hn => absurd hkind (hn f rfl)⟩
    · obtain ⟨b, hmem, hlast, v, rfl⟩ := h.last_of_meets hi (hp hkind) hmeets
      have hfault : b.fault = none := hb.2.1.unfaulted
      exact ⟨h.chronicle.noted hlast hfault f,
        fun _ => Or.inr ⟨b, hmem, Record.unrejected_of_unfaulted hfault, rfl⟩⟩
  | first r =>
    have hunheld := h.unheld i a hi r (by rw [hd]; rfl)
    obtain ⟨g, hg⟩ := hb.2
    obtain ⟨hcount, hfault, -⟩ := Grant.firstRecord_facts hg
    exact ⟨h.chronicle.first hcount hfault hunheld.begun hunheld.new,
      fun _ => Or.inl (by rw [hd]; rfl)⟩

/-- Where a first record has just been granted, it is of a new lineage. -/
theorem unheld_after (h : Spacing threshold lineageOf s₀ w c) (hi : c i = some a)
    {e : Entry Custody} {s : Stage} (hm : Move a.task a.stage e s) (ha : w.Serves lineageOf e w')
    {r : Record} (hr : s.first? = some r) :
    w'.store = w.store ∧ Unheld lineageOf w'.begun (s₀.heldSince w'.store) r ∧
      (a.stage.first? = some r ∨ lineageOf r.refreshToken ∉ w.begun) := by
  obtain ⟨hnowrite, hfirst⟩ := hm.first? hr
  have hstore : w'.store = w.store := by
    rcases ha.timed.store.cases with hs | ⟨next, cond, v, he, -⟩
    · exact hs
    · exact absurd he (hnowrite next cond _)
  rw [hstore]
  refine ⟨rfl, ?_⟩
  rcases hfirst with hfirst | ⟨code, uri, g, rfl, hg⟩
  · have hunheld := h.unheld i a hi r hfirst
    exact ⟨⟨begun_subset ha.issues hunheld.begun, hunheld.new⟩, Or.inl hfirst⟩
  · have hissues := ha.issues
    simp only [Entry.Issues, hg] at hissues
    obtain ⟨hnew, hbegun⟩ := hissues
    refine ⟨⟨?_, fun b hb hbr hl => hnew (hl ▸ h.chronicle.begun b hb hbr)⟩, Or.inr hnew⟩
    rw [hbegun]
    exact List.mem_cons_self

/-- What was held goes on with the chronicle, and what others are about to store as the first
of a lineage is still that. -/
theorem held_after (h : Spacing threshold lineageOf s₀ w c) (hi : c i = some a)
    {e : Entry Custody} {s : Stage} (hm : Move a.task a.stage e s) (ha : w.Serves lineageOf e w') :
    Chronicle threshold lineageOf w'.begun (s₀.heldSince w'.store) ∧
      ∀ j b, j ≠ i → c j = some b → ∀ r, b.stage.first? = some r →
        Unheld lineageOf w'.begun (s₀.heldSince w'.store) r := by
  have hsub := begun_subset ha.issues
  rcases ha.timed.store.cases with hs | ⟨next, cond, v, rfl, hmeets, hs⟩
  · rw [hs]
    refine ⟨h.chronicle.mono hsub, fun j b _ hj r hr => ?_⟩
    have hunheld := h.unheld j b hj r hr
    exact ⟨hsub hunheld.begun, hunheld.new⟩
  · obtain ⟨d, hd, rfl, rfl, -⟩ := hm.write_inv
    obtain ⟨hchronicle, hkin⟩ := h.written hi hd hmeets
    rw [hs, MemoryStore.heldSince_write h.crowd.becomes]
    refine ⟨hchronicle.mono hsub, fun j b hji hj r hr => ?_⟩
    have hunheld := h.unheld j b hj r hr
    refine ⟨hsub hunheld.begun, fun p hp hpr => ?_⟩
    rcases List.mem_append.mp hp with hp | hp
    · exact hunheld.new p hp hpr
    · obtain rfl := List.mem_singleton.mp hp
      rcases hkin hpr with hfirst | ⟨q, hq, hqr, hl⟩
      · exact h.apart i j a b hji.symm hi hj d.record r hfirst hr
      · exact fun hl' => hunheld.new q hq hqr (hl.trans hl')

theorem move (h : Spacing threshold lineageOf s₀ w c) (hi : c i = some a) {e : Entry Custody}
    {s : Stage} (hm : Move a.task a.stage e s) (ha : w.Serves lineageOf e w') :
    Spacing threshold lineageOf s₀ w' (Function.update c i (some (a.after hm))) := by
  obtain ⟨hchronicle, hothers⟩ := h.held_after hi hm ha
  refine ⟨h.crowd.move hm hi ha.timed.store, forall_update ?_ fun j b _ hj => ?_, hchronicle,
    forall_update (fun r hr => (h.unheld_after hi hm ha hr).2.1) hothers,
    pairwise_update (fun _ _ hab => hab.symm) h.apart fun j b hji hj r r' hr hr' => ?_⟩
  · exact hm.patient ha a.backed (h.patient i a hi)
  · exact (h.patient j b hj).mono (List.Subset.refl _) ha.timed.clock
  · rcases (h.unheld_after hi hm ha hr).2.2 with hfirst | hnew
    · exact h.apart i j a b hji.symm hi hj r r' hfirst hr'
    · exact fun hl => hnew (hl ▸ (h.unheld j b hj r' hr').begun)

end Spacing

/-! ## No refresh comes early -/

/-- In every state that the system reaches, of all that the store has held:
* a refresh was stored in place of a record only when that was due;
* of two refreshes with nothing but faults between them, the second was issued only when the
  first was due. -/
theorem refreshed_when_due {w₀ : Issuing} {σ : System (issuing threshold lineageOf)}
    (hbegun : ∀ r, w₀.store.current = some r → lineageOf r.refreshToken ∈ w₀.begun)
    (h : (System.still (E := issuing threshold lineageOf) w₀).Reaches σ) :
    ∃ new, σ.world.store.history = w₀.store.history ++ new ∧
      (∀ before prev next later,
        w₀.store.slot.toList ++ new = before ++ prev :: next :: later →
        Origin.shown next = .refresh → prev.dueFrom threshold ≤ next.issuedAt) ∧
      ∀ before first between second later,
        w₀.store.slot.toList ++ new = before ++ first :: (between ++ second :: later) →
        Origin.shown first = .refresh → (∀ r ∈ between, Origin.shown r = .fault) →
        Origin.shown second = .refresh → first.dueFrom threshold ≤ second.issuedAt := by
  obtain ⟨c, -, hc⟩ := h.staged (Spacing threshold lineageOf w₀.store) (.start hbegun)
    (fun _ _ _ _ _ hc _ _ ho => hc.begin ho)
    (fun _ _ _ _ _ _ _ hm hc hi ha => hc.move hi hm ha)
  obtain ⟨new, hnew⟩ := hc.crowd.becomes.history
  have hheld : w₀.store.heldSince σ.world.store = w₀.store.slot.toList ++ new := by
    rw [MemoryStore.heldSince, ← hnew, List.drop_left]
  have hspaced := hc.chronicle.spaced
  rw [hheld] at hspaced
  refine ⟨new, hnew.symm, fun before prev next later hsplit hnext => ?_,
    fun before first between second later hsplit _ hfaults hsecond => ?_⟩
  · exact ((List.isChain_iff_forall_rel_of_append_cons_cons.mp hspaced hsplit).refreshed hnext).2
  · rw [hsplit] at hspaced
    exact dueFrom_le_of_spaced hspaced hfaults hsecond

/-! ### Two runs to look at

The plainest run that writes, once with a threshold that lets it refresh before the expiry and
once with one that asks it to wait. The access token has just expired, so it refreshes both
times. -/

namespace Sample

/-- The store and the clock before the run, and the lineage of all tokens. -/
def beforeRefresh : Issuing := ⟨⟨.seeded base, .epoch⟩, [0]⟩

/-- A threshold of ten seconds after the expiry. -/
def belated : Span := .ofSeconds (-10)

/-- The plainest run with that threshold. -/
def belatedTask : Task :=
  .obtain { Settings.default with refreshThreshold := belated } ⟨.ofSeconds 50⟩

theorem issued : Answered (Issuing.Serves fun _ => 0) beforeRefresh seenToEnd
    ⟨⟨renewed, .epoch⟩, [0]⟩ := by
  have asked (s : MemoryStore) (q : Ambient) (a : q.Reply) (hq : q ≠ .now) :
      Issuing.Serves (fun _ => 0) ⟨⟨s, .epoch⟩, [0]⟩ (.asked q a) ⟨⟨s, .epoch⟩, [0]⟩ :=
    ⟨servesAsked a hq _, rfl⟩
  exact ⟨_, asked _ _ _ (by decide), _, ⟨serves .read (fun _ ht => by cases ht) _, rfl⟩,
    _, ⟨servesNow ⟨.seeded base, .epoch⟩, rfl⟩, _, asked _ _ _ (by decide),
    _, asked _ _ _ (by decide), _, asked _ _ _ (by decide),
    _, ⟨serves (.refresh "refresh 1" (.ok grant)) (fun _ ht => by cases ht) _,
      rfl, fun _ _ => rfl, rfl⟩,
    _, asked _ _ _ (by decide),
    ⟨⟨renewed, .epoch⟩, [0]⟩, ⟨serves written (fun _ ht => by cases ht) _, rfl⟩,
    _, asked renewed _ _ (by decide), rfl⟩

theorem exists_belated : ∃ p, seenToEnd.foldlM Program.advance belatedTask.program = some p :=
  Option.isSome_iff_exists.mp (by decide +kernel)

end Sample

/-- With the default threshold the refreshed record was due when it was stored. -/
theorem refreshed_when_due_of_sample :
    ∃ σ : System (issuing defaultThreshold fun _ => 0),
      (System.still (E := issuing defaultThreshold fun _ => 0) Sample.beforeRefresh).Reaches σ ∧
      (∀ r, Sample.beforeRefresh.store.current = some r → 0 ∈ Sample.beforeRefresh.begun) ∧
      σ.world.store.history = [Sample.next] ∧ Origin.shown Sample.next = .refresh ∧
      Sample.base.dueFrom defaultThreshold ≤ Sample.next.issuedAt := by
  obtain ⟨σ, hreach, hworld, -⟩ := System.exists_lone
    (E := issuing defaultThreshold fun _ => 0) (o := Sample.task)
    (fun cfg deadline ho => by cases ho; rfl) (.append .start Sample.issued Sample.run_eq)
  have hbegun : ∀ r, Sample.beforeRefresh.store.current = some r →
      0 ∈ Sample.beforeRefresh.begun := fun _ _ => List.mem_cons_self
  obtain ⟨new, hnew, hdue, -⟩ := refreshed_when_due hbegun hreach
  have hhistory : σ.world.store.history = [Sample.next] := by
    rw [hworld]
    decide +kernel
  obtain rfl : [Sample.next] = new := hhistory.symm.trans hnew
  exact ⟨σ, hreach, hbegun, hhistory, by decide, hdue [] Sample.base Sample.next [] rfl (by decide)⟩

/-- With a threshold of ten seconds after the expiry, the refreshed record is stored ten seconds
before that. -/
theorem refreshed_early_by_threshold :
    ∃ (σ : System (issuing Sample.belated fun _ => 0)) (due : Instant),
      (System.still (E := issuing Sample.belated fun _ => 0) Sample.beforeRefresh).Reaches σ ∧
      (∀ r, Sample.beforeRefresh.store.current = some r → 0 ∈ Sample.beforeRefresh.begun) ∧
      Sample.beforeRefresh.store.slot = some Sample.base ∧
      σ.world.store.history = [Sample.next] ∧ Origin.shown Sample.next = .refresh ∧
      Sample.base.expiresAt.sub Sample.belated = some due ∧ Sample.next.issuedAt < due := by
  obtain ⟨p, hp⟩ := Sample.exists_belated
  obtain ⟨σ, hreach, hworld, -⟩ := System.exists_lone
    (E := issuing Sample.belated fun _ => 0) (o := Sample.belatedTask)
    (fun cfg deadline ho => by cases ho; rfl) (.append .start Sample.issued hp)
  obtain ⟨due, hsub⟩ : ∃ due, Sample.base.expiresAt.sub Sample.belated = some due :=
    Option.isSome_iff_exists.mp (by decide +kernel)
  refine ⟨σ, due, hreach, fun _ _ => List.mem_cons_self, rfl, ?_, by decide, hsub, ?_⟩
  · rw [hworld]
    decide +kernel
  · exact (Instant.lt_sub_iff hsub).mpr (by decide)

end Coordination

end TokenCustody
