/-
TokenCustody.Proofs.Coordination.Rotating — a provider that issues every
refresh token for one use.

Such a provider honours one refresh token at a time, the live one. Each
refresh replaces it by one that was never issued before, and every other
token is refused. A call may also fail before the provider has seen it.

With a store that nobody but the runs writes to, this fixes what a run
can know at each stage (`Stage.Fits`). A run that is about to ask holds
either the record that the store still holds, or one whose token is dead.
A run that was granted something is the only one to know the live token
until it has stored it (`Stage.Holds`), and what it finds in the store
meanwhile is the record that it has refreshed, or that record with the
fault of a slower run on it.
-/
import TokenCustody.Proofs.Coordination.Lineage

namespace TokenCustody.Coordination

open TokenCustody.Time

/-! ## The world -/

/-- A store, and a provider that issues every refresh token for one use. -/
structure Rotating where
  store : MemoryStore
  /-- The refresh token that is honoured. -/
  live : String
  /-- Every refresh token that was ever issued. -/
  issued : List String

namespace Rotating

/-- What store and provider answer. No run is short of time for a write, and what is granted for
the live token makes a sound successor of the record that the store holds with it. -/
inductive Answers (o : Task) (w : Rotating) : Entry Custody → Rotating → Prop where
  | asked (q : Ambient) (a : q.Reply) (h : q ≠ .timer) : Answers o w (.asked q a) w
  | timer (t : Duration) (h : ¬o.Late t) : Answers o w (.asked .timer t) w
  | read : Answers o w (.called .read (.ok w.store.current)) w
  | write (r : Record) (c : WriteCondition) :
      Answers o w (.called (.write r c) (w.store.put r c).1)
        { w with store := (w.store.put r c).2 }
  /-- The live token is used up and replaced by a new one. -/
  | honoured (g : Grant) (token : String) (hg : g.refreshToken = some token)
      (hnew : token ∉ w.issued)
      (hsound : ∀ base : Record, w.store.current = some base → base.refreshToken = w.live →
        ∃ next, base.successor g o.settings.refreshLifetime = some (.ok next)) :
      Answers o w (.called (.refresh w.live) (.ok g)) ⟨w.store, token, token :: w.issued⟩
  | refused (token : String) (h : token ≠ w.live) (e : Error) (he : e.needsHuman = true) :
      Answers o w (.called (.refresh token) (.error e)) w
  /-- The call did not get through. -/
  | failed (token : String) (e : Error) (he : e.needsHuman = false) :
      Answers o w (.called (.refresh token) (.error e)) w

/-- The store answers as it always does. -/
theorem Answers.store {o : Task} {w w' : Rotating} {e : Entry Custody}
    (h : Answers o w e w') : w.store.Answers e w'.store := by
  cases h with
  | asked q a h => exact .asked q a
  | timer t h => exact .asked .timer t
  | read => exact .read
  | write r c => exact .write r c
  | honoured g token hg hnew hsound => exact .refresh _ _
  | refused token h e he => exact .refresh _ _
  | failed token e he => exact .refresh _ _

/-- The token of a record was issued, and is no longer honoured. -/
structure Outdated (w : Rotating) (r : Record) : Prop where
  issued : r.refreshToken ∈ w.issued
  dead : r.refreshToken ≠ w.live

/-- The token of a record was issued. If it is still honoured, the store still holds the
record and no run has been granted anything that it has not stored (`free`). -/
structure Known (w : Rotating) (free : Prop) (r : Record) : Prop where
  issued : r.refreshToken ∈ w.issued
  live : r.refreshToken = w.live → free ∧ w.store.current = some r

/-- The store holds `base` with the fault of a refused refresh on it. -/
def Shadowed (w : Rotating) (base : Record) : Prop :=
  ∃ p, w.store.current = some p ∧ isOwnShadow base p = true

theorem Outdated.of_shadow {w : Rotating} {base p : Record} (h : w.Outdated base)
    (hp : isOwnShadow base p = true) : w.Outdated p := by
  have ht : p.refreshToken = base.refreshToken := (shadows_iff.mp hp).2.1
  exact ⟨ht ▸ h.issued, ht ▸ h.dead⟩

/-- The token of `base` is used up, and `next` has the one that replaced it. -/
structure Renewed (w : Rotating) (base next : Record) : Prop where
  outdated : w.Outdated base
  live : next.refreshToken = w.live

end Rotating

/-! ## Stages -/

namespace Stage

/-- The run was granted something that it has not stored. -/
def Holds : Stage → Prop
  | looking (.recover _ _ _) _ | weighing (.recover _ _ _) _ => True
  | writing (.successor _ _) | writing (.overShadow _ _ _) => True
  | _ => False

/-- What a run that obtains a token knows of the world at each stage, having been granted
`granted` so far. -/
def Fits (w : Rotating) (free : Prop) (granted : List Grant) : Stage → Prop
  | looking .first _ => granted = []
  | weighing .first found => granted = [] ∧ ∀ r, found = some r → w.Known free r
  | refreshing base last => granted = [] ∧ w.Known free base ∧
      ∀ e, last = some e → e.needsHuman = true → w.Outdated base
  | refused base _ => granted = [] ∧ w.Outdated base
  | writing (.fault base f _ _) => granted = [] ∧ w.Outdated base ∧ f.kind ≠ .apiRejected
  | looking (.settle _) _ | weighing (.settle _) _ | halted => granted = []
  | writing (.successor base next) => w.Renewed base next ∧
      (w.store.current = some base ∨ w.Shadowed base)
  | looking (.recover base next _) last => w.Renewed base next ∧ w.Shadowed base ∧ last = none
  | weighing (.recover base next _) found => w.Renewed base next ∧ w.Shadowed base ∧
      found = w.store.current
  | writing (.overShadow base next shadow) => w.Renewed base next ∧
      w.store.current = some shadow ∧ isOwnShadow base shadow = true
  | ended x => granted = [] ∨ ∃ r, x = .outcome (.ok (.refreshed r))
  | looking .tell _ | weighing .tell _ | writing (.first _) | reporting _ _ | checking
  | exchanging => False

variable {w w' : Rotating} {free free' : Prop} {g : List Grant} {s : Stage}

theorem fault_of_isOwnShadow {base p : Record} (h : isOwnShadow base p = true) :
    p.fault ≠ none := by
  intro hf
  simp [isOwnShadow, hf] at h

/-- What a run without a grant knows stays true if all that runs know to be issued stays
so and does not become live. -/
theorem Fits.elsewhere (h : s.Fits w free g) (hs : ¬s.Holds)
    (hissued : ∀ t ∈ w.issued, t ∈ w'.issued)
    (hknown : ∀ r, w.Known free r → r.refreshToken ≠ w'.live)
    (houtdated : ∀ r, w.Outdated r → r.refreshToken ≠ w'.live) : s.Fits w' free' g := by
  have hout {r : Record} (hr : w.Outdated r) : w'.Outdated r :=
    ⟨hissued _ hr.issued, houtdated r hr⟩
  have hkn {r : Record} (hr : w.Known free r) : w'.Known free' r :=
    ⟨hissued _ hr.issued, fun hl => absurd hl (hknown r hr)⟩
  cases s with
  | looking goal last =>
    cases goal with
    | recover base next e => exact absurd trivial hs
    | _ => exact h
  | weighing goal found =>
    cases goal with
    | first => exact ⟨h.1, fun r hr => hkn (h.2 r hr)⟩
    | recover base next e => exact absurd trivial hs
    | _ => exact h
  | refreshing base last =>
    exact ⟨h.1, hkn h.2.1, fun e hl he => hout (h.2.2 e hl he)⟩
  | refused base e => exact ⟨h.1, hout h.2⟩
  | writing d =>
    cases d with
    | fault base f why otherwise => exact ⟨h.1, hout h.2.1, h.2.2⟩
    | first r => exact h
    | successor base next => exact absurd trivial hs
    | overShadow base next shadow => exact absurd trivial hs
  | reporting used why => exact h
  | checking => exact h
  | exchanging => exact h
  | ended x => exact h
  | halted => exact h

/-- A run that holds a grant has not written, and the store holds the record that the run
has refreshed, or its shadow. -/
theorem Fits.holding {o : Task} {l : Ledger} (h : s.Fits w free g) (hb : s.Backed o l)
    (hs : s.Holds) : l.written = [] ∧ ∃ base next, Renews o l base next ∧
      w.Renewed base next ∧ (w.store.current = some base ∨ w.Shadowed base) := by
  cases s with
  | looking goal last =>
    cases goal with
    | recover base next e => exact ⟨hb.1, base, next, hb.2.2, h.1, Or.inr h.2.1⟩
    | _ => exact hs.elim
  | weighing goal found =>
    cases goal with
    | recover base next e => exact ⟨hb.1, base, next, hb.2.2.2, h.1, Or.inr h.2.1⟩
    | _ => exact hs.elim
  | writing d =>
    cases d with
    | successor base next => exact ⟨hb.1, base, next, hb.2, h⟩
    | overShadow base next shadow =>
      exact ⟨hb.1, base, next, hb.2.1, h.1, Or.inr ⟨shadow, h.2⟩⟩
    | _ => exact hs.elim
  | _ => exact hs.elim

/-- A run that was granted something holds it until it has ended with what it has stored. -/
theorem Fits.holds_or_refreshed (h : s.Fits w free g) (hg : g ≠ []) :
    s.Holds ∨ ∃ r, s = .ended (.outcome (.ok (.refreshed r))) := by
  cases s with
  | looking goal last =>
    cases goal with
    | first => exact absurd h hg
    | recover base next e => exact Or.inl trivial
    | settle otherwise => exact absurd h hg
    | tell => exact h.elim
  | weighing goal found =>
    cases goal with
    | first => exact absurd h.1 hg
    | recover base next e => exact Or.inl trivial
    | settle otherwise => exact absurd h hg
    | tell => exact h.elim
  | refreshing base last => exact absurd h.1 hg
  | refused base e => exact absurd h.1 hg
  | writing d =>
    cases d with
    | successor base next => exact Or.inl trivial
    | overShadow base next shadow => exact Or.inl trivial
    | fault base f why otherwise => exact absurd h.1 hg
    | first r => exact h.elim
  | ended x =>
    obtain h | ⟨r, rfl⟩ := h
    · exact absurd h hg
    · exact Or.inr ⟨r, rfl⟩
  | halted => exact absurd h hg
  | reporting used why => exact h.elim
  | checking => exact h.elim
  | exchanging => exact h.elim

/-- A run that holds a grant is prepared to find a fault on the record that it has refreshed. -/
theorem Fits.noted {base : Record} {f : Fault} (h : s.Fits w free g) (hs : s.Holds)
    (hcur : w.store.current = some base) (hbase : base.fault = none)
    (hf : f.kind ≠ .apiRejected) :
    s.Fits { w with store := w.store.write (base.withFault f) } free' g := by
  -- The store does not hold a shadow yet, so the run has not looked again.
  have hno {b p : Record} (hp : w.store.current = some p) : isOwnShadow b p ≠ true := by
    intro hown
    rw [hcur] at hp
    cases hp
    exact fault_of_isOwnShadow hown hbase
  cases s with
  | looking goal last =>
    cases goal with
    | recover b next e =>
      obtain ⟨-, ⟨p, hp, hown⟩, -⟩ := h
      exact absurd hown (hno hp)
    | _ => exact hs.elim
  | weighing goal found =>
    cases goal with
    | recover b next e =>
      obtain ⟨-, ⟨p, hp, hown⟩, -⟩ := h
      exact absurd hown (hno hp)
    | _ => exact hs.elim
  | writing d =>
    cases d with
    | successor b next =>
      obtain ⟨hr, hb | ⟨p, hp, hown⟩⟩ := h
      · rw [hcur] at hb
        cases hb
        refine ⟨⟨⟨hr.outdated.issued, hr.outdated.dead⟩, hr.live⟩, Or.inr ⟨_, rfl, ?_⟩⟩
        refine shadows_iff.mpr ⟨⟨f, rfl, ?_⟩, rfl, rfl⟩
        cases hk : f.kind with
        | invalidGrant => exact Or.inl rfl
        | invalidToken => exact Or.inr rfl
        | apiRejected => exact absurd hk hf
      · exact absurd hown (hno hp)
    | overShadow b next shadow => exact absurd h.2.2 (hno h.2.1)
    | _ => exact hs.elim
  | _ => exact hs.elim

theorem fits_ofState {r : Record} (hg : g = []) (hr : w.Known free r) (st : TokenState) :
    (ofState r st).Fits w free g ∧ ¬(ofState r st).Holds := by
  have hrefresh : (refreshing r none).Fits w free g := ⟨hg, hr, fun _ h => (nomatch h)⟩
  cases st with
  | expiringSoon => exact ⟨hrefresh, id⟩
  | expiredRefreshable => exact ⟨hrefresh, id⟩
  | _ => exact ⟨Or.inl hg, id⟩

/-- Weighing what was found leads to where it should. A run that holds a grant finds the
shadow of its record, and is about to replace that. -/
theorem Fits.weighed {goal : Goal} {found : Option Record} {threshold : Span} {t : Instant}
    (h : (weighing goal found).Fits w free g) :
    (goal.weighed found (stateOf threshold found t .notObserved)).Fits w free g ∧
      ((goal.weighed found (stateOf threshold found t .notObserved)).Holds ↔
        (weighing goal found).Holds) := by
  cases goal with
  | first =>
    obtain ⟨hg, hknown⟩ := h
    cases hst : stateOf threshold found t .notObserved with
    | none => exact ⟨hg, Iff.rfl⟩
    | some st =>
      cases found with
      | none => exact ⟨Or.inl hg, Iff.rfl⟩
      | some r =>
        obtain ⟨hf, hn⟩ := fits_ofState hg (hknown r rfl) st
        exact ⟨hf, iff_of_false hn id⟩
  | recover base next e =>
    obtain ⟨hr, ⟨p, hp, hown⟩, hfound⟩ := h
    have hf : found = some p := hfound.trans hp
    subst hf
    have hst : stateOf threshold (some p) t .notObserved = some .invalid := by
      have hfault := Option.isSome_iff_ne_none.mpr (fault_of_isOwnShadow hown)
      simp [stateOf, Record.stateAt, hfault]
    have hfilter : (some p).filter (isOwnShadow base) = some p := by simp [hown]
    rw [hst]
    dsimp only [Goal.weighed]
    rw [hfilter]
    exact ⟨⟨hr, hp, hown⟩, Iff.rfl⟩
  | settle otherwise =>
    cases stateOf threshold found t .notObserved with
    | none => exact ⟨h, Iff.rfl⟩
    | some st => exact ⟨Or.inl h, Iff.rfl⟩
  | tell => exact h.elim

theorem Fits.asked {o : Task} {s' : Stage} {q : Ambient} {a : q.Reply}
    (h : s.Fits w free g) (hm : Move o s (.asked q a) s')
    (ha : Rotating.Answers o w (.asked q a) w') :
    w' = w ∧ s'.Fits w free g ∧ (s'.Holds ↔ s.Holds) := by
  have hw : w' = w := by cases ha <;> rfl
  refine ⟨hw, ?_⟩
  cases hm with
  | emit m => exact ⟨h, Iff.rfl⟩
  | tally t ht => exact ⟨h, Iff.rfl⟩
  | timer t => exact ⟨h, Iff.rfl⟩
  | draw hs x => exact ⟨h, Iff.rfl⟩
  | sleep hs d => exact ⟨h, Iff.rfl⟩
  | @readGivenUp goal e =>
    cases goal with
    | first => exact ⟨Or.inl h, Iff.rfl⟩
    | recover base next e' => exact nomatch h.2.2
    | settle otherwise => exact ⟨Or.inl h, Iff.rfl⟩
    | tell => exact h.elim
  | weighed t => exact h.weighed
  | refreshRefused e he => exact ⟨⟨h.1, h.2.2 e rfl he⟩, Iff.rfl⟩
  | refreshGivenUp e he => exact ⟨Or.inl h.1, Iff.rfl⟩
  | @faulted base e t =>
    exact ⟨⟨h.1, h.2, faultKindOf_ne_apiRejected e⟩, Iff.rfl⟩
  | tooLate stage hl =>
    -- No run is short of time here.
    cases ha with
    | asked q a hq => exact absurd rfl hq
    | timer t ht => exact absurd hl ht
  | reported t => exact h.elim
  | notReported stage t => exact h.elim
  | beyond hs t =>
    obtain ⟨used, why, rfl⟩ | rfl := hs
    · exact h.elim
    · exact h.elim
  | checked t r => exact h.elim

end Stage

end TokenCustody.Coordination
