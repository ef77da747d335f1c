/-
TokenCustody.Proofs.Coordination.Rotation — a rotated grant is never lost.

Where every refresh token can be used once, of several runs that refresh
the same record one is granted the new token and the others are refused.
A run that was refused may note that on the record before the one that
was granted something has stored it. Still nothing is lost: in every
state in which nobody holds a grant that is not stored, the store holds
an unfaulted record with the live token.

The invariant says that at most one run holds a grant (`Rotates.alone`),
what every run knows (`Stage.Fits`) and what the store holds while nobody
holds a grant (`Rotates.settled`). Only four things a run does matter to
it: it is granted something, it stores that, it notes a fault, or it does
none of these (`Rotates.quiet`).
-/
import TokenCustody.Proofs.Coordination.Lineage
import TokenCustody.Proofs.Coordination.Rotating

namespace TokenCustody.Coordination

open TokenCustody.MemoryStore (Held)

/-! ## The system -/

/-- Runs that obtain a token, and nobody else, share a store and a provider that issues
every refresh token for one use. -/
def rotating : Surroundings where
  World := Rotating
  Begins _ _ o := ∃ cfg deadline, o = .obtain cfg deadline
  Answers := Rotating.Answers

/-- The run was granted something and has not stored it. -/
def Run.Holds (run : Run) : Prop := run.ledger.granted ≠ [] ∧ run.ledger.written = []

/-- Nobody holds a grant that is not stored. -/
def Cast.Free (c : Cast) : Prop := ∀ i a, c i = some a → ¬a.stage.Holds

/-- At most one run holds a grant that is not stored. -/
def Cast.Alone (c : Cast) : Prop :=
  ∀ i j a b, c i = some a → c j = some b → a.stage.Holds → b.stage.Holds → i = j

/-- The store holds an unfaulted record with the live token. -/
def Rotating.Settled (w : Rotating) : Prop :=
  ∃ r, w.store.current = some r ∧ r.fault = none ∧ r.refreshToken = w.live

/-- What holds of the world and the actors in it. -/
structure Rotates (s₀ : MemoryStore) (w : Rotating) (c : Cast) : Prop where
  issued : w.live ∈ w.issued
  becomes : s₀.Becomes w.store
  traced : ∀ i a, c i = some a → Traced s₀ w.store a.task a.ledger
  fits : ∀ i a, c i = some a → a.stage.Fits w c.Free a.ledger.granted
  alone : c.Alone
  settled : c.Free → w.Settled

namespace Cast

variable {c : Cast} {i : Nat} {a b : Actor}

theorem free_update : Free (Function.update c i (some b)) ↔
    ¬b.stage.Holds ∧ ∀ j a, j ≠ i → c j = some a → ¬a.stage.Holds := by
  constructor
  · intro h
    refine ⟨h i b (Function.update_self ..), fun j a hj ha => h j a ?_⟩
    rw [Function.update_of_ne hj]
    exact ha
  · rintro ⟨hb, ho⟩
    exact forall_update hb ho

/-- A move by which the actor neither gets nor loses a grant leaves the cast as free as it
was. -/
theorem free_update_eq (hi : c i = some a) (h : b.stage.Holds ↔ a.stage.Holds) :
    Free (Function.update c i (some b)) = c.Free := by
  refine propext (free_update.trans ⟨fun ⟨hb, ho⟩ j a' hj => ?_, fun hf => ?_⟩)
  · by_cases hji : j = i
    · subst hji
      rw [hi] at hj
      cases hj
      rwa [← h]
    · exact ho j a' hji hj
  · exact ⟨h.not.mpr (hf i a hi), fun j a' _ hj => hf j a' hj⟩

/-- While somebody holds a grant, nobody else knows the live token. -/
theorem dead_of_holds {w : Rotating} {r : Record} (hi : c i = some a) (h : a.stage.Holds)
    (hr : w.Known c.Free r) : r.refreshToken ≠ w.live :=
  fun hl => (hr.live hl).1 i a hi h

/-- One actor can go on holding a live token if no other one holds it. -/
theorem Alone.update (h : c.Alone)
    (ho : ∀ j a, j ≠ i → c j = some a → b.stage.Holds → ¬a.stage.Holds) :
    Alone (Function.update c i (some b)) := by
  have hpair := pairwise_update (R := fun x y : Actor => x.stage.Holds → ¬y.stage.Holds)
    (fun _ _ hxy hy hx => hxy hx hy)
    (fun j k x y hjk hj hk hx hy => hjk (h j k x y hj hk hx hy)) ho
  intro j k x y hj hk hx hy
  by_contra hjk
  exact hpair j k x y hjk hj hk hx hy

end Cast

namespace Rotates

variable {s₀ : MemoryStore} {w w' : Rotating} {c : Cast} {i : Nat} {a b : Actor}

theorem traced_after (h : Rotates s₀ w c) (hi : c i = some a) {e : Entry Custody} {s : Stage}
    (hm : Move a.task a.stage e s) (ha : w.Answers a.task e w') :
    ∀ j b, Function.update c i (some (a.after hm)) j = some b →
      Traced s₀ w'.store b.task b.ledger :=
  forall_update ((h.traced i a hi).enter h.becomes ha.store) fun j b _ hj =>
    (h.traced j b hj).mono ha.store.becomes

/-- A move that leaves the world as it is, and by which the actor neither gets nor loses a
grant. -/
theorem quiet (h : Rotates s₀ w c) (hi : c i = some a) {e : Entry Custody} {s : Stage}
    (hm : Move a.task a.stage e s) (ha : w.Answers a.task e w)
    (hf : s.Fits w c.Free (a.ledger.enter e).granted) (hh : s.Holds ↔ a.stage.Holds) :
    Rotates s₀ w (Function.update c i (some (a.after hm))) := by
  have hfree := Cast.free_update_eq (b := a.after hm) hi hh
  refine ⟨h.issued, h.becomes, h.traced_after hi hm ha, ?_, ?_, ?_⟩
  · rw [hfree]
    exact forall_update hf fun j b _ hj => h.fits j b hj
  · exact h.alone.update fun j b hj hb hi' hb' => hj (h.alone j i b a hb hi hb' (hh.mp hi'))
  · rw [hfree]
    exact h.settled

theorem known (h : Rotates s₀ w c) {r : Record} (hr : w.store.current = some r) :
    w.Known c.Free r := by
  by_cases hfree : c.Free
  · obtain ⟨r', hr', -, hlive⟩ := h.settled hfree
    rw [hr] at hr'
    cases hr'
    exact ⟨hlive ▸ h.issued, fun _ => ⟨hfree, hr⟩⟩
  · -- Somebody holds a grant, so this is the record that was refreshed or its shadow.
    have hout : w.Outdated r := by
      obtain ⟨j, b, hj, hb⟩ : ∃ j b, c j = some b ∧ b.stage.Holds := by
        simpa [Cast.Free] using hfree
      obtain ⟨-, base, next, -, hr', hcur | ⟨p, hcur, hown⟩⟩ := (h.fits j b hj).holding b.backed hb
      · rw [hr] at hcur
        cases hcur
        exact hr'.outdated
      · rw [hr] at hcur
        cases hcur
        exact hr'.outdated.of_shadow hown
    exact ⟨hout.issued, fun hl => absurd hl hout.dead⟩

theorem read (h : Rotates s₀ w c) (hi : c i = some a) {s : Stage}
    (hm : Move a.task a.stage (.called (S := Custody) .read (.ok w.store.current)) s) :
    Rotates s₀ w (Function.update c i (some (a.after hm))) := by
  have hf := h.fits i a hi
  obtain ⟨goal, last, hstage, hs⟩ := hm.read_inv
  rw [hstage] at hf
  have hmove : s.Fits w c.Free a.ledger.granted ∧ (s.Holds ↔ (Stage.looking goal last).Holds) := by
    cases goal with
    | first =>
      cases hcur : w.store.current with
      | none =>
        rw [hcur] at hs
        rw [hs]
        exact ⟨Or.inl hf, Iff.rfl⟩
      | some r =>
        rw [hcur] at hs
        rw [hs]
        refine ⟨⟨hf, fun r' hr' => ?_⟩, Iff.rfl⟩
        cases hr'
        exact h.known hcur
    | recover base next e =>
      rw [hs]
      exact ⟨⟨hf.1, hf.2.1, rfl⟩, Iff.rfl⟩
    | settle otherwise =>
      rw [hs]
      exact ⟨hf, Iff.rfl⟩
    | tell => exact hf.elim
  rw [← hstage] at hmove
  exact h.quiet hi hm .read hmove.1 hmove.2

/-- A refresh that fails leaves the world as it is: a token that is refused for good is not the live
one. -/
theorem refused (h : Rotates s₀ w c) (hi : c i = some a) {token : String} {e : Error} {s : Stage}
    (hm : Move a.task a.stage (.called (S := Custody) (.refresh token) (.error e)) s)
    (ha : w.Answers a.task (.called (S := Custody) (.refresh token) (.error e)) w)
    (he : e.needsHuman = true → token ≠ w.live) :
    Rotates s₀ w (Function.update c i (some (a.after hm))) := by
  have hf := h.fits i a hi
  obtain ⟨base, last, hstage, htoken, hs⟩ := hm.refreshFailed_inv
  rw [hstage] at hf
  obtain ⟨hg, hknown, -⟩ := hf
  refine h.quiet hi hm ha ?_ ?_
  · rw [hs]
    refine ⟨hg, hknown, fun e' he' hn => ⟨hknown.issued, ?_⟩⟩
    cases he'
    rw [htoken]
    exact he hn
  · rw [hs, hstage]
    exact Iff.rfl

/-- Being granted something. Nobody else holds a grant then, because the token was live. -/
theorem granted (h : Rotates s₀ w c) (hi : c i = some a) {g : Grant} {token : String} {s : Stage}
    (hm : Move a.task a.stage (.called (S := Custody) (.refresh w.live) (.ok g)) s)
    (hg : g.refreshToken = some token) (hnew : token ∉ w.issued)
    (hsound : ∀ base : Record, w.store.current = some base → base.refreshToken = w.live →
      ∃ next, base.successor g a.task.settings.refreshLifetime = some (.ok next)) :
    Rotates s₀ ⟨w.store, token, token :: w.issued⟩ (Function.update c i (some (a.after hm))) := by
  have hf := h.fits i a hi
  obtain ⟨base, last, hstage, htoken, hs⟩ := hm.granted_inv
  rw [hstage] at hf
  obtain ⟨-, hknown, -⟩ := hf
  obtain ⟨hfree, hcur⟩ := hknown.live htoken
  obtain ⟨next, hn⟩ := hsound base hcur htoken
  obtain rfl : s = .writing (.successor base next) := by
    rw [hs, hn]
    rfl
  have hne {t : String} (ht : t ∈ w.issued) : t ≠ token := by
    rintro rfl
    exact hnew ht
  have hnext : next.refreshToken = token := by
    obtain ⟨t, e, x, ht, -, -, rfl⟩ := Record.successor_ok hn
    simp only [Record.refreshTokenAfter, hg, Option.map_eq_some_iff] at ht
    obtain ⟨_, -, hp⟩ := ht
    cases hp
    rfl
  refine ⟨List.mem_cons_self, h.becomes, h.traced_after hi hm (.honoured g token hg hnew hsound),
    forall_update ?_ fun j b _ hj => ?_, ?_, fun hfree' => ?_⟩
  · exact ⟨⟨⟨List.mem_cons_of_mem _ hknown.issued, hne hknown.issued⟩, hnext⟩, Or.inl hcur⟩
  · exact (h.fits j b hj).elsewhere (hfree j b hj) (fun _ => List.mem_cons_of_mem _)
      (fun _ hr => hne hr.issued) (fun _ hr => hne hr.issued)
  · exact h.alone.update fun j b _ hj _ => hfree j b hj
  · exact absurd trivial (Cast.free_update.mp hfree').1

/-- A write that is refused. Only a run that holds a grant and finds its record replaced by
the shadow comes too late for good. -/
theorem lost (h : Rotates s₀ w c) (hi : c i = some a) {d : Draft} {e : Error} {s : Stage}
    (hd : a.stage = .writing d) (hs : s = d.written (.error e))
    (hm : Move a.task a.stage (.called (S := Custody) (.write d.record d.condition) (.error e)) s)
    (ha : w.Answers a.task (.called (S := Custody) (.write d.record d.condition) (.error e)) w)
    (he : (w.store.put d.record d.condition).1 = .error e) :
    Rotates s₀ w (Function.update c i (some (a.after hm))) := by
  have hf := h.fits i a hi
  have hb := a.backed
  rw [hd] at hf hb
  have hmove : s.Fits w c.Free a.ledger.granted ∧ (s.Holds ↔ (Stage.writing d).Holds) := by
    cases d with
    | successor base next =>
      obtain ⟨g, -, hn⟩ := hb.2.granted
      obtain ⟨_, _, _, -, -, hsound, -⟩ := Record.successor_ok hn
      obtain ⟨hmeets, rfl⟩ := MemoryStore.put_error_of_sound hsound he
      obtain rfl : s = .looking (.recover base next _) none := hs
      obtain hcur | hshadow := hf.2
      · have ht := MemoryStore.meets_of_current hcur
        rw [show w.store.meets (.replacing base) = false from hmeets] at ht
        cases ht
      · exact ⟨⟨hf.1, hshadow, rfl⟩, Iff.rfl⟩
    | overShadow base next shadow =>
      obtain ⟨g, -, hn⟩ := hb.2.1.granted
      obtain ⟨_, _, _, -, -, hsound, -⟩ := Record.successor_ok hn
      obtain ⟨hmeets, -⟩ := MemoryStore.put_error_of_sound hsound he
      have ht := MemoryStore.meets_of_current hf.2.1
      rw [show w.store.meets (.replacing shadow) = false from hmeets] at ht
      cases ht
    | fault base f why otherwise =>
      rw [hs]
      rcases Draft.written_error (.fault base f why otherwise) e with ⟨goal, hagain, hw⟩ | hw
      · rw [hw]
        cases hagain
        exact ⟨hf.1, Iff.rfl⟩
      · rw [hw]
        exact ⟨Or.inl hf.1, Iff.rfl⟩
    | first r => exact hf.elim
  rw [← hd] at hmove
  exact h.quiet hi hm ha hmove.1 hmove.2

theorem stored (h : Rotates s₀ w c) (hi : c i = some a) {next : Record} {cond : WriteCondition}
    {v v' : Version} {s : Stage} (hholds : a.stage.Holds)
    (hnext : next.fault = none ∧ next.refreshToken = w.live)
    (hs : s = .ended (.outcome (.ok (.refreshed (next.withVersion v')))))
    (hm : Move a.task a.stage (.called (S := Custody) (.write next cond) (.ok v)) s)
    (ha : w.Answers a.task (.called (S := Custody) (.write next cond) (.ok v))
      { w with store := w.store.write next }) :
    Rotates s₀ { w with store := w.store.write next }
      (Function.update c i (some (a.after hm))) := by
  subst hs
  refine ⟨h.issued, h.becomes.trans ha.store.becomes, h.traced_after hi hm ha,
    forall_update (Or.inr ⟨_, rfl⟩) fun j b hj hjb => ?_, ?_, fun _ => ?_⟩
  · have hother : ¬b.stage.Holds := fun hb => hj (h.alone j i b a hjb hi hb hholds)
    exact (h.fits j b hjb).elsewhere hother (fun _ ht => ht)
      (fun _ hr => Cast.dead_of_holds (w := w) hi hholds hr) (fun _ hr => hr.dead)
  · exact h.alone.update fun j b _ _ hholds' => hholds'.elim
  · exact ⟨_, w.store.current_write next, hnext⟩

/-- Noting a fault. The token of the record is dead, so somebody holds the grant that it
was used up for, and will find the fault. -/
theorem noted (h : Rotates s₀ w c) (hi : c i = some a) {base : Record} {f : Fault} {why : Reason}
    {otherwise : Error → Except Error Outcome} {v : Version} {s : Stage}
    (hstage : a.stage = .writing (.fault base f why otherwise))
    (hs : s = .ended (.outcome (.ok (.needsAuthorization why))))
    (hm : Move a.task a.stage
      (.called (S := Custody) (.write (base.withFault f) (.replacing base)) (.ok v)) s)
    (ha : w.Answers a.task
      (.called (S := Custody) (.write (base.withFault f) (.replacing base)) (.ok v))
      { w with store := w.store.write (base.withFault f) })
    (hmeets : w.store.meets (.replacing base) = true) :
    Rotates s₀ { w with store := w.store.write (base.withFault f) }
      (Function.update c i (some (a.after hm))) := by
  have hf := h.fits i a hi
  have hb := a.backed
  rw [hstage] at hf hb
  obtain ⟨hg, hout, hkind⟩ := hf
  obtain ⟨-, hacts, -⟩ := hb
  have hcur : w.store.current = some base :=
    ((h.traced i a hi).held hacts).current_of_meets hmeets
  have hnot : ¬c.Free := by
    intro hfree
    obtain ⟨r, hr, -, hlive⟩ := h.settled hfree
    rw [hcur] at hr
    cases hr
    exact hout.dead hlive
  obtain ⟨k, b, hk, hholds⟩ : ∃ k b, c k = some b ∧ b.stage.Holds := by
    simpa [Cast.Free] using hnot
  have hki : k ≠ i := by
    rintro rfl
    rw [hi] at hk
    cases hk
    rw [hstage] at hholds
    exact hholds
  subst hs
  refine ⟨h.issued, h.becomes.trans ha.store.becomes, h.traced_after hi hm ha,
    forall_update (Or.inl hg) fun j b' _ hj => ?_, ?_, fun hfree => ?_⟩
  · by_cases hb' : b'.stage.Holds
    · exact (h.fits j b' hj).noted hb' hcur hacts.unfaulted hkind
    · exact (h.fits j b' hj).elsewhere hb' (fun _ ht => ht)
        (fun _ hr => Cast.dead_of_holds (w := w) hk hholds hr) (fun _ hr => hr.dead)
  · exact h.alone.update fun j b _ _ hholds' => hholds'.elim
  · exact absurd hholds ((Cast.free_update.mp hfree).2 k b hki hk)

theorem made (h : Rotates s₀ w c) (hi : c i = some a) {d : Draft} {v : Version} {s : Stage}
    (hd : a.stage = .writing d) (hs : s = d.written (.ok v))
    (hm : Move a.task a.stage (.called (S := Custody) (.write d.record d.condition) (.ok v)) s)
    (ha : w.Answers a.task (.called (S := Custody) (.write d.record d.condition) (.ok v))
      { w with store := w.store.write d.record })
    (hmeets : w.store.meets d.condition = true) :
    Rotates s₀ { w with store := w.store.write d.record }
      (Function.update c i (some (a.after hm))) := by
  have hf := h.fits i a hi
  have hb := a.backed
  rw [hd] at hf hb
  cases d with
  | successor base next =>
    obtain ⟨g, -, hn⟩ := hb.2.granted
    have hnext := (Record.successor_facts hn).2.1
    exact h.stored hi (by rw [hd]; trivial) ⟨hnext, hf.1.live⟩ hs hm ha
  | overShadow base next shadow =>
    obtain ⟨g, -, hn⟩ := hb.2.1.granted
    have hnext := (Record.successor_facts hn).2.1
    exact h.stored hi (by rw [hd]; trivial) ⟨hnext, hf.1.live⟩ hs hm ha
  | fault base f why otherwise => exact h.noted hi hd hs hm ha hmeets
  | first r => exact hf.elim

/-- One write, made or refused, keeps what the rotation asks for. -/
theorem write (h : Rotates s₀ w c) (hi : c i = some a) {r : Record} {cond : WriteCondition}
    {x : Except Error Version} {store : MemoryStore} {s : Stage}
    (hput : w.store.put r cond = (x, store))
    (hm : Move a.task a.stage (.called (S := Custody) (.write r cond) x) s)
    (ha : w.Answers a.task (.called (S := Custody) (.write r cond) x) { w with store }) :
    Rotates s₀ { w with store } (Function.update c i (some (a.after hm))) := by
  obtain ⟨d, hd, rfl, rfl, hs⟩ := hm.write_inv
  obtain ⟨e, he, hstore⟩ | ⟨-, hmeets, hv, hstore⟩ := w.store.put_cases d.record d.condition
  · have hx := he
    rw [hput] at hx hstore
    cases hx
    cases hstore
    exact h.lost hi hd hs hm ha he
  · rw [hput] at hv hstore
    cases hv
    cases hstore
    exact h.made hi hd hs hm ha hmeets

theorem begin (h : Rotates s₀ w c) (hi : c i = none) {o : Task}
    (ho : ∃ cfg deadline, o = .obtain cfg deadline) :
    Rotates s₀ w (Function.update c i (some (.begin o))) := by
  obtain ⟨cfg, deadline, rfl⟩ := ho
  have hfree : Cast.Free (Function.update c i (some (.begin (.obtain cfg deadline)))) = c.Free := by
    refine propext (Cast.free_update.trans ⟨fun hf j a hj => hf.2 j a ?_ hj, fun hf => ?_⟩)
    · rintro rfl
      rw [hi] at hj
      cases hj
    · exact ⟨id, fun j a _ hj => hf j a hj⟩
  refine ⟨h.issued, h.becomes, forall_update ?_ fun j b _ hj => h.traced j b hj, ?_, ?_, ?_⟩
  · exact ⟨.blank _ _, fun used hu => (nomatch hu)⟩
  · rw [hfree]
    exact forall_update rfl fun j b _ hj => h.fits j b hj
  · exact h.alone.update fun j b _ _ hholds => hholds.elim
  · rw [hfree]
    exact h.settled

/-- One move of one run keeps what the rotation asks for. -/
theorem move (h : Rotates s₀ w c) (hi : c i = some a) {e : Entry Custody} {s : Stage}
    (hm : Move a.task a.stage e s) (ha : w.Answers a.task e w') :
    Rotates s₀ w' (Function.update c i (some (a.after hm))) := by
  cases ha with
  | asked q x hq =>
    obtain ⟨-, hf, hh⟩ := (h.fits i a hi).asked hm (.asked q x hq)
    exact h.quiet hi hm (.asked q x hq) hf hh
  | timer t ht =>
    obtain ⟨-, hf, hh⟩ := (h.fits i a hi).asked hm (.timer t ht)
    exact h.quiet hi hm (.timer t ht) hf hh
  | read => exact h.read hi hm
  | write r cond => exact h.write hi rfl hm (.write r cond)
  | honoured g token hg hnew hsound => exact h.granted hi hm hg hnew hsound
  | refused token ht e he => exact h.refused hi hm (.refused token ht e he) fun _ => ht
  | failed token e he =>
    exact h.refused hi hm (.failed token e he) fun hn => by simp [he] at hn

/-- A settled store begins with its record of the live token. -/
theorem start (hsettled : w.Settled) (hissued : w.live ∈ w.issued) :
    Rotates w.store w fun _ => none := by
  refine ⟨hissued, .same, fun i a hi => ?_, fun i a hi => ?_, fun i j a b hi => ?_,
    fun _ => hsettled⟩
  · cases hi
  · cases hi
  · cases hi

/-- An actor at a stage that holds a grant plays a run that does. -/
theorem run_holds (h : Rotates s₀ w c) (hi : c i = some a) {run : Run} (hp : a.Plays run)
    (hholds : a.stage.Holds) : run.Holds := by
  obtain ⟨hw, base, next, hr, -, -⟩ := (h.fits i a hi).holding a.backed hholds
  obtain ⟨g, hg, -⟩ := hr.granted
  rw [hp.ledger] at hw hg
  exact ⟨List.ne_nil_of_mem hg, hw⟩

/-- A run that was granted something is played by an actor that holds it, or that has ended
with what it has stored. -/
theorem holds_or_stored (h : Rotates s₀ w c) (hi : c i = some a) {run : Run} (hp : a.Plays run)
    (hg : run.ledger.granted ≠ []) :
    a.stage.Holds ∨ ∃ r, a.stage = .ended (.outcome (.ok (.refreshed r))) ∧
      (∃ v, r.version = some v ∧ run.ledger.written = [(r.bare, v)]) ∧
      ∃ base, Renews run.task run.ledger base r.bare := by
  rw [← hp.ledger] at hg
  refine ((h.fits i a hi).holds_or_refreshed hg).imp_right ?_
  rintro ⟨r, hr⟩
  have hb := a.backed
  rw [hr, hp.task, hp.ledger] at hb
  exact ⟨r, hr, hb⟩

end Rotates

/-! ## Nothing is lost -/

/-- In every state that the system reaches:
* if nobody holds a grant that is not stored, the store holds an unfaulted record with the
  live token;
* if the store holds a fault, somebody holds the grant that will replace it: the fault is on
  the record that this run has refreshed;
* a run that holds a grant is not at its end;
* a run that was granted something and has come to its end has stored the successor of its
  record, and ends with it. -/
theorem rotation {w₀ : Rotating} {σ : System rotating} (hsettled : w₀.Settled)
    (hissued : w₀.live ∈ w₀.issued) (h : (System.still (E := rotating) w₀).Reaches σ) :
    ((∀ i run, σ.runs i = some run → ¬run.Holds) → Rotating.Settled σ.world) ∧
    (∀ r, σ.world.store.current = some r → r.fault ≠ none →
      ∃ i run base, σ.runs i = some run ∧ run.Holds ∧
        run.task.actsOn run.ledger = some base ∧ Shadows base r) ∧
    (∀ i run, σ.runs i = some run → run.Holds →
      run.rest ≠ .halt ∧ ∀ x, run.rest ≠ .done x) ∧
    ∀ i run x, σ.runs i = some run → run.ledger.granted ≠ [] → run.rest = .done x →
      ∃ base r v, x = .outcome (.ok (.refreshed r)) ∧ r.version = some v ∧
        run.ledger.written = [(r.bare, v)] ∧ Renews run.task run.ledger base r.bare := by
  obtain ⟨c, hp, hc⟩ := h.staged (Rotates w₀.store) (.start hsettled hissued)
    (fun _ _ _ _ _ hc _ hi ho => hc.begin hi ho)
    (fun _ _ _ _ _ _ _ hm hc hi ha => hc.move hi hm ha)
  have hactor {i : Nat} {run : Run} (hi : σ.runs i = some run) (hholds : run.Holds) :
      ∃ a, c i = some a ∧ a.Plays run ∧ a.stage.Holds := by
    obtain ⟨a, ha, hpa⟩ := hp.actor hi
    obtain hh | ⟨r, -, ⟨v, -, hw⟩, -⟩ := hc.holds_or_stored ha hpa hholds.1
    · exact ⟨a, ha, hpa, hh⟩
    · rw [hholds.2] at hw
      cases hw
  refine ⟨fun hnone => hc.settled fun i a ha hholds => ?_, fun r hr hfault => ?_,
    fun i run hi hholds => ?_, fun i run x hi hg hx => ?_⟩
  · obtain ⟨run, hi, hpa⟩ := hp.run ha
    exact hnone i run hi (hc.run_holds ha hpa hholds)
  · have hnot : ¬c.Free := by
      intro hfree
      obtain ⟨r', hr', hfault', -⟩ := hc.settled hfree
      rw [hr] at hr'
      cases hr'
      exact hfault hfault'
    obtain ⟨i, a, ha, hholds⟩ : ∃ i a, c i = some a ∧ a.stage.Holds := by
      simpa [Cast.Free] using hnot
    obtain ⟨run, hi, hpa⟩ := hp.run ha
    obtain ⟨-, base, next, hren, -, hcur⟩ := (hc.fits i a ha).holding a.backed hholds
    refine ⟨i, run, base, hi, hc.run_holds ha hpa hholds, ?_, ?_⟩
    · rw [← hpa.task, ← hpa.ledger]
      exact hren.acted
    · obtain hcur | ⟨p, hcur, hown⟩ := hcur
      · rw [hr] at hcur
        cases hcur
        exact absurd hren.unfaulted hfault
      · rw [hr] at hcur
        cases hcur
        exact shadows_iff.mp hown
  · obtain ⟨a, ha, hpa, hh⟩ := hactor hi hholds
    refine ⟨fun hx => ?_, fun x hx => ?_⟩
    · rw [hpa.halted hx] at hh
      exact hh
    · rw [hpa.ended hx] at hh
      exact hh
  · obtain ⟨a, ha, hpa⟩ := hp.actor hi
    obtain hh | ⟨r, hr, ⟨v, hv, hw⟩, base, hren⟩ := hc.holds_or_stored ha hpa hg
    · rw [hpa.ended hx] at hh
      exact hh.elim
    · rw [hpa.ended hx] at hr
      cases hr
      exact ⟨base, r, v, rfl, hv, hw, hren⟩

/-- What is granted makes the record that is stored. -/
theorem Sample.successor_grant :
    held.successor grant Settings.default.refreshLifetime = some (.ok next) := rfl

theorem Sample.rotates : Answered (Rotating.Answers task)
    ⟨.seeded base, "refresh 1", ["refresh 1"]⟩ seenToEnd
    ⟨((MemoryStore.seeded base).put next (.replacing held)).2, "refresh 2",
      ["refresh 2", "refresh 1"]⟩ := by
  have hwrite := Rotating.Answers.write (o := task)
    (w := ⟨.seeded base, "refresh 2", ["refresh 2", "refresh 1"]⟩) next (.replacing held)
  rw [written.write_inv.1] at hwrite
  exact ⟨_, .asked _ _ (by decide), _, .read, _, .asked _ _ (by decide),
    _, .asked _ _ (by decide), _, .asked _ _ (by decide), _, .asked _ _ (by decide),
    _, .honoured grant "refresh 2" rfl (by decide) fun r hr _ => by
      cases hr
      exact ⟨next, successor_grant⟩,
    _, .timer _ (not_not_intro (by decide)), _, hwrite, _, .asked _ _ (by decide), rfl⟩

/-- The plainest run that writes leaves the live token in the store. -/
theorem rotation_of_sample :
    ∃ σ : System rotating,
      (System.still (E := rotating) ⟨.seeded Sample.base, "refresh 1", ["refresh 1"]⟩).Reaches σ ∧
      (∃ run, σ.runs 0 = some run ∧ run.ledger.granted ≠ []) ∧ Rotating.Settled σ.world := by
  obtain ⟨σ, hreach, hworld, hruns⟩ := System.exists_lone (E := rotating) (o := Sample.task)
    ⟨_, _, rfl⟩ (.append .start Sample.rotates Sample.run_eq)
  have hsettled : Rotating.Settled ⟨.seeded Sample.base, "refresh 1", ["refresh 1"]⟩ :=
    ⟨_, rfl, rfl, rfl⟩
  refine ⟨σ, hreach, ⟨_, by rw [hruns]; rfl, List.cons_ne_nil _ _⟩, ?_⟩
  have hwritten (p : Program Custody Result) :
      ¬Run.Holds ⟨Sample.task, .of Sample.seenToEnd, p⟩ := fun h => List.cons_ne_nil _ _ h.2
  refine (rotation hsettled List.mem_cons_self hreach).1 ?_
  rw [hruns]
  exact forall_update (P := fun _ (run : Run) => ¬run.Holds) (hwritten _) fun j run _ hj =>
    absurd hj (Option.some_ne_none run).symm

end TokenCustody.Coordination
