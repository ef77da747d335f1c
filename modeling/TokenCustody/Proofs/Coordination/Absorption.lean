/-
TokenCustody.Proofs.Coordination.Absorption — a credential that was lost
stays lost until a human comes.

A record is spent once it carries a fault or its refresh token has
expired. Nothing that runs do without a human can change that, in
whatever order they do it: a spent record stays spent as time passes, and
the only record that can replace it is one with a fault on it. So no run
asks the provider again.

For a run that obtains a token this is seen on its program. As long as
all it reads is spent it calls a human, after five turns at most
(`Resigns`), and none of these is a write. A run that reports a rejection
may write, which is seen on its stages (`Stage.Calm`): the stages at which
a provider is asked, or a refreshed record is written, are out of its
reach.
-/
import TokenCustody.Proofs.Coordination.System
import TokenCustody.Proofs.Coordination.Usability

namespace TokenCustody

open TokenCustody.Time

/-! ## Spent records -/

/-- The record is good for nothing any more. -/
def Record.Spent (r : Record) (t : Instant) : Prop :=
  r.fault.isSome = true ∨ r.refreshExpiresAt ≤ t

/-- Whatever the threshold, the spent records are those in a terminal state. -/
theorem Record.spent_iff {r : Record} {t : Instant} (threshold : Span) : r.Spent t ↔
    ∃ st, r.stateAt threshold t .notObserved = some st ∧ st.isTerminal = true := by
  constructor
  · intro h
    by_cases hf : r.fault.isSome = true
    · exact ⟨.invalid, by simp [stateAt, hf], rfl⟩
    · have hle : r.refreshExpiresAt ≤ t := h.resolve_left hf
      exact ⟨.expiredUnrefreshable, by simp [stateAt, hf, hle, ApiOutcome.isRejection], rfl⟩
  · rintro ⟨st, hst, hterminal⟩
    rcases stateAt_cases hst with ⟨-, hf⟩ | ⟨-, -, hle⟩ | ⟨rfl | rfl | rfl, -⟩
    · exact Or.inl (Option.isSome_iff_ne_none.mpr hf)
    · exact Or.inr hle
    all_goals cases hterminal

/-- What is spent stays spent. -/
theorem Record.Spent.mono {r : Record} {t t' : Instant} (h : r.Spent t) (ht : t ≤ t') :
    r.Spent t' := h.imp_right fun hle => Instant.le_trans hle ht

/-- All that the store holds is spent. -/
def Timed.Lost (w : Timed) : Prop := ∀ r, w.store.current = some r → r.Spent w.clock

/-- The store holds nothing, or its record is in a terminal state. -/
theorem Timed.lost_iff {w : Timed} (threshold : Span) : w.Lost ↔
    ∃ st, stateOf threshold w.store.current w.clock .notObserved = some st ∧
      (st = .uninitialized ∨ st.isTerminal = true) := by
  unfold Timed.Lost
  cases hcur : w.store.current with
  | none => simp [stateOf]
  | some r =>
    have hspent : (∀ r', some r = some r' → r'.Spent w.clock) ↔ r.Spent w.clock := by simp
    rw [hspent, Record.spent_iff threshold]
    constructor
    · rintro ⟨st, hst, hterminal⟩
      exact ⟨st, hst, Or.inr hterminal⟩
    · rintro ⟨st, hst, rfl | hterminal⟩
      · rcases Record.stateAt_cases hst with ⟨h, -⟩ | ⟨h, -⟩ | ⟨h | h | h, -⟩ <;> cases h
      · exact ⟨st, hst, hterminal⟩

/-! ## Surroundings without a human -/

/-- A store in memory answers at once, and the clock does not go back. -/
structure Timed.Serves (w : Timed) (e : Entry Custody) (w' : Timed) : Prop where
  store : w.store.Answers e w'.store
  clock : w.clock ≤ w'.clock
  told : ∀ t, e = .asked .now t → t = w'.clock

namespace Coordination

/-- All kinds of runs but authorizations by a human. A rejection may be reported of any record
whatever. -/
def unattended : Surroundings where
  World := Timed
  Begins _ _ o := ∀ cfg s c, o ≠ .authorization cfg s c
  Answers _ := Timed.Serves

/-! ## Runs that obtain a token -/

/-- Within `n` turns the program calls a human, as long as all it reads is spent. It does
nothing but ask and read. -/
inductive Resigns : Nat → Instant → Program Custody Result → Prop where
  | human {n : Nat} {t : Instant} (why : Reason) :
      Resigns n t (.done (.outcome (.ok (.needsAuthorization why))))
  | ask {n : Nat} {t : Instant} {q : Ambient} {next : q.Reply → Program Custody Result}
      (hq : q ≠ .now) (h : ∀ a, Resigns n t (next a)) : Resigns (n + 1) t (.ask q next)
  | now {n : Nat} {t : Instant} {next : Instant → Program Custody Result}
      (h : ∀ t', t ≤ t' → Resigns n t' (next t')) : Resigns (n + 1) t (.ask .now next)
  | read {n : Nat} {t : Instant}
      {next : Except Error (Option Record) → Program Custody Result}
      (h : ∀ t' found, t ≤ t' → (∀ r ∈ found, r.Spent t') → Resigns n t' (next (.ok found))) :
      Resigns (n + 1) t (.call (S := Custody) .read next)

namespace Resigns

variable {n : Nat} {t t' : Instant} {p p' : Program Custody Result}

/-- A run that gives up at some time gives up at any later one. -/
theorem mono (h : Resigns n t p) (ht : t ≤ t') : Resigns n t' p := by
  induction h generalizing t' with
  | human why => exact .human why
  | ask hq _ ih => exact .ask hq fun a => ih a ht
  | now h _ => exact .now fun t'' ht' => h t'' (Instant.le_trans ht ht')
  | read h _ => exact .read fun t'' found ht' => h t'' found (Instant.le_trans ht ht')

/-- A turn is no call but a read, and one turn less remains. -/
theorem step {w w' : Timed} {e : Entry Custody} (h : Resigns n w.clock p) (hs : p.Step e p')
    (hw : w.Lost) (ha : w.Serves e w') :
    (∀ c a, e = .called (S := Custody) c a → c = .read) ∧
      ∃ m, n = m + 1 ∧ Resigns m w'.clock p' := by
  cases h with
  | human why => cases hs
  | @ask n _ q next hq h =>
    cases hs with
    | ask _ _ a => exact ⟨fun c b he => (by cases he), n, rfl, (h a).mono ha.clock⟩
  | @now n _ next h =>
    cases hs with
    | ask _ _ a =>
      obtain rfl : a = w'.clock := ha.told a rfl
      exact ⟨fun c b he => (by cases he), n, rfl, h _ ha.clock⟩
  | @read n _ next h =>
    cases hs with
    | call _ _ a =>
      obtain ⟨hstore, hclock, -⟩ := ha
      generalize w'.store = s at hstore
      cases hstore
      refine ⟨fun c a' he => ?_, n, rfl, h _ _ hclock fun r hr => (hw r hr).mono hclock⟩
      cases he
      rfl

/-- The human is called, or there is a turn to take. -/
theorem goesOn (h : Resigns n t p) (w : Timed) :
    (∃ why, p = .done (.outcome (.ok (.needsAuthorization why)))) ∨
      ∃ e rest w', p.Step e rest ∧ w.Serves e w' := by
  cases h with
  | human why => exact Or.inl ⟨why, rfl⟩
  | @ask n _ q next hq h =>
    have hreply : ∃ a : q.Reply, True := by
      cases q with
      | now => exact absurd rfl hq
      | timer => exact ⟨Duration.zero, trivial⟩
      | draw => exact ⟨(0.5 : Float), trivial⟩
      | bytes count => exact ⟨([] : List UInt8), trivial⟩
      | sleep d => exact ⟨(), trivial⟩
      | emit m => exact ⟨(), trivial⟩
      | tally t => exact ⟨(), trivial⟩
    obtain ⟨a, -⟩ := hreply
    refine Or.inr ⟨.asked q a, next a, w, .ask .., .asked .., Instant.le_refl _, fun t ht => ?_⟩
    cases ht
    exact absurd rfl hq
  | @now n _ next h =>
    refine Or.inr ⟨.asked .now w.clock, next w.clock, w, .ask .., .asked .., Instant.le_refl _,
      fun t ht => ?_⟩
    cases ht
    rfl
  | @read n _ next h =>
    exact Or.inr ⟨.called (S := Custody) .read (.ok w.store.current), _, w, .call .., .read,
      Instant.le_refl _, fun t ht => by cases ht⟩

/-- A read of the store is done at the first attempt. -/
theorem readStore {cfg : Settings} {deadline : Deadline}
    {f : Except Error (Option Record) → Program Custody Result}
    (h : ∀ t' found, t ≤ t' → (∀ r ∈ found, r.Spent t') → Resigns n t' (f (.ok found))) :
    Resigns (n + 2) t ((readStore cfg deadline).bind f) := by
  unfold Coordination.readStore withRetries
  cases cfg.retry.attemptLimit - 1 with
  | zero =>
    rw [attemptWith]
    exact .ask (q := .tally .attempt) (by decide) fun _ => .read h
  | succ left =>
    rw [attemptWith]
    exact .ask (q := .tally .attempt) (by decide) fun _ => .read h

theorem emit (m : Metric) {f : Unit → Program Custody Result} (h : Resigns n t (f ())) :
    Resigns (n + 1) t ((Program.emit m).bind f) :=
  .ask (q := .emit m) (fun hnow => by cases hnow) fun _ => h

theorem callHuman (why : Reason) : Resigns (n + 1) t
    ((Coordination.callHuman why).bind fun out => .done (.outcome (.ok out))) :=
  emit _ (.human why)

/-- A run that obtains a token calls a human when it finds what is spent. -/
theorem obtain (cfg : Settings) (deadline : Deadline) (t : Instant) :
    Resigns 5 t (Task.obtain cfg deadline).program := by
  show Resigns 5 t (((Coordination.readStore cfg deadline).bind _).bind _)
  rw [Program.bind_assoc]
  refine readStore fun t' found ht hspent => ?_
  cases found with
  | none => exact emit _ (callHuman .noRecord)
  | some r =>
    refine .now fun t'' ht' => ?_
    have hr : r.Spent t'' := (hspent r rfl).mono ht'
    obtain ⟨st, hst, hterminal⟩ := (Record.spent_iff cfg.refreshThreshold).mp hr
    have hstate : stateOf cfg.refreshThreshold (some r) t'' .notObserved = some st := hst
    show Resigns 2 t'' (((Program.orHalt
      (stateOf cfg.refreshThreshold (some r) t'' .notObserved)).bind _).bind _)
    rw [hstate]
    cases st with
    | expiredUnrefreshable => exact emit _ (callHuman .refreshTokenExpired)
    | invalid => exact emit _ (callHuman (.ofFault r))
    | uninitialized => cases hterminal
    | valid => cases hterminal
    | expiringSoon => cases hterminal
    | expiredRefreshable => cases hterminal

end Resigns

/-! ## Runs that look or report -/

/-- The record has a version, so a write in its place is conditioned on that. -/
def Tagged (r : Record) : Prop := r.version.isSome = true

/-- The stages in reach of a run that looks or reports a rejection. -/
def Stage.Calm : Stage → Prop
  | looking (.settle _) _ | looking .tell _ | weighing (.settle _) _ | weighing .tell _ => True
  | writing (.fault base _ _ _) => Tagged base
  | reporting used _ => Tagged used
  | ended _ | halted => True
  | _ => False

/-- An answer can be given that changes nothing but faults. -/
def Entry.Harmless : Entry Custody → Prop
  | .called (.write r c) _ => r.fault.isSome = true ∧ ∃ v, c = .holds v
  | .called (.refresh _) _ | .called (.exchange _ _) _ => False
  | _ => True

/-- Whatever is answered to the write of a fault, nothing is asked of the provider after it. -/
theorem Stage.calm_written {base : Record} {f : Fault} {why : Reason}
    {otherwise : Error → Except Error Outcome} (a : Except Error Version) :
    (Draft.written (.fault base f why otherwise) a).Calm := by
  cases a with
  | ok v => exact trivial
  | error e =>
    rcases Draft.written_error (.fault base f why otherwise) e with ⟨goal, hagain, hw⟩ | hw
    · rw [hw]
      cases hagain
      exact trivial
    · rw [hw]
      exact trivial

/-- A run stays where it asks nothing of the provider and writes nothing but faults. -/
theorem Move.calm {o : Task} {s s' : Stage} {e : Entry Custody} (h : Move o s e s')
    (hs : s.Calm) : s'.Calm ∧ Entry.Harmless e := by
  cases h with
  | emit m => exact ⟨hs, trivial⟩
  | tally t h => exact ⟨hs, trivial⟩
  | timer t => exact ⟨hs, trivial⟩
  | draw h x => exact ⟨hs, trivial⟩
  | sleep h d => exact ⟨hs, trivial⟩
  | @readFailed g last e => cases g <;> exact ⟨hs, trivial⟩
  | @readGivenUp g e => cases g <;> exact ⟨trivial, trivial⟩
  | @read g last found =>
    cases g with
    | first => exact hs.elim
    | recover base next e => exact hs.elim
    | settle otherwise => exact ⟨trivial, trivial⟩
    | tell => exact ⟨trivial, trivial⟩
  | @weighed g found t =>
    cases g with
    | first => exact hs.elim
    | recover base next e => exact hs.elim
    | settle otherwise =>
      cases stateOf o.settings.refreshThreshold found t .notObserved <;> exact ⟨trivial, trivial⟩
    | tell =>
      cases stateOf o.settings.refreshThreshold found t .notObserved <;> exact ⟨trivial, trivial⟩
  | refreshFailed e => exact hs.elim
  | refreshRefused e h => exact hs.elim
  | refreshGivenUp e h => exact hs.elim
  | granted g => exact hs.elim
  | faulted t => exact hs.elim
  | @wrote d a =>
    cases d with
    | fault base f why otherwise =>
      obtain ⟨v, hv⟩ := Option.isSome_iff_exists.mp hs
      exact ⟨Stage.calm_written a, rfl, v, by simp [Draft.condition, WriteCondition.replacing, hv]⟩
    | _ => exact hs.elim
  | tooLate stage h => exact ⟨trivial, trivial⟩
  | reported t => exact ⟨hs, trivial⟩
  | notReported stage t => exact ⟨trivial, trivial⟩
  | beyond h t => exact ⟨trivial, trivial⟩
  | checked t r => exact hs.elim
  | exchanged code uri a => exact hs.elim

theorem Stage.calm_ofUsed (used : Record) (why : String) : (ofUsed used why).Calm := by
  unfold ofUsed
  split
  · exact trivial
  · next v hv =>
    split
    · exact trivial
    · exact Option.isSome_iff_exists.mpr ⟨v, hv⟩

/-! ## The store -/

/-- A harmless answer brings nothing back, and no record where there was none. -/
theorem Timed.Serves.lost {w w' : Timed} {e : Entry Custody} (h : w.Serves e w')
    (he : Entry.Harmless e) (hw : w.Lost) :
    w'.Lost ∧ (w'.store.current = none ↔ w.store.current = none) := by
  obtain ⟨hstore, hclock, -⟩ := h
  unfold Timed.Lost
  generalize w'.store = s at hstore
  rcases hstore.cases with rfl | ⟨r, c, v, rfl, hmeets, rfl⟩
  · exact ⟨fun r hr => (hw r hr).mono hclock, Iff.rfl⟩
  · obtain ⟨hfault, v', rfl⟩ := he
    rw [w.store.current_write r]
    refine ⟨fun r' hr' => ?_, ?_⟩
    · cases hr'
      exact Or.inl hfault
    · have hheld : w.store.slot.isSome = true := by
        simp only [MemoryStore.meets, Bool.and_eq_true] at hmeets
        exact hmeets.1
      obtain ⟨held, hslot⟩ := Option.isSome_iff_exists.mp hheld
      simp [MemoryStore.current, hslot]

/-! ## All runs -/

/-- What is left of a run, and what it has seen, gives no hope. -/
def Run.Hopeless (run : Run) (t : Instant) (seen : List (Entry Custody)) : Prop :=
  match run.task with
  | .obtain _ _ => (∃ n, n + seen.length = 5 ∧ Resigns n t run.rest) ∧
      ∀ e ∈ seen, ∀ c a, e = .called (S := Custody) c a → c = .read
  | .authorization _ _ _ => False
  | _ => ∃ s : Stage, s.Calm ∧ run.rest.Follows run.task.protocol (fun s x => s = .ended x) s

/-- There is no more hope later. -/
theorem Run.Hopeless.mono {run : Run} {t t' : Instant} {seen : List (Entry Custody)}
    (h : run.Hopeless t seen) (ht : t ≤ t') : run.Hopeless t' seen := by
  obtain ⟨o, l, p⟩ := run
  cases o with
  | obtain cfg deadline =>
    obtain ⟨⟨n, hn, hresigns⟩, hseen⟩ := h
    exact ⟨⟨n, hn, hresigns.mono ht⟩, hseen⟩
  | rejection cfg used why => exact h
  | authorization cfg s c => exact h
  | inspection cfg => exact h

/-- A run that is no authorization begins without hope. -/
theorem Run.hopeless_begin {o : Task} (ho : ∀ cfg s c, o ≠ .authorization cfg s c) (t : Instant) :
    (Run.begin o).Hopeless t [] := by
  cases o with
  | obtain cfg deadline => exact ⟨⟨5, rfl, .obtain cfg deadline t⟩, List.forall_mem_nil _⟩
  | authorization cfg s c => exact absurd rfl (ho cfg s c)
  | rejection cfg used why =>
    exact ⟨_, Stage.calm_ofUsed used why, (Task.rejection cfg used why).follows⟩
  | inspection cfg =>
    exact ⟨.looking .tell none, trivial, (Task.inspection cfg).follows⟩

/-- A turn of a run gives no hope either. -/
theorem Run.Hopeless.step {run : Run} {w w' : Timed} {seen : List (Entry Custody)}
    {e : Entry Custody} {rest : Program Custody Result} (h : run.Hopeless w.clock seen)
    (hs : run.rest.Step e rest) (hw : w.Lost) (ha : w.Serves e w') :
    (run.after e rest).Hopeless w'.clock (seen ++ [e]) ∧ Entry.Harmless e := by
  obtain ⟨o, l, p⟩ := run
  have hcalm (h : ∃ s : Stage, s.Calm ∧ p.Follows o.protocol (fun s x => s = .ended x) s) :
      (∃ s : Stage, s.Calm ∧ rest.Follows o.protocol (fun s x => s = .ended x) s) ∧
        Entry.Harmless e := by
    obtain ⟨s, hcalm, hf⟩ := h
    obtain ⟨s', hm, hf'⟩ := hf.step hs
    obtain ⟨hcalm', he⟩ := Move.calm hm hcalm
    exact ⟨⟨s', hcalm', hf'⟩, he⟩
  cases o with
  | obtain cfg deadline =>
    obtain ⟨⟨n, hn, hresigns⟩, hseen⟩ := h
    obtain ⟨hread, m, rfl, hresigns'⟩ := hresigns.step hs hw ha
    refine ⟨⟨⟨m, ?_, hresigns'⟩, ?_⟩, ?_⟩
    · rw [List.length_append, List.length_singleton]
      omega
    · intro e' he'
      rcases List.mem_append.mp he' with he' | he'
      · exact hseen e' he'
      · obtain rfl := List.mem_singleton.mp he'
        exact hread
    · cases e with
      | asked q a => exact trivial
      | called c a =>
        obtain rfl := hread c a rfl
        exact trivial
  | authorization cfg s c => exact h.elim
  | rejection cfg used why => exact hcalm h
  | inspection cfg => exact hcalm h

/-- What holds as runs take their turns, once the credential is lost. -/
structure Absorbed (w₀ : Timed) (turns : List (Nat × Entry Custody)) (σ : System unattended) :
    Prop where
  lost : Timed.Lost σ.world
  empty : σ.world.store.current = none ↔ w₀.store.current = none
  hopeless : ∀ i run, σ.runs i = some run → run.Hopeless σ.world.clock (System.seenBy i turns)
  harmless : ∀ m ∈ turns, Entry.Harmless m.2

/-- The induction is on the turns: each is harmless, and leaves every run without hope. -/
theorem System.Unfolds.absorbed {w₀ : Timed} {turns : List (Nat × Entry Custody)}
    {σ : System unattended} (h : (still (E := unattended) w₀).Unfolds (fun _ _ _ => True) turns σ)
    (hw : w₀.Lost) : Absorbed w₀ turns σ := by
  induction h with
  | start => exact ⟨hw, Iff.rfl, fun i run hi => (nomatch hi), List.forall_mem_nil _⟩
  | @begin turns σ h i o hi ho ih =>
    refine ⟨ih.lost, ih.empty, forall_update ?_ fun j run _ hj => ih.hopeless j run hj,
      ih.harmless⟩
    rw [(h.ledger_eq i).2 hi]
    exact Run.hopeless_begin ho _
  | @move turns σ h i run e rest w hi hs ha _ ih =>
    obtain ⟨hrun, he⟩ := (ih.hopeless i run hi).step hs ih.lost ha
    obtain ⟨hlost, hempty⟩ := Timed.Serves.lost ha he ih.lost
    refine ⟨hlost, hempty.trans ih.empty, forall_update ?_ fun j run' hj hj' => ?_, ?_⟩
    · rw [seenBy_snoc_self]
      exact hrun
    · rw [seenBy_snoc_of_ne hj]
      exact (ih.hopeless j run' hj').mono ha.clock
    · intro m hm
      rcases List.mem_append.mp hm with hm | hm
      · exact ih.harmless m hm
      · obtain rfl := List.mem_singleton.mp hm
        exact he

/-- Once nothing is held or the record is in a terminal state, no run asks the provider again,
a run that obtains a token calls a human within five turns and writes nothing, and the store
stays empty or goes on holding a record in a terminal state. -/
theorem terminal_absorbs {w₀ : Timed} {turns : List (Nat × Entry Custody)}
    {σ : System unattended}
    (h : (System.still (E := unattended) w₀).Unfolds (fun _ _ _ => True) turns σ)
    {threshold : Span} {st : TokenState}
    (hst : stateOf threshold w₀.store.current w₀.clock .notObserved = some st)
    (hterminal : st = .uninitialized ∨ st.isTerminal = true) :
    (∀ m ∈ turns, ∀ token a, m.2 ≠ .called (S := Custody) (.refresh token) a) ∧
    (∀ i run cfg deadline, σ.runs i = some run → run.task = .obtain cfg deadline →
      (∀ e ∈ System.seenBy i turns, ∀ r c a, e ≠ .called (S := Custody) (.write r c) a) ∧
      (System.seenBy i turns).length ≤ 5 ∧
      ((∃ why, run.rest = .done (.outcome (.ok (.needsAuthorization why)))) ∨
        ∃ e rest w, run.rest.Step e rest ∧ Timed.Serves σ.world e w)) ∧
    (σ.world.store.current = none ↔ w₀.store.current = none) ∧
    (∀ threshold, ∃ st, stateOf threshold σ.world.store.current σ.world.clock .notObserved =
      some st ∧ (st = .uninitialized ∨ st.isTerminal = true)) := by
  have hab := h.absorbed ((Timed.lost_iff threshold).mpr ⟨st, hst, hterminal⟩)
  refine ⟨fun m hm token a he => ?_, fun i run cfg deadline hi ho => ?_, hab.empty,
    fun threshold => (Timed.lost_iff threshold).mp hab.lost⟩
  · have hharmless := hab.harmless m hm
    rw [he] at hharmless
    exact hharmless
  · have hrun := hab.hopeless i run hi
    unfold Run.Hopeless at hrun
    rw [ho] at hrun
    obtain ⟨⟨n, hn, hresigns⟩, hseen⟩ := hrun
    refine ⟨fun e he r c a heq => ?_, by omega, hresigns.goesOn σ.world⟩
    cases hseen e he _ a heq

/-! ### Two runs to look at

The refresh token has just expired. One run reports that the last access token was turned
away, and then another one looks for a token. -/

namespace Sample

/-- The store and the clock at the expiry of the refresh token. -/
def atExpiry : Timed := ⟨.seeded base, after 86400⟩

def report : Task := .rejection .default held "HTTP 401"

/-- The record as it is noted. -/
def rejected : Record := held.withFault ⟨.apiRejected, "HTTP 401", after 86400⟩

/-- The store after that. -/
def noting : MemoryStore := ((MemoryStore.seeded base).put rejected (.replacing held)).2

/-- What the first run sees. -/
def reporting : List (Entry Custody) :=
  [.asked .timer .zero, .asked .timer .zero, .asked .now (after 86400), writing rejected,
    .asked (.emit (.authorizationNeeded "invalid")) ()]

/-- What the second run sees. -/
def resigning : List (Entry Custody) :=
  [.asked (.tally .attempt) (), .called (S := Custody) .read (.ok noting.current),
    .asked .now (after 86400), .asked (.emit (.state "invalid")) (),
    .asked (.emit (.authorizationNeeded "invalid")) ()]

theorem servesNow (w : Timed) : w.Serves (.asked .now w.clock) w where
  store := .asked ..
  clock := Instant.le_refl _
  told := fun t ht => by cases ht; rfl

theorem serves {s s' : MemoryStore} {e : Entry Custody} (h : s.Answers e s')
    (hnow : ∀ t, e ≠ .asked .now t) (t : Instant) : Timed.Serves ⟨s, t⟩ e ⟨s', t⟩ :=
  ⟨h, Instant.le_refl t, fun t' ht => absurd ht (hnow t')⟩

theorem servesAsked {q : Ambient} (a : q.Reply) (hq : q ≠ .now) (w : Timed) :
    w.Serves (.asked q a) w :=
  serves (.asked q a) (fun t ht => by cases ht; exact hq rfl) w.clock

theorem reportingServed : Answered Timed.Serves atExpiry reporting ⟨noting, after 86400⟩ :=
  ⟨_, servesAsked _ (by decide) _, _, servesAsked _ (by decide) _, _, servesNow _,
    _, serves (stored (by decide +kernel)) (fun _ ht => by cases ht) _,
    _, servesAsked _ (by decide) _, rfl⟩

theorem resigningServed :
    Answered Timed.Serves ⟨noting, after 86400⟩ resigning ⟨noting, after 86400⟩ :=
  ⟨_, servesAsked _ (by decide) _, _, serves .read (fun _ ht => by cases ht) _,
    _, servesNow ⟨noting, after 86400⟩, _, servesAsked _ (by decide) _,
    _, servesAsked _ (by decide) _, rfl⟩

theorem exists_reported : ∃ p, reporting.foldlM Program.advance report.program = some p :=
  Option.isSome_iff_exists.mp (by decide +kernel)

theorem resigned_ends : resigning.foldlM Program.advance task.program =
    some (.done (.outcome (.ok (.needsAuthorization (.ofFault rejected))))) :=
  Program.ends_of_reading (fun _ => Result.eq_outcome) (by decide +kernel)

end Sample

/-- The first run has noted a fault in place of the spent record. The second run has called a
human in five turns, and the record is still in a terminal state. -/
theorem terminal_absorbs_of_sample : ∃ (turns : List (Nat × Entry Custody)) (σ : System unattended)
      (run : Run),
    (System.still (E := unattended) Sample.atExpiry).Unfolds (fun _ _ _ => True) turns σ ∧
    stateOf defaultThreshold Sample.atExpiry.store.current Sample.atExpiry.clock .notObserved =
      some .expiredUnrefreshable ∧
    σ.runs 1 = some run ∧
    run.rest = .done (.outcome (.ok (.needsAuthorization (.ofFault Sample.rejected)))) ∧
    (System.seenBy 1 turns).length ≤ 5 ∧ σ.world.store = Sample.noting ∧
    ∃ st, stateOf defaultThreshold σ.world.store.current σ.world.clock .notObserved = some st ∧
      (st = .uninitialized ∨ st.isTerminal = true) := by
  obtain ⟨p, hp⟩ := Sample.exists_reported
  have hstart : (System.still (E := unattended) Sample.atExpiry).Unfolds (fun _ _ _ => True) [] _ :=
    .start
  have hboth := (hstart.begin 0 Sample.report rfl fun _ _ _ ho => by cases ho).begin 1
    Sample.task rfl fun _ _ _ ho => by cases ho
  have hreported := hboth.goOn (i := 0) rfl Sample.reportingServed
    ⟨trivial, trivial, trivial, trivial, trivial, trivial⟩ hp
  have hresigned := hreported.goOn (i := 1) rfl Sample.resigningServed
    ⟨trivial, trivial, trivial, trivial, trivial, trivial⟩ Sample.resigned_ends
  have hst : stateOf defaultThreshold Sample.atExpiry.store.current Sample.atExpiry.clock
      .notObserved = some .expiredUnrefreshable := by decide +kernel
  obtain ⟨-, hruns, -, hlost⟩ := terminal_absorbs hresigned hst (Or.inr rfl)
  exact ⟨_, _, _, hresigned, hst, rfl, rfl, (hruns 1 _ _ _ rfl rfl).2.1, rfl, hlost _⟩

end Coordination

end TokenCustody
