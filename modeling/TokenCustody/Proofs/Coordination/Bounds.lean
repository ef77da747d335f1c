/-
TokenCustody.Proofs.Coordination.Bounds — how much one run asks of others.

Whatever the store and the provider answer, a run that obtains a token
asks little of them: at most as many refreshes as its policy allows
attempts, two writes, and three rounds of reads. And it asks only with a
reason. A refresh is asked for with the token of the one record that was
read, while nothing was granted or written yet (`MayRefresh`). A second
write follows only on a first one that stored no fault and came too late,
and only over the fault that the run's own refresh has brought about
(`MayWrite`).

What a run may ask for next depends on what it has seen so far. So the
reasons are conditions on the past of an entry (`Allowed`), each stage of
a run comes with what is known of the past there (`Stage.Known`), and one
induction over transcripts shows that every entry is allowed.
-/
import Mathlib.Data.List.Basic
import TokenCustody.Proofs.Coordination.Lineage
import TokenCustody.Proofs.Coordination.Serving
import TokenCustody.Proofs.Coordination.Transcript
import TokenCustody.Report

namespace TokenCustody.Coordination

open TokenCustody.Time

/-! ## Reasons to ask -/

/-- There is a reason to refresh with this token: it is the token of the one record that was
read, the state of that record calls for it, whatever was asked of the provider has failed, and
nothing was written. -/
structure MayRefresh (cfg : Settings) (before : List (Entry Custody)) (token : String) :
    Prop where
  due : ∃ base now st, pick Entry.found? before = [base] ∧ base.refreshToken = token ∧
    pick Entry.now? before = [now] ∧
    stateOf cfg.refreshThreshold (some base) now .notObserved = some st ∧
    (st = .expiringSoon ∨ st = .expiredRefreshable)
  failed : ∀ p ∈ pick Entry.refresh? before, ∃ e, p.2 = .error e
  unwritten : pick Entry.write? before = []

/-- The refreshed record `next` of `base`, the one record that was read, came too late, and this
was found since. -/
def Missed (base next : Record) (found : List Record) (before : List (Entry Custody)) : Prop :=
  ∃ h₁ e h₂, before =
      h₁ ++ .called (S := Custody) (.write next (.replacing base)) (.error e) :: h₂ ∧
    e.isConflict = true ∧ next.fault = none ∧
    pick Entry.found? h₁ = [base] ∧ pick Entry.write? h₁ = [] ∧
    pick Entry.found? h₂ = found ∧ pick Entry.write? h₂ = []

/-- There is a reason to write: nothing was written yet, or the same refreshed record came too
late, and goes over the fault that was found in place of its base. -/
def MayWrite (before : List (Entry Custody)) (r : Record) (c : WriteCondition) : Prop :=
  pick Entry.write? before = [] ∨
    ∃ base shadow, Missed base r [shadow] before ∧ Shadows base shadow ∧ c = .replacing shadow

/-- There is a reason for what is asked. Only refreshes and writes need one. -/
def Allowed (cfg : Settings) (before : List (Entry Custody)) : Entry Custody → Prop
  | .called (.refresh token) _ =>
    MayRefresh cfg before token ∧ (pick Entry.refresh? before).length < cfg.retry.attemptLimit
  | .called (.write r c) _ => MayWrite before r c
  | _ => True

/-! ## Rounds of reads -/

/-- Reads in a row, with pauses at most in between: few of them, and all but the last failed in
a way that was worth another attempt. -/
structure Round (few : Nat) (t : List (Entry Custody)) : Prop where
  plain : ∀ e ∈ t, e.isRetry = true ∨ ∃ a, e = .called (S := Custody) .read a
  length_le : (pick Entry.read? t).length ≤ few
  failed : ∀ a ∈ (pick Entry.read? t).dropLast, ∃ e : Error, a = .error e ∧ e.isRetryable = true

/-- The store is read in at most so many rounds. -/
inductive InRounds (few : Nat) : Nat → List (Entry Custody) → Prop where
  | rest {n : Nat} {t : List (Entry Custody)} (ht : pick Entry.read? t = []) : InRounds few n t
  | round {n : Nat} {s u t : List (Entry Custody)} (hs : pick Entry.read? s = []) (hu : Round few u)
      (ht : InRounds few n t) : InRounds few (n + 1) (s ++ (u ++ t))

/-- What a run asks of others is bounded, and there is a reason for it. -/
structure Bounded (cfg : Settings) (t : List (Entry Custody)) : Prop where
  refreshes : (pick Entry.refresh? t).length ≤ cfg.retry.attemptLimit
  writes : (pick Entry.write? t).length ≤ 2
  reads : InRounds cfg.retry.attemptLimit 3 t
  allowed : ∀ before e after, t = before ++ e :: after → Allowed cfg before e

/-! ## Rounds -/

section Rounds

variable {few n m : Nat} {s t u : List (Entry Custody)}

/-- A round that breaks off is a round. -/
theorem Round.of_append (h : Round few (s ++ t)) : Round few s := by
  refine ⟨fun e he => h.plain e (List.mem_append_left t he), ?_, ?_⟩
  · have hle := h.length_le
    simp only [pick_append, List.length_append] at hle
    omega
  · intro a ha
    refine h.failed a ?_
    rw [pick_append, List.dropLast_append]
    split
    · exact ha
    · exact List.mem_append_left _ ((List.dropLast_sublist _).subset ha)

namespace InRounds

/-- So are rounds that break off. -/
theorem of_append (h : InRounds few n (s ++ t)) : InRounds few n s := by
  generalize hst : s ++ t = st at h
  induction h generalizing s with
  | rest ht =>
    subst hst
    exact .rest (List.append_eq_nil_iff.mp (by simpa using ht)).1
  | round hs hu ht ih =>
    obtain ⟨v, rfl, hv⟩ | ⟨v, rfl, hv⟩ := List.append_eq_append_iff.mp hst
    · exact .rest (List.append_eq_nil_iff.mp (by simpa using hs)).1
    obtain ⟨w, rfl, hw⟩ | ⟨w, rfl, hw⟩ := List.append_eq_append_iff.mp hv
    · exact .round hs hu (ih hw.symm)
    · rw [← List.append_nil v]
      exact .round hs hu.of_append (.rest pick_nil)

/-- What fits into some rounds fits into more of them. -/
theorem mono (h : InRounds few n t) (hnm : n ≤ m) : InRounds few m t := by
  induction h generalizing m with
  | rest ht => exact .rest ht
  | round hs hu _ ih =>
    cases m with
    | zero => exact absurd hnm (Nat.not_succ_le_zero _)
    | succ m => exact .round hs hu (ih (Nat.le_of_succ_le_succ hnm))

/-- What comes before the first round is no round. -/
theorem skip (hs : pick Entry.read? s = []) (h : InRounds few n t) :
    InRounds few n (s ++ t) := by
  cases h with
  | rest ht => exact .rest (by simp [hs, ht])
  | round hs' hu ht =>
    rw [← List.append_assoc]
    exact .round (by simp [hs, hs']) hu ht

theorem cons {e : Entry Custody} (he : e.read? = none) (h : InRounds few n t) :
    InRounds few n (e :: t) :=
  skip (s := [e]) (by simp [he]) h

/-- In so many rounds there are so many reads. -/
theorem length_le (h : InRounds few n t) : (pick Entry.read? t).length ≤ n * few := by
  induction h with
  | rest ht => simp [ht]
  | round hs hu _ ih =>
    have hle := hu.length_le
    simp only [pick_append, hs, List.nil_append, List.length_append, Nat.succ_mul]
    omega

end InRounds

end Rounds

/-- How often a run that has come to a stage may still look into the store. -/
def Stage.looks : Stage → Nat
  | .looking .first _ => 3
  | .looking (.recover _ _ _) _ | .refreshing _ _ | .writing (.successor _ _) => 2
  | .looking _ _ | .writing _ | .reporting _ _ => 1
  | _ => 0

theorem Stage.looks_ofState (r : Record) (st : TokenState) : (ofState r st).looks ≤ 2 := by
  cases st <;> simp [ofState, looks]

/-- A look that has told the state is one look less. -/
theorem Stage.looks_weighed (g : Goal) (found : Option Record) (st : TokenState) :
    (g.weighed found (some st)).looks < (looking g none).looks := by
  cases g with
  | first =>
    cases found with
    | none => simp [Goal.weighed, looks]
    | some r => exact Nat.lt_succ_of_le (looks_ofState r st)
  | recover base next e =>
    cases hshadow : found.filter (isOwnShadow base) <;> simp [Goal.weighed, hshadow, looks]
  | settle otherwise => simp [Goal.weighed, looks]
  | tell => simp [Goal.weighed, looks]

theorem Stage.looks_ofSuccessor (base : Record) (r : Option (Except Error Record)) :
    (ofSuccessor base r).looks ≤ 2 := by
  rcases r with _ | _ | next <;> simp [ofSuccessor, looks]

/-- A write that came too late is followed by no more looks than the draft has left. -/
theorem Stage.looks_written (dr : Draft) (a : Except Error Version) :
    (dr.written a).looks ≤ (writing dr).looks := by
  cases a with
  | ok v => cases dr <;> simp [Draft.written, looks]
  | error e =>
    cases he : e.isConflict <;> cases dr <;> simp [Draft.written, Draft.again, looks, he]

section Reading

variable {cfg : Settings} {d : Deadline} {t : List (Entry Custody)}

/-- The reads of one look into the store are a round. -/
theorem round_of_reads {r : Except Error (Option Record)} (h : Reads cfg d t r) :
    Round cfg.retry.attemptLimit t := by
  obtain ⟨fails, hlen, hretry, -, hcalls⟩ := h.answers fun _ => rfl
  have hreads : pick Entry.read? t = fails.map .error ++ [r] := by
    rw [← Attempts.pick_filter_isRetry fun e => Entry.eq_none_of_isRetry fun _ _ _ => rfl,
      hcalls]
    simp [pick, Entry.read?]
  refine ⟨fun e he => h.isRetry_or_made (fun _ => rfl) he, ?_, ?_⟩
  · have hpos := cfg.retry.attemptLimit_pos
    simp only [hreads, List.length_append, List.length_map, List.length_singleton]
    omega
  · intro a ha
    rw [hreads, List.dropLast_concat] at ha
    obtain ⟨e, he, rfl⟩ := List.mem_map.mp ha
    exact ⟨e, rfl, hretry e he⟩

/-- A look into the store is a round, if what follows leaves room for one. -/
theorem InRounds.look {r : Except Error (Option Record)} {u : List (Entry Custody)} {n m : Nat}
    (hu : Reads cfg d u r) (ht : InRounds cfg.retry.attemptLimit n t) (hnm : n < m) :
    InRounds cfg.retry.attemptLimit m (u ++ t) :=
  (InRounds.round pick_nil (round_of_reads hu) ht).mono hnm

/-- A run looks into the store in as many rounds as its stage has looks left. -/
theorem Transcript.inRounds {s : Stage} {x : Option (Except Error Outcome)}
    (h : Transcript cfg d s t x) : InRounds cfg.retry.attemptLimit s.looks t := by
  have hquiet (ms : List Metric) : pick Entry.read? (counted ms) = [] :=
    pick_counted ms fun _ => rfl
  have hasked {token : String} {u : List (Entry Custody)} {a : Except Error Grant}
      (hu : Asks cfg d token u a) : pick Entry.read? u = [] :=
    hu.pick_eq (fun _ _ _ => rfl) fun _ => rfl
  have hlooks (g : Goal) : 0 < (Stage.looking g none).looks := by
    cases g <;> simp [Stage.looks]
  induction h with
  | ended x => exact .rest (hquiet _)
  | halted => exact .rest rfl
  | @unread g u e hu =>
    rw [← List.append_nil u]
    exact .look hu (.rest pick_nil) (hlooks g)
  | nothing hu ht ih => exact .look hu (.skip (hquiet _) ih) (by simp [Goal.looked, Stage.looks])
  | @beyond g u found now hu hg hst => exact .look hu (.rest rfl) (hlooks g)
  | @weighed g u t found now st x hu hg hst ht ih =>
    refine .look hu ?_ (Stage.looks_weighed g found st)
    exact .cons rfl (.skip (hquiet _) ih)
  | @granted base g u t x hu ht ih =>
    exact .skip (hquiet _) (.skip (hasked hu) (ih.mono (Stage.looks_ofSuccessor ..)))
  | @refused base e u t now x hu he ht ih =>
    refine .skip (hquiet _) (.skip (hasked hu) (.skip (hquiet _) ?_))
    exact .cons rfl (ih.mono (Nat.le_succ 1))
  | failed hu he => exact .rest (by simp [hquiet, hasked hu])
  | @late dr now t x hlate ht ih =>
    exact .cons rfl (.skip (hquiet _) (ih.mono (Nat.zero_le _)))
  | @wrote dr now t x hfits a ht ih =>
    exact .cons rfl (.cons rfl (.skip (hquiet _) (ih.mono (Stage.looks_written dr a))))
  | notReported hlate => exact .cons rfl (.rest (hquiet _))
  | @reported used why now at_ dr t x hfits hdr a ht ih =>
    refine .cons rfl (.cons rfl (.cons rfl (.skip (hquiet _) (ih.mono ?_))))
    subst hdr
    exact Stage.looks_written _ a

end Reading

/-! ## Reasons -/

/-- What is known of the past of a run that has come to a stage. -/
def Stage.Known (cfg : Settings) (h : List (Entry Custody)) : Stage → Prop
  | .looking .first _ =>
    pick Entry.found? h = [] ∧ pick Entry.now? h = [] ∧ pick Entry.refresh? h = [] ∧
      pick Entry.write? h = []
  | .looking (.recover base next _) _ => Missed base next [] h
  | .refreshing base _ =>
    MayRefresh cfg h base.refreshToken ∧ pick Entry.found? h = [base] ∧
      pick Entry.refresh? h = []
  | .writing (.successor base next) =>
    pick Entry.found? h = [base] ∧ pick Entry.write? h = [] ∧ next.fault = none
  | .writing (.overShadow base next shadow) =>
    Missed base next [shadow] h ∧ Shadows base shadow
  | .writing _ | .reporting _ _ => pick Entry.write? h = []
  | _ => True

section Reasons

variable {cfg : Settings} {d : Deadline} {h s t : List (Entry Custody)}

/-- Whatever is neither a refresh nor a write needs no reason. -/
theorem throughout_allowed (hr : pick Entry.refresh? t = []) (hw : pick Entry.write? t = []) :
    Throughout (fun h e _ => Allowed cfg h e) h t := by
  refine .of_forall fun e he h _ => ?_
  have hre : e.refresh? = none := pick_eq_nil_iff.mp hr e he
  have hwe : e.write? = none := pick_eq_nil_iff.mp hw e he
  unfold Allowed
  split
  · cases hre
  · cases hwe
  · trivial

theorem MayRefresh.append {token : String} (hmay : MayRefresh cfg h token)
    (hfound : pick Entry.found? s = []) (hnow : pick Entry.now? s = [])
    (hwrite : pick Entry.write? s = [])
    (hfailed : ∀ p ∈ pick Entry.refresh? s, ∃ e, p.2 = .error e) :
    MayRefresh cfg (h ++ s) token := by
  obtain ⟨⟨base, now, st, hb, htoken, hn, hst⟩, hf, hw⟩ := hmay
  refine ⟨⟨base, now, st, by simp [hb, hfound], htoken, by simp [hn, hnow], hst⟩, ?_, ?_⟩
  · intro p hp
    rw [pick_append] at hp
    rcases List.mem_append.mp hp with hp | hp
    · exact hf p hp
    · exact hfailed p hp
  · simp [hw, hwrite]

theorem Missed.append {base next : Record} {found : List Record}
    (hmissed : Missed base next found h) (hwrite : pick Entry.write? s = []) :
    Missed base next (found ++ pick Entry.found? s) (h ++ s) := by
  obtain ⟨h₁, e, h₂, rfl, he, hf, hf₁, hw₁, hf₂, hw₂⟩ := hmissed
  exact ⟨h₁, e, h₂ ++ s, by simp, he, hf, hf₁, hw₁, by simp [hf₂], by simp [hw₂, hwrite]⟩

/-- Each attempt to refresh is allowed. The induction is on the attempts. -/
theorem allowed_asks {token : String} {left : Nat} {b : Backoff} {r : Except Error Grant}
    (ht : Attempts d (fun a => .called (S := Custody) (.refresh token) a) left b t r)
    (hmay : MayRefresh cfg h token)
    (hleft : (pick Entry.refresh? h).length + left < cfg.retry.attemptLimit) :
    Throughout (fun h e _ => Allowed cfg h e) h t := by
  have hfirst (a : Except Error Grant) (h : List (Entry Custody)) (hmay : MayRefresh cfg h token)
      (hlt : (pick Entry.refresh? h).length < cfg.retry.attemptLimit) :
      Allowed cfg (h ++ [.asked (.tally .attempt) ()])
        (.called (S := Custody) (.refresh token) a) := by
    refine ⟨hmay.append rfl rfl rfl (by simp [Entry.refresh?]), ?_⟩
    simpa [Entry.refresh?] using hlt
  have hlt : (pick Entry.refresh? h).length < cfg.retry.attemptLimit := by omega
  induction ht generalizing h with
  | succeeds a => exact ⟨trivial, hfirst _ h hmay hlt, throughout_allowed rfl rfl⟩
  | succeedsLate a => exact ⟨trivial, hfirst _ h hmay hlt, throughout_allowed rfl rfl⟩
  | exhausted e => exact ⟨trivial, hfirst _ h hmay hlt, throughout_allowed rfl rfl⟩
  | hopeless e => exact ⟨trivial, hfirst _ h hmay hlt, throughout_allowed rfl rfl⟩
  | tooShort e x t => exact ⟨trivial, hfirst _ h hmay hlt, throughout_allowed rfl rfl⟩
  | @again left b s r e x t hretry hfits hs ih =>
    refine ⟨trivial, hfirst _ h hmay hlt, trivial, trivial, trivial, ?_⟩
    simp only [List.append_assoc, List.cons_append, List.nil_append]
    have hlen : (pick Entry.refresh? (h ++ [.asked (.tally .attempt) (),
        .called (.refresh token) (.error e), .asked .draw x, .asked .timer t,
        .asked (.sleep (b.start.nextDelay x e.retryAfter)) ()])).length =
          (pick Entry.refresh? h).length + 1 := by
      simp [Entry.refresh?]
    refine ih ?_ (by omega) (by omega)
    refine hmay.append rfl rfl rfl fun p hp => ⟨e, ?_⟩
    simp only [pick_cons, Entry.refresh?] at hp
    simpa using congrArg Prod.snd (List.mem_singleton.mp hp)

theorem Stage.known_weighed {g : Goal} {found : Option Record} {now : Instant} {st : TokenState}
    (ms : List Metric) (hs : Reads cfg d s (.ok found)) (hk : (looking g none).Known cfg h)
    (hst : stateOf cfg.refreshThreshold found now .notObserved = some st) :
    (g.weighed found (some st)).Known cfg (h ++ (s ++ .asked .now now :: counted ms)) := by
  have hfound : pick Entry.found? (s ++ .asked .now now :: counted ms) = found.toList := by
    rw [hs.pick_assessed (fun _ _ _ => rfl) fun _ => rfl]
    exact List.append_nil _
  have hnow : pick Entry.now? (s ++ .asked .now now :: counted ms) = [now] :=
    hs.pick_assessed (fun _ _ => Entry.now?_asked) (fun _ => rfl) now ms
  have hrefresh : pick Entry.refresh? (s ++ .asked .now now :: counted ms) = [] :=
    hs.pick_assessed (fun _ _ _ => rfl) (fun _ => rfl) now ms
  have hwrite : pick Entry.write? (s ++ .asked .now now :: counted ms) = [] :=
    hs.pick_assessed (fun _ _ _ => rfl) (fun _ => rfl) now ms
  cases g with
  | first =>
    obtain ⟨hf, hn, hr, hw⟩ := hk
    cases found with
    | none => trivial
    | some r =>
      have hdue (hneeds : st = .expiringSoon ∨ st = .expiredRefreshable) :
          (refreshing r none).Known cfg (h ++ (s ++ .asked .now now :: counted ms)) := by
        refine ⟨⟨⟨r, now, st, ?_, rfl, ?_, hst, hneeds⟩, ?_, ?_⟩, ?_, ?_⟩
        · simpa [hf] using hfound
        · simpa [hn] using hnow
        · intro p hp
          rw [pick_append, hr, hrefresh] at hp
          cases hp
        · rw [pick_append, hw, hwrite, List.nil_append]
        · simpa [hf] using hfound
        · rw [pick_append, hr, hrefresh, List.nil_append]
      cases st with
      | expiringSoon => exact hdue (.inl rfl)
      | expiredRefreshable => exact hdue (.inr rfl)
      | _ => trivial
  | recover base next e =>
    dsimp only [Goal.weighed]
    cases hshadow : found.filter (isOwnShadow base) with
    | none => trivial
    | some shadow =>
      obtain ⟨rfl, hown⟩ := Option.filter_eq_some_iff.mp hshadow
      refine ⟨?_, shadows_iff.mp hown⟩
      have hmissed := Missed.append hk hwrite
      rwa [hfound] at hmissed
  | settle otherwise => trivial
  | tell => trivial

/-- After a grant the run may write the refreshed record. -/
theorem Stage.known_ofSuccessor {base : Record} {g : Grant} (hf : pick Entry.found? h = [base])
    (hw : pick Entry.write? h = []) :
    (ofSuccessor base (base.successor g cfg.refreshLifetime)).Known cfg h := by
  cases hnext : base.successor g cfg.refreshLifetime with
  | none => trivial
  | some r =>
    cases r with
    | error e => trivial
    | ok next => exact ⟨hf, hw, (Record.successor_facts hnext).2.1⟩

/-- A look at a clock changes nothing for a run that is about to write. -/
theorem Stage.Known.ask {dr : Draft} (hk : (writing dr).Known cfg h) (q : Ambient)
    (a : q.Reply) : (writing dr).Known cfg (h ++ [.asked q a]) := by
  have hwrite (hw : pick Entry.write? h = []) : pick Entry.write? (h ++ [.asked q a]) = [] := by
    rw [pick_append, hw]
    rfl
  cases dr with
  | successor base next =>
    obtain ⟨hf, hw, hfault⟩ := hk
    refine ⟨?_, hwrite hw, hfault⟩
    rw [pick_append, hf]
    rfl
  | overShadow base next shadow => exact ⟨hk.1.append rfl, hk.2⟩
  | fault base f why otherwise => exact hwrite hk
  | first r => exact hwrite hk

/-- Before it writes a run has a reason to. -/
theorem Stage.Known.mayWrite {dr : Draft} (hk : (writing dr).Known cfg h) :
    MayWrite h dr.record dr.condition := by
  cases dr with
  | successor base next => exact Or.inl hk.2.1
  | overShadow base next shadow => exact Or.inr ⟨base, shadow, hk.1, hk.2, rfl⟩
  | fault base f why otherwise => exact Or.inl hk
  | first r => exact Or.inl hk

/-- A refreshed record that came too late was the first that was written. -/
theorem Stage.Known.written {dr : Draft} (hk : (writing dr).Known cfg h)
    (a : Except Error Version) (ms : List Metric) :
    (dr.written a).Known cfg
      (h ++ .called (S := Custody) (.write dr.record dr.condition) a :: counted ms) := by
  cases a with
  | ok v => trivial
  | error e =>
    cases dr with
    | successor base next =>
      obtain ⟨hf, hw, hfault⟩ := hk
      cases he : e.isConflict with
      | false => simp [Draft.written, Draft.again, he, Known]
      | true =>
        simp only [Draft.written, Draft.again, he, if_pos, Known]
        exact ⟨h, e, counted ms, rfl, he, hfault, hf, hw, pick_counted ms fun _ => rfl,
          pick_counted ms fun _ => rfl⟩
    | first r => trivial
    | _ => cases he : e.isConflict <;> simp [Draft.written, Draft.again, he, Known]

theorem throughout_allowed_counted (ms : List Metric) :
    Throughout (fun h e _ => Allowed cfg h e) h (counted ms) :=
  throughout_allowed (pick_counted ms fun _ => rfl) (pick_counted ms fun _ => rfl)

theorem throughout_allowed_reads {r : Except Error (Option Record)} (hs : Reads cfg d s r) :
    Throughout (fun h e _ => Allowed cfg h e) h s :=
  throughout_allowed (hs.pick_eq (fun _ _ _ => rfl) fun _ => rfl)
    (hs.pick_eq (fun _ _ _ => rfl) fun _ => rfl)

/-- A run that refreshes a record has a reason to, and afterwards it has read and written no
more than before. -/
theorem Stage.Known.refreshing {base : Record} {r : Except Error Grant}
    (hk : (refreshing base none).Known cfg h) (ms : List Metric)
    (hs : Asks cfg d base.refreshToken s r) :
    Throughout (fun h e _ => Allowed cfg h e) h (counted ms ++ s) ∧
      pick Entry.found? (h ++ counted ms ++ s) = [base] ∧
      pick Entry.write? (h ++ counted ms ++ s) = [] := by
  obtain ⟨hmay, hfound, hnone⟩ := hk
  have hpos := cfg.retry.attemptLimit_pos
  have hcounted : pick Entry.refresh? (counted ms) = [] := pick_counted ms fun _ => rfl
  refine ⟨throughout_append.mpr ⟨throughout_allowed_counted ms, allowed_asks hs ?_ ?_⟩, ?_, ?_⟩
  · refine hmay.append (pick_counted ms fun _ => rfl) (pick_counted ms fun _ => rfl)
      (pick_counted ms fun _ => rfl) fun p hp => ?_
    rw [hcounted] at hp
    cases hp
  · simp only [pick_append, hnone, hcounted, List.append_nil, List.length_nil]
    omega
  · rw [pick_append, pick_append, hfound, pick_counted ms fun _ => rfl,
      hs.pick_eq (fun _ _ _ => rfl) fun _ => rfl]
    rfl
  · rw [pick_append, pick_append, hmay.unwritten, pick_counted ms fun _ => rfl,
      hs.pick_eq (fun _ _ _ => rfl) fun _ => rfl]
    rfl

/-- Every entry of a run is allowed. The induction is on the transcript, and what is known of
the past carries it from stage to stage. -/
theorem Transcript.allowed {s : Stage} {x : Option (Except Error Outcome)}
    (ht : Transcript cfg d s t x) (hk : s.Known cfg h) :
    Throughout (fun h e _ => Allowed cfg h e) h t := by
  induction ht generalizing h with
  | ended x => exact throughout_allowed_counted _
  | halted => trivial
  | unread hs => exact throughout_allowed_reads hs
  | nothing hs ht ih =>
    refine throughout_append.mpr ⟨throughout_allowed_reads hs, throughout_append.mpr ⟨?_, ?_⟩⟩
    · exact throughout_allowed_counted _
    · exact ih trivial
  | beyond hs hg hst =>
    exact throughout_append.mpr ⟨throughout_allowed_reads hs, trivial, trivial⟩
  | @weighed g s t found now st x hs hg hst ht ih =>
    refine throughout_append.mpr ⟨throughout_allowed_reads hs, trivial,
      throughout_append.mpr ⟨throughout_allowed_counted _, ih ?_⟩⟩
    simpa using Stage.known_weighed (g.notes st) hs hk hst
  | granted hs ht ih =>
    obtain ⟨hasks, hfound, hwrite⟩ := hk.refreshing [.refreshAttempt] hs
    rw [← List.append_assoc]
    refine throughout_append.mpr ⟨hasks, ih ?_⟩
    rw [← List.append_assoc]
    exact Stage.known_ofSuccessor hfound hwrite
  | @refused base e s t now x hs he ht ih =>
    obtain ⟨hasks, hfound, hwrite⟩ := hk.refreshing [.refreshAttempt] hs
    rw [← List.append_assoc]
    refine throughout_append.mpr ⟨hasks, throughout_append.mpr ⟨throughout_allowed_counted _,
      trivial, ih ?_⟩⟩
    show pick Entry.write? _ = []
    rw [pick_append, pick_append, ← List.append_assoc, hwrite, pick_counted _ fun _ => rfl]
    rfl
  | failed hs he =>
    obtain ⟨hasks, -, -⟩ := hk.refreshing [.refreshAttempt] hs
    rw [← List.append_assoc]
    exact throughout_append.mpr ⟨hasks, throughout_allowed_counted _⟩
  | late dr hlate ht ih =>
    exact ⟨trivial, throughout_append.mpr ⟨throughout_allowed_counted _, ih trivial⟩⟩
  | @wrote dr now t x hfits a ht ih =>
    have hasked := hk.ask .timer now
    refine ⟨trivial, hasked.mayWrite, throughout_append.mpr ⟨throughout_allowed_counted _, ih ?_⟩⟩
    simpa using hasked.written a (dr.notes a)
  | notReported hlate => exact ⟨trivial, throughout_allowed_counted _⟩
  | @reported used why now at_ dr t x hfits hdr a ht ih =>
    have hdrafted : (Stage.writing dr).Known cfg h := by
      subst hdr
      exact hk
    have hasked := (hdrafted.ask .timer now).ask .now at_
    refine ⟨trivial, trivial, hasked.mayWrite,
      throughout_append.mpr ⟨throughout_allowed_counted _, ih ?_⟩⟩
    simpa using hasked.written a (dr.notes a)

end Reasons

/-! ## The count of attempts -/

/-- As many attempts were counted as calls were made that are tried again. -/
def Tallied (t : List (Entry Custody)) : Prop :=
  (pick Entry.tally? t).count .attempt =
    (pick Entry.read? t).length + (pick Entry.refresh? t).length

section Tallies

variable {cfg : Settings} {d : Deadline} {s t : List (Entry Custody)}

theorem Tallied.append (hs : Tallied s) (ht : Tallied t) : Tallied (s ++ t) := by
  unfold Tallied at *
  simp only [pick_append, List.count_append, List.length_append]
  omega

theorem Tallied.cons {e : Entry Custody} (he : Tallied [e]) (ht : Tallied t) :
    Tallied (e :: t) :=
  he.append ht

/-- What is counted for whoever watches is no attempt. -/
theorem tallied_counted (ms : List Metric) : Tallied (counted ms) := by
  unfold Tallied
  rw [pick_counted ms fun _ => rfl, pick_counted ms fun _ => rfl, pick_counted ms fun _ => rfl]
  rfl

/-- Each read of a look was counted as an attempt. -/
theorem tallied_reads {r : Except Error (Option Record)} (hs : Reads cfg d s r) : Tallied s := by
  have hlen : (pick Entry.read? s).length = (pick Entry.tally? s).count .attempt :=
    hs.length_pick (fun _ => rfl) (fun _ => Entry.eq_none_of_isRetry fun _ _ _ => rfl)
      fun _ => rfl
  have hnone : pick Entry.refresh? s = [] := hs.pick_eq (fun _ _ _ => rfl) fun _ => rfl
  rw [Tallied, hlen, hnone, List.length_nil, Nat.add_zero]

/-- So was each request of a refresh. -/
theorem tallied_asks {token : String} {r : Except Error Grant} (hs : Asks cfg d token s r) :
    Tallied s := by
  have hlen : (pick Entry.refresh? s).length = (pick Entry.tally? s).count .attempt :=
    hs.length_pick (fun _ => rfl) (fun _ => Entry.eq_none_of_isRetry fun _ _ _ => rfl)
      fun _ => rfl
  have hnone : pick Entry.read? s = [] := hs.pick_eq (fun _ _ _ => rfl) fun _ => rfl
  rw [Tallied, hlen, hnone, List.length_nil, Nat.zero_add]

/-- All attempts of a run were counted, and nothing else was counted as one. -/
theorem Transcript.tallied {stage : Stage} {x : Option (Except Error Outcome)}
    (ht : Transcript cfg d stage t x) : Tallied t := by
  induction ht with
  | ended x => exact tallied_counted _
  | halted => rfl
  | unread hs => exact tallied_reads hs
  | nothing hs ht ih => exact (tallied_reads hs).append ((tallied_counted _).append ih)
  | beyond hs hg hst => exact (tallied_reads hs).append rfl
  | weighed hs hg hst ht ih =>
    exact (tallied_reads hs).append (.cons rfl ((tallied_counted _).append ih))
  | granted hs ht ih => exact (tallied_counted _).append ((tallied_asks hs).append ih)
  | refused hs he ht ih =>
    exact (tallied_counted _).append
      ((tallied_asks hs).append ((tallied_counted _).append (.cons rfl ih)))
  | failed hs he =>
    exact (tallied_counted _).append ((tallied_asks hs).append (tallied_counted _))
  | late dr hlate ht ih => exact .cons rfl ((tallied_counted _).append ih)
  | wrote hfits a ht ih => exact .cons rfl (.cons rfl ((tallied_counted _).append ih))
  | notReported hlate => exact .cons rfl (tallied_counted _)
  | reported hfits hdr a ht ih =>
    exact .cons rfl (.cons rfl (.cons rfl ((tallied_counted _).append ih)))

end Tallies

/-! ## All runs -/

section Runs

variable {cfg : Settings} {h s t : List (Entry Custody)}

/-- A run that has missed its write has made one. -/
theorem Missed.length {base next : Record} {found : List Record}
    (hmissed : Missed base next found h) : (pick Entry.write? h).length = 1 := by
  obtain ⟨h₁, e, h₂, rfl, -, -, -, hw₁, -, hw₂⟩ := hmissed
  simp [hw₁, hw₂, Entry.write?]

/-- Where every entry is allowed there are few refreshes and writes. -/
theorem bounded_of_allowed (ht : Throughout (fun h e _ => Allowed cfg h e) [] t)
    (hreads : InRounds cfg.retry.attemptLimit 3 t) : Bounded cfg t := by
  refine ⟨?_, ?_, hreads, throughout_iff.mp ht⟩
  · refine (ht.mono fun h e _ he hsome => ?_).length_pick_le (Nat.zero_le _)
    unfold Entry.refresh? at hsome
    split at hsome
    · exact he.2
    · cases hsome
  · refine (ht.mono fun h e _ he hsome => ?_).length_pick_le (Nat.zero_le _)
    unfold Entry.write? at hsome
    split at hsome
    · obtain hnone | ⟨base, shadow, hmissed, -⟩ := he
      · simp [hnone]
      · simp [hmissed.length]
    · cases hsome

/-- The bounds hold of a run that breaks off. -/
theorem Bounded.of_append (hb : Bounded cfg (s ++ t)) : Bounded cfg s := by
  refine bounded_of_allowed (throughout_iff.mpr fun before e after heq => ?_) hb.reads.of_append
  refine hb.allowed before e (after ++ t) ?_
  rw [heq, List.append_assoc, List.cons_append]

/-- What an entry counts for the report is of no interest to anybody else. -/
theorem pick_untallied {β : Type} {f : Entry Custody → Option β}
    (hf : ∀ t a, f (.asked (.tally t) a) = none) :
    pick f (t.filter (·.tally?.isNone)) = pick f t := by
  refine pick_filter fun e he => ?_
  unfold Entry.tally? at he
  split at he
  · exact hf _ _
  · cases he

/-- A missed write does not depend on what was counted for the report. -/
theorem Missed.untallied {base next : Record} {found : List Record}
    (hmissed : Missed base next found h) :
    Missed base next found (h.filter (·.tally?.isNone)) := by
  obtain ⟨h₁, e, h₂, rfl, he, hfault, hf₁, hw₁, hf₂, hw₂⟩ := hmissed
  refine ⟨h₁.filter (·.tally?.isNone), e, h₂.filter (·.tally?.isNone), ?_, he, hfault, ?_⟩
  · simp [Entry.tally?]
  · have hfound (t : List (Entry Custody)) :
        pick Entry.found? (t.filter (·.tally?.isNone)) = pick Entry.found? t :=
      pick_untallied fun _ _ => rfl
    have hwrite (t : List (Entry Custody)) :
        pick Entry.write? (t.filter (·.tally?.isNone)) = pick Entry.write? t :=
      pick_untallied fun _ _ => rfl
    simp only [hfound, hwrite]
    exact ⟨hf₁, hw₁, hf₂, hw₂⟩

/-- Nor does whether an entry is allowed. -/
theorem Allowed.untallied {e : Entry Custody} (he : Allowed cfg h e) :
    Allowed cfg (h.filter (·.tally?.isNone)) e := by
  have hrefresh : pick Entry.refresh? (h.filter (·.tally?.isNone)) = pick Entry.refresh? h :=
    pick_untallied fun _ _ => rfl
  have hwrite : pick Entry.write? (h.filter (·.tally?.isNone)) = pick Entry.write? h :=
    pick_untallied fun _ _ => rfl
  have hfound : pick Entry.found? (h.filter (·.tally?.isNone)) = pick Entry.found? h :=
    pick_untallied fun _ _ => rfl
  have hnow : pick Entry.now? (h.filter (·.tally?.isNone)) = pick Entry.now? h :=
    pick_untallied fun _ _ => rfl
  unfold Allowed at he ⊢
  split at he
  · obtain ⟨hmay, hlt⟩ := he
    refine ⟨⟨?_, ?_, ?_⟩, ?_⟩
    · simpa only [hfound, hnow] using hmay.due
    · simpa only [hrefresh] using hmay.failed
    · simpa only [hwrite] using hmay.unwritten
    · simpa only [hrefresh] using hlt
  · obtain hnone | ⟨base, shadow, hmissed, hrest⟩ := he
    · exact Or.inl (by rw [hwrite, hnone])
    · exact Or.inr ⟨base, shadow, hmissed.untallied, hrest⟩
  · trivial

theorem Round.untallied {few : Nat} (ht : Round few t) :
    Round few (t.filter (·.tally?.isNone)) := by
  have hread : pick Entry.read? (t.filter (·.tally?.isNone)) = pick Entry.read? t :=
    pick_untallied fun _ _ => rfl
  refine ⟨fun e he => ht.plain e (List.mem_of_mem_filter he), ?_, ?_⟩
  · rw [hread]
    exact ht.length_le
  · rw [hread]
    exact ht.failed

/-- Nor do the rounds of a run. -/
theorem InRounds.untallied {few n : Nat} (ht : InRounds few n t) :
    InRounds few n (t.filter (·.tally?.isNone)) := by
  have hread (t : List (Entry Custody)) :
      pick Entry.read? (t.filter (·.tally?.isNone)) = pick Entry.read? t :=
    pick_untallied fun _ _ => rfl
  induction ht with
  | rest ht => exact .rest (by rw [hread, ht])
  | round hs hu _ ih =>
    simp only [List.filter_append]
    exact .round (by rw [hread, hs]) hu.untallied ih

/-- The bounds hold of a run from its first look on. -/
theorem Transcript.bounded {d : Deadline} {x : Option (Except Error Outcome)}
    (ht : Transcript cfg d (.looking .first none) t x) : Bounded cfg t :=
  bounded_of_allowed (ht.allowed ⟨rfl, rfl, rfl, rfl⟩) ht.inRounds

/-- An invocation sets a deadline, and then it sees what a run sees that obtains a token, less
the tallies, which it counts. -/
theorem of_invoke {x : Option Report} (ht : (invoke cfg).Yields t x) :
    ∃ now u, t = .asked .timer now :: u.filter (·.tally?.isNone) ∧
      ((u = [] ∧ x = none) ∨ ∃ d y, Transcript cfg d (.looking .first none) u y ∧
        x = y.map fun y =>
          .ofResult y (UInt32.ofNat ((pick Entry.tally? u).count .attempt)).toNat) := by
  obtain ⟨now, v, rfl, ⟨-, rfl, rfl⟩ | ⟨d, -, hv⟩⟩ := ht.after_inv
  · exact ⟨now, [], rfl, Or.inl ⟨rfl, rfl⟩⟩
  obtain ⟨hs, -⟩ | ⟨s, a, v, rfl, hs, hv⟩ := hv.bind_inv
  · obtain ⟨u, y, -, -, hy⟩ := Program.yields_counting hs
    cases hy
  obtain ⟨u, y, hu, rfl, hy⟩ := Program.yields_counting hs
  cases hy
  have hattempts : ((pick Entry.tally? u).foldl RetryStats.add .zero).attempts =
      .ofNat ((pick Entry.tally? u).count .attempt) := by
    rw [RetryStats.attempts_foldl_add]
    exact UInt32.zero_add _
  dsimp only at hv
  rw [hattempts] at hv
  obtain ⟨rfl, rfl, rfl⟩ | ⟨y, rfl, hy⟩ := hv.orHalt_inv
  · exact ⟨now, u, by simp, Or.inr ⟨d, none, of_obtainBy hu, rfl⟩⟩
  · obtain ⟨rfl, rfl⟩ := hy.pure_inv
    exact ⟨now, u, by simp, Or.inr ⟨d, some y, of_obtainBy hu, rfl⟩⟩

/-- The bounds hold of a whole invocation. -/
theorem bounded_of_invoke {x : Option Report} (ht : (invoke cfg).Yields t x) : Bounded cfg t := by
  obtain ⟨now, u, rfl, ⟨rfl, -⟩ | ⟨d, y, hu, -⟩⟩ := of_invoke ht
  · exact bounded_of_allowed ⟨trivial, trivial⟩ (.rest rfl)
  · have hallowed := hu.allowed (h := [.asked .timer now]) ⟨rfl, rfl, rfl, rfl⟩
    have hreported : Throughout (fun h e _ => Allowed cfg h e) [.asked .timer now]
        (u.filter (·.tally?.isNone)) :=
      hallowed.filter (p := (·.tally?.isNone)) fun _ _ _ _ he => he.untallied
    exact bounded_of_allowed ⟨trivial, hreported⟩ (.cons rfl hu.inRounds.untallied)

/-- Three rounds of reads and one of refreshes are at most four times as many as a policy allows
attempts of one operation, and so they are few. -/
theorem Bounded.calls_le (hb : Bounded cfg t) :
    (pick Entry.read? t).length + (pick Entry.refresh? t).length ≤ 4 * cfg.retry.attemptLimit := by
  have hreads := hb.reads.length_le
  have hrefreshes := hb.refreshes
  omega

/-- The report of an invocation counts the reads and the refreshes. They are too few for the sum
to begin again. -/
theorem attempts_of_invoke {report : Report} (ht : (invoke cfg).Yields t (some report)) :
    report.attempts = (pick Entry.read? t).length + (pick Entry.refresh? t).length := by
  have hcalls := (bounded_of_invoke ht).calls_le
  have hlimit : cfg.retry.attemptLimit ≤ 3 := cfg.retry.attemptLimit_le
  have hfew : (pick Entry.read? t).length + (pick Entry.refresh? t).length < UInt32.size := by
    have hsize : UInt32.size = 4294967296 := rfl
    omega
  obtain ⟨now, u, rfl, ⟨-, hnone⟩ | ⟨d, y, hu, hy⟩⟩ := of_invoke ht
  · cases hnone
  obtain ⟨y, rfl, rfl⟩ := Option.map_eq_some_iff.mp hy.symm
  have hread : pick Entry.read? (u.filter (·.tally?.isNone)) = pick Entry.read? u :=
    pick_untallied fun _ _ => rfl
  have hrefresh : pick Entry.refresh? (u.filter (·.tally?.isNone)) = pick Entry.refresh? u :=
    pick_untallied fun _ _ => rfl
  have hattempts (n : Nat) : (Report.ofResult y n).attempts = n := by
    cases y <;> rfl
  rw [pick_cons, pick_cons, hread, hrefresh] at hfew ⊢
  rw [hattempts, hu.tallied]
  exact UInt32.toNat_ofNat_of_lt' hfew

/-- What a run asks of others is bounded, whoever answers it and however: so is what a whole
invocation asks, and the attempts in its report are its reads and refreshes, which are at most
four times as many as its policy allows attempts of one operation. -/
theorem bounded_effects {World : Type} {Answers : World → Entry Custody → World → Prop}
    {w w' : World} :
    (∀ {d : Deadline} {p : Program Custody (Except Error Outcome)},
      Course Answers w (obtainBy cfg d) t w' p → Bounded cfg t) ∧
    ∀ {p : Program Custody Report}, Course Answers w (invoke cfg) t w' p → Bounded cfg t ∧
      ∀ report, p = .done report →
        report.attempts = (pick Entry.read? t).length + (pick Entry.refresh? t).length ∧
          report.attempts ≤ 4 * cfg.retry.attemptLimit := by
  constructor
  · intro d p hc
    obtain ⟨u, x, -, hyields⟩ := hc.exists_yields Custody.nonempty_reply
    exact (of_obtainBy hyields).bounded.of_append
  · intro p hc
    obtain ⟨u, x, -, hyields⟩ := hc.exists_yields Custody.nonempty_reply
    have hbounded := (bounded_of_invoke hyields).of_append
    refine ⟨hbounded, ?_⟩
    rintro report rfl
    have hattempts := attempts_of_invoke hc.yields_done
    exact ⟨hattempts, hattempts ▸ hbounded.calls_le⟩

end Runs

namespace Sample

/-- What an invocation sees that refreshes its record. -/
def invoked : List (Entry Custody) :=
  .asked .timer .zero :: seenToEnd.filter (·.tally?.isNone)

theorem exists_obtained : ∃ p, seenToEnd.foldlM Program.advance
    (obtainBy .default ⟨.ofSeconds 50⟩) = some p :=
  Option.isSome_iff_exists.mp (by decide +kernel)

theorem exists_report :
    ∃ report, invoked.foldlM Program.advance (invoke .default) = some (.done report) := by
  have h : ((invoked.foldlM Program.advance (invoke .default)).bind
      Program.result?).isSome = true := by
    decide +kernel
  obtain ⟨report, hreport⟩ := Option.isSome_iff_exists.mp h
  obtain ⟨p, hp, hr⟩ := Option.bind_eq_some_iff.mp hreport
  exact ⟨report, by rw [hp, Program.eq_done_of_result hr]⟩

theorem answeredInvoked : Answered MemoryStore.Answers (.seeded base) invoked renewed :=
  ⟨_, .asked .., _, .read, _, .asked .., _, .asked .., _, .asked .., _, .refresh ..,
    _, .asked .., _, written, _, .asked .., rfl⟩

end Sample

/-- The plainest run that writes asks for three things, with and without a report. -/
theorem bounded_effects_of_sample :
    Bounded .default Sample.seenToEnd ∧ Bounded .default Sample.invoked ∧
      ∃ report : Report, Course MemoryStore.Answers (.seeded Sample.base) (invoke .default)
        Sample.invoked Sample.renewed (.done report) ∧ report.attempts = 2 := by
  obtain ⟨p, hp⟩ := Sample.exists_obtained
  obtain ⟨report, hreport⟩ := Sample.exists_report
  have hobtained := Course.append .start Sample.answeredToEnd hp
  have hinvoked := Course.append .start Sample.answeredInvoked hreport
  obtain ⟨hbounded, hreports⟩ := bounded_effects.2 hinvoked
  refine ⟨bounded_effects.1 hobtained, hbounded, report, hinvoked, ?_⟩
  rw [(hreports report rfl).1]
  rfl

end TokenCustody.Coordination
