/-
TokenCustody.Proofs.Coordination.Renaming — runs over renamed records.

A run hands tokens from the store to the provider and back, and compares
them only to see whether a fault is its own shadow. So a run over renamed
records, whose calls are answered with renamed records and grants, makes
the renamed calls: the two run in parallel (`Program.Parallel`), up to the
names in their outcomes.

There is one lemma per function of the coordination. The only one in which
names matter is `isOwnShadow_record`, and that is where a renaming has to
be injective. What is reported of an outcome does not hold any name, so
two invocations in parallel end in the same report
(`invocation_parallel`), and two looks at the store in the same words
(`lookAt_parallel`, `Renaming.toJson_status`).
-/
import TokenCustody.Proofs.Program.Parallel
import TokenCustody.Proofs.Token.Renaming
import TokenCustody.Report

namespace TokenCustody

open TokenCustody.Time

namespace Renaming

variable (ρ : Renaming)

/-! ## Calls and outcomes -/

/-- Calls with renamed tokens, and the replies to them. -/
def custody : Translation Custody where
  request
    | .read => .read
    | .write r c => .write (ρ.record r) c
    | .refresh token => .refresh (ρ token)
    | .exchange code uri => .exchange code uri
  reply
    | .read => Except.map (Option.map ρ.record)
    | .write _ _ => id
    | .refresh _ => Except.map ρ.grant
    | .exchange _ _ => Except.map ρ.grant

/-- The outcome with the tokens of its record renamed. -/
def outcome : Outcome → Outcome
  | .unchanged r => .unchanged (ρ.record r)
  | .refreshed r => .refreshed (ρ.record r)
  | .refreshedByPeer r => .refreshedByPeer (ρ.record r)
  | .needsAuthorization why => .needsAuthorization why

/-- The status with the tokens of its record renamed. -/
def status (s : StatusReport) : StatusReport := { s with record := s.record.map ρ.record }

/-- A report tells nothing of the names. -/
theorem ofResult_outcome (x : Except Error Outcome) (attempts : Nat) :
    Report.ofResult (x.map ρ.outcome) attempts = Report.ofResult x attempts := by
  cases x with
  | error e => rfl
  | ok o => cases o <;> rfl

/-- A status report tells nothing of the names. -/
theorem toJson_status (s : StatusReport) : (ρ.status s).toJson = s.toJson := by
  obtain ⟨state, _ | r⟩ := s <;> rfl

/-- A status report shows no tokens. -/
theorem map_toJson_status (x : Except Error StatusReport) :
    (x.map ρ.status).map StatusReport.toJson = x.map StatusReport.toJson := by
  cases x with
  | error e => rfl
  | ok s => exact congrArg Except.ok (ρ.toJson_status s)

end Renaming

namespace Coordination

open Program (Parallel)

variable (ρ : Renaming)

/-! ## Parts -/

/-- A fault is a run's own shadow under any names, because the tokens of the two records are
the same ones exactly if their names are. -/
theorem isOwnShadow_record (base found : Record) :
    isOwnShadow (ρ.record base) (ρ.record found) = isOwnShadow base found :=
  congrArg (_ && ·) (decide_eq_decide.mpr ρ.apply_eq_apply_iff)

/-- Nothing that is counted names a token. -/
theorem callHuman_parallel (why : Reason) :
    Parallel ρ.custody ρ.outcome (callHuman why) (callHuman why) :=
  .bind (.asking (.emit _)) fun _ => .pure _ rfl

/-- A run that ends by calling a human. -/
theorem callingHuman_parallel (why : Reason) :
    Parallel ρ.custody (Except.map ρ.outcome)
      (do return .ok (← callHuman why) : Program Custody (Except Error Outcome))
      (do return .ok (← callHuman why)) :=
  .bind (callHuman_parallel ρ why) fun _ => .pure _ rfl

theorem ensureBudget_parallel (cfg : Settings) (d : Deadline) (stage : String) :
    Parallel ρ.custody id (ensureBudget cfg d stage) (ensureBudget cfg d stage) := by
  refine .bind (.hasAtLeast d _) fun fits => ?_
  cases fits with
  | true => exact .pure _ rfl
  | false => exact .bind (.asking (.emit _)) fun _ => .pure _ rfl

/-- The record that is read is renamed, and what is done to read it is not. -/
theorem readStore_parallel (cfg : Settings) (d : Deadline) :
    Parallel ρ.custody (Except.map (Option.map ρ.record)) (readStore cfg d) (readStore cfg d) :=
  .withRetries _ d (.calling (S := Custody) .read)

/-- The state of a record is that of the renamed one. -/
theorem assess_parallel (cfg : Settings) (r : Option Record) :
    Parallel ρ.custody id (assess cfg r) (assess cfg (r.map ρ.record)) := by
  refine .bind (.asking .now) fun now => .orHalt ?_
  rw [Option.map_id, id, ρ.stateOf_map_record]
  rfl

theorem lookAgain_parallel (cfg : Settings) (d : Deadline) :
    Parallel ρ.custody (Except.map (Prod.map (Option.map ρ.record) id)) (lookAgain cfg d)
      (lookAgain cfg d) := by
  refine .bind (readStore_parallel ρ cfg d) fun x => ?_
  cases x with
  | error e => exact .pure _ rfl
  | ok r => exact .bind (assess_parallel ρ cfg r) fun _ => .pure _ rfl

/-- What is taken over from others is renamed. -/
theorem adopt_parallel (r : Option Record) (s : TokenState) :
    Parallel ρ.custody (Option.map ρ.outcome) (adopt r s) (adopt (r.map ρ.record) s) := by
  have hcall (why : Reason) : Parallel ρ.custody (Option.map ρ.outcome)
      (do return some (← callHuman why)) (do return some (← callHuman why)) :=
    .bind (callHuman_parallel ρ why) fun _ => .pure _ rfl
  cases r with
  | none => exact hcall _
  | some r =>
    cases s with
    | valid | expiringSoon | expiredRefreshable | uninitialized => exact .pure _ rfl
    | invalid | expiredUnrefreshable => exact hcall _

theorem adoptOr_parallel (e : Error) (r : Option Record) (s : TokenState) :
    Parallel ρ.custody (Except.map ρ.outcome) (adoptOr e r s) (adoptOr e (r.map ρ.record) s) := by
  refine .bind (adopt_parallel ρ r s) fun x => ?_
  cases x <;> exact .pure _ rfl

theorem refreshFailed_parallel (e : Error) :
    Parallel ρ.custody (Except.map ρ.outcome) (refreshFailed e) (refreshFailed e) :=
  .bind (.asking (.emit _)) fun _ => .bind (.asking (.emit _)) fun _ => .pure _ rfl

/-! ## Writes -/

/-- After a write that came too late both look again, and go on from what they have found. -/
theorem tooLate_parallel (cfg : Settings) (d : Deadline)
    {next next' : Option Record → TokenState → Program Custody (Except Error Outcome)}
    (h : ∀ r s, Parallel ρ.custody (Except.map ρ.outcome) (next r s)
      (next' (r.map ρ.record) s)) :
    Parallel ρ.custody (Except.map ρ.outcome)
      (do
        Program.emit .conflict
        match ← lookAgain cfg d with
        | .error e => return .error e
        | .ok (r, s) => next r s)
      (do
        Program.emit .conflict
        match ← lookAgain cfg d with
        | .error e => return .error e
        | .ok (r, s) => next' r s) := by
  refine .bind (.asking (.emit _)) fun _ => .bind (lookAgain_parallel ρ cfg d) fun x => ?_
  cases x with
  | error e => exact .pure _ rfl
  | ok p => exact h p.1 p.2

/-- Both store a refreshed record. If that comes too late, `rest` is what follows when they have
looked again. -/
theorem store_parallel (cfg : Settings) (d : Deadline) (next : Record) (c : WriteCondition)
    {rest rest' : Error → Option Record → TokenState → Program Custody (Except Error Outcome)}
    (h : ∀ e r s, Parallel ρ.custody (Except.map ρ.outcome) (rest e r s)
      (rest' e (r.map ρ.record) s)) :
    Parallel ρ.custody (Except.map ρ.outcome)
      (do
        match ← ensureBudget cfg d "refresh write" with
        | .error e => return .error e
        | .ok () =>
          match ← Custody.write next c with
          | .ok v =>
            Program.emit (.refresh true)
            return .ok (.refreshed (next.withVersion v))
          | .error e =>
            if e.isConflict then
              Program.emit .conflict
              match ← lookAgain cfg d with
              | .error e => return .error e
              | .ok (r, s) => rest e r s
            else refreshFailed e)
      (do
        match ← ensureBudget cfg d "refresh write" with
        | .error e => return .error e
        | .ok () =>
          match ← Custody.write (ρ.record next) c with
          | .ok v =>
            Program.emit (.refresh true)
            return .ok (.refreshed ((ρ.record next).withVersion v))
          | .error e =>
            if e.isConflict then
              Program.emit .conflict
              match ← lookAgain cfg d with
              | .error e => return .error e
              | .ok (r, s) => rest' e r s
            else refreshFailed e) := by
  refine .bind (ensureBudget_parallel ρ cfg d _) fun x => ?_
  cases x with
  | error e => exact .pure _ rfl
  | ok =>
    refine .bind (.calling (S := Custody) (.write next c)) fun x => ?_
    cases x with
    | ok v => exact .bind (.asking (.emit _)) fun _ => .pure _ rfl
    | error e =>
      dsimp only [Renaming.custody, id]
      split
      · exact tooLate_parallel ρ cfg d (h e)
      · exact refreshFailed_parallel ρ e

/-- The write over the own shadow is made with the renamed record, on the same condition. -/
theorem replaceShadow_parallel (cfg : Settings) (d : Deadline) (next shadow : Record) :
    Parallel ρ.custody (Except.map ρ.outcome) (replaceShadow cfg d next shadow)
      (replaceShadow cfg d (ρ.record next) (ρ.record shadow)) :=
  store_parallel ρ cfg d next (.replacing shadow) (adoptOr_parallel ρ)

/-- A shadow is found under other names where it was found. -/
theorem filter_isOwnShadow_map_record (base : Record) (r : Option Record) :
    (r.map ρ.record).filter (isOwnShadow (ρ.record base)) =
      (r.filter (isOwnShadow base)).map ρ.record := by
  cases r with
  | none => rfl
  | some r =>
    rw [Option.map_some, Option.filter_some, Option.filter_some, isOwnShadow_record]
    split <;> rfl

/-- The write of the successor is made with the renamed record, too, and what follows if it came
too late is done with the renamed shadow. -/
theorem storeRefreshed_parallel (cfg : Settings) (d : Deadline) (base next : Record) :
    Parallel ρ.custody (Except.map ρ.outcome) (storeRefreshed cfg d base next)
      (storeRefreshed cfg d (ρ.record base) (ρ.record next)) := by
  refine store_parallel ρ cfg d next (.replacing base) fun e found s => ?_
  rw [filter_isOwnShadow_map_record]
  cases found.filter (isOwnShadow base) with
  | none => exact adoptOr_parallel ρ e found s
  | some shadow => exact replaceShadow_parallel ρ cfg d next shadow

/-- A fault is noted on the renamed record, and what is noted stays the same. -/
theorem storeFault_parallel (cfg : Settings) (d : Deadline) (base : Record) (fault : Fault)
    (why : Reason) :
    Parallel ρ.custody (Except.map ρ.outcome) (storeFault cfg d base fault why)
      (storeFault cfg d (ρ.record base) fault why) := by
  have hcall := callingHuman_parallel ρ why
  refine .bind (ensureBudget_parallel ρ cfg d _) fun x => ?_
  cases x with
  | error e => exact hcall
  | ok =>
    dsimp only [id]
    rw [ρ.withFault_record]
    refine .bind (.calling (S := Custody) (.write (base.withFault fault) _)) fun x => ?_
    cases x with
    | ok v => exact hcall
    | error e =>
      dsimp only [Renaming.custody, id]
      split
      · refine tooLate_parallel ρ cfg d fun found s => .bind (adopt_parallel ρ found s) fun x => ?_
        cases x with
        | none => exact hcall
        | some out => exact .pure _ rfl
      · exact .bind (.asking (.emit _)) fun _ => hcall

/-! ## Runs -/

/-- A refresh asks with the renamed token and makes the renamed successor. -/
theorem refresh_parallel (cfg : Settings) (d : Deadline) (base : Record) :
    Parallel ρ.custody (Except.map ρ.outcome) (refresh cfg d base)
      (refresh cfg d (ρ.record base)) := by
  have hcall := Parallel.calling (T := ρ.custody) (.refresh base.refreshToken)
  refine .bind (.asking (.emit _)) fun _ => .bind (.withRetries cfg.retry d hcall) fun x => ?_
  cases x with
  | ok g =>
    refine .bind (.orHalt (ρ.successor_record base g _)) fun x => ?_
    cases x with
    | error e => exact .pure _ rfl
    | ok next => exact storeRefreshed_parallel ρ cfg d base next
  | error e =>
    dsimp only [Except.map]
    split
    · exact .bind (.asking (.emit _)) fun _ => .bind (.asking .now) fun t =>
        storeFault_parallel ρ cfg d base _ _
    · exact refreshFailed_parallel ρ e

theorem obtainBy_parallel (cfg : Settings) (d : Deadline) :
    Parallel ρ.custody (Except.map ρ.outcome) (obtainBy cfg d) (obtainBy cfg d) := by
  refine .bind (readStore_parallel ρ cfg d) fun x => ?_
  match x with
  | .error e => exact .pure _ rfl
  | .ok none => exact .bind (.asking (.emit _)) fun _ => callingHuman_parallel ρ _
  | .ok (some r) =>
    refine .bind (assess_parallel ρ cfg (some r)) fun s => .bind (.asking (.emit _)) fun _ => ?_
    cases s with
    | valid => exact .pure _ rfl
    | expiringSoon | expiredRefreshable => exact refresh_parallel ρ cfg d r
    | expiredUnrefreshable | invalid | uninitialized => exact callingHuman_parallel ρ _

theorem inspect_parallel (cfg : Settings) :
    Parallel ρ.custody (Except.map (Prod.map (Option.map ρ.record) id)) (inspect cfg)
      (inspect cfg) :=
  .bind (.after _) fun d => lookAgain_parallel ρ cfg d

end Coordination

/-! ## Invocations -/

open Program (Parallel)

/-- An invocation, with the sums of its retry executor. They are there even if the invocation
ends without a report. -/
def invocation (cfg : Settings) : Program Custody (Option Report × RetryStats) := do
  let deadline ← Deadline.after cfg.budget
  let (result, stats) ← (Coordination.obtainBy cfg deadline).counting .zero
  return (result.map (Report.ofResult · stats.attempts.toNat), stats)

/-- The report of an invocation is the one with which it ends. -/
theorem invoke_eq (cfg : Settings) :
    invoke cfg = invocation cfg >>= fun p => Program.orHalt p.1 := by
  unfold invoke invocation
  rw [bind_assoc]
  refine congrArg _ (funext fun d => ?_)
  rw [bind_assoc]
  refine congrArg _ (funext fun p => ?_)
  obtain ⟨_ | x, stats⟩ := p <;> rfl

variable (ρ : Renaming)

/-- Invocations in parallel come to the same report and the same sums. -/
theorem invocation_parallel (cfg : Settings) :
    Parallel ρ.custody id (invocation cfg) (invocation cfg) := by
  refine .bind (.after _) fun d =>
    .bind ((Coordination.obtainBy_parallel ρ cfg d).counting .zero) fun p => ?_
  obtain ⟨_ | x, stats⟩ := p
  · exact .pure _ rfl
  · refine .pure _ ?_
    simp only [Option.map_some, id, ρ.ofResult_outcome]

/-- The report of an invocation shows no tokens. -/
theorem invoke_parallel (cfg : Settings) : Parallel ρ.custody id (invoke cfg) (invoke cfg) := by
  rw [invoke_eq]
  exact .bind (invocation_parallel ρ cfg) fun p => .orHalt (by simp)

theorem lookAt_parallel (cfg : Settings) :
    Parallel ρ.custody (Except.map ρ.status) (lookAt cfg) (lookAt cfg) := by
  refine .bind (Coordination.inspect_parallel ρ cfg) fun x => ?_
  cases x <;> exact .pure _ rfl

end TokenCustody
