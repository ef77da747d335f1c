/-
TokenCustody.Coordination — runs that share one credential.

`obtain` turns what the store holds into a usable access token and
refreshes it if that is due, at most once. Any number of runs may do so
at the same time. They meet only in the store: a write is conditioned on
the version that was read, so of several refreshed records one gets in,
and whoever comes too late looks again and uses what is there.

One case needs more. A provider that issues every refresh token for one
use refuses the slower of two runs, and that run may mark the record as
faulted BEFORE the faster one has stored its new grant. The faster run
then finds a fault that its own refresh brought about. It recognizes it
(`isOwnShadow`) and stores its grant over it, once; otherwise the only
live refresh token would be lost.

`reportRejection` is the other way into a fault: a real call was turned
away. `inspect` only looks.
-/
import TokenCustody.Custody
import TokenCustody.Outcome
import TokenCustody.Retry.Executor
import TokenCustody.Settings

namespace TokenCustody

open TokenCustody.Time

namespace Coordination

/-! ## Parts -/

/-- The outcome that calls a human, counted. -/
def callHuman (why : Reason) : Program Custody Outcome := do
  Program.emit (.authorizationNeeded why.name)
  return .needsAuthorization why

/-- Whether enough time is left to begin a write. A lack of time is counted. -/
def ensureBudget (cfg : Settings) (deadline : Deadline) (stage : String) :
    Program Custody (Except Error Unit) := do
  if ← deadline.hasAtLeast cfg.writeGuard then return .ok ()
  else
    let e : Error := .cancelled (.budgetExhausted stage)
    Program.emit (.error e.code)
    return .error e

/-- What the store holds. -/
def readStore (cfg : Settings) (deadline : Deadline) :
    Program Custody (Except Error (Option Record)) :=
  withRetries cfg.retry deadline Custody.read

/-- The state right now of what the store holds. -/
def assess (cfg : Settings) (r : Option Record) : Program Custody TokenState := do
  Program.orHalt (stateOf cfg.refreshThreshold r (← Program.now) .notObserved)

/-- Looks again after a write that came too late. -/
def lookAgain (cfg : Settings) (deadline : Deadline) :
    Program Custody (Except Error (Option Record × TokenState)) := do
  match ← readStore cfg deadline with
  | .error e => return .error e
  | .ok r => return .ok (r, ← assess cfg r)

/-- What it means for a run to find this after a write that came too late. A record that
would have to be refreshed means nothing. -/
def adopt : Option Record → TokenState → Program Custody (Option Outcome)
  | none, _ => return some (← callHuman .noRecord)
  | some r, .valid | some r, .expiringSoon => return some (.refreshedByPeer r)
  | some r, .invalid => return some (← callHuman (.ofFault r))
  | some _, .expiredUnrefreshable => return some (← callHuman .refreshTokenExpired)
  | some _, .expiredRefreshable | some _, .uninitialized => return none

/-- The outcome of a run that looked again, or the error of the write that failed. -/
def adoptOr (e : Error) (r : Option Record) (s : TokenState) :
    Program Custody (Except Error Outcome) := do
  match ← adopt r s with
  | some outcome => return .ok outcome
  | none => return .error e

/-- Counts a refresh that failed, and why. -/
def refreshFailed (e : Error) : Program Custody (Except Error Outcome) := do
  Program.emit (.refresh false)
  Program.emit (.error e.code)
  return .error e

/-- Whether `found` is `base` with the fault that a refused refresh leaves behind: the
same refresh token of the same generation. -/
def isOwnShadow (base found : Record) : Bool :=
  found.fault.any (fun f => f.kind = .invalidGrant ∨ f.kind = .invalidToken) &&
    found.refreshCount = base.refreshCount && found.refreshToken = base.refreshToken

/-- The kind of fault that a refusal by the provider means. -/
def faultKindOf : Error → FaultKind
  | .provider (.invalidToken _) => .invalidToken
  | _ => .invalidGrant

/-! ## Writes -/

/-- Stores a refreshed record over a fault that this run's own refresh brought about. -/
def replaceShadow (cfg : Settings) (deadline : Deadline) (next shadow : Record) :
    Program Custody (Except Error Outcome) := do
  match ← ensureBudget cfg deadline "refresh write" with
  | .error e => return .error e
  | .ok () =>
    match ← Custody.write next (.replacing shadow) with
    | .ok v =>
      Program.emit (.refresh true)
      return .ok (.refreshed (next.withVersion v))
    | .error e =>
      if e.isConflict then
        Program.emit .conflict
        match ← lookAgain cfg deadline with
        | .error e => return .error e
        | .ok (found, state) => adoptOr e found state
      else refreshFailed e

/-- Stores a refreshed record in place of the one it was made from. -/
def storeRefreshed (cfg : Settings) (deadline : Deadline) (base next : Record) :
    Program Custody (Except Error Outcome) := do
  match ← ensureBudget cfg deadline "refresh write" with
  | .error e => return .error e
  | .ok () =>
    match ← Custody.write next (.replacing base) with
    | .ok v =>
      Program.emit (.refresh true)
      return .ok (.refreshed (next.withVersion v))
    | .error e =>
      if e.isConflict then
        Program.emit .conflict
        match ← lookAgain cfg deadline with
        | .error e => return .error e
        | .ok (found, state) =>
          match found.filter (isOwnShadow base) with
          | some shadow => replaceShadow cfg deadline next shadow
          | none => adoptOr e found state
      else refreshFailed e

/-- Stores that the provider refused the refresh token. The human is called whether or
not that succeeds, unless another run has stored something better. -/
def storeFault (cfg : Settings) (deadline : Deadline) (base : Record) (fault : Fault)
    (why : Reason) : Program Custody (Except Error Outcome) := do
  match ← ensureBudget cfg deadline "fault annotation" with
  | .error _ => return .ok (← callHuman why)
  | .ok () =>
    match ← Custody.write (base.withFault fault) (.replacing base) with
    | .ok _ => return .ok (← callHuman why)
    | .error e =>
      if e.isConflict then
        Program.emit .conflict
        match ← lookAgain cfg deadline with
        | .error e => return .error e
        | .ok (found, state) =>
          match ← adopt found state with
          | some outcome => return .ok outcome
          | none => return .ok (← callHuman why)
      else
        Program.emit (.error e.code)
        return .ok (← callHuman why)

/-! ## Runs -/

/-- Refreshes a record and stores the result. -/
def refresh (cfg : Settings) (deadline : Deadline) (base : Record) :
    Program Custody (Except Error Outcome) := do
  Program.emit .refreshAttempt
  match ← withRetries cfg.retry deadline (Custody.refresh base.refreshToken) with
  | .ok grant =>
    match ← Program.orHalt (base.successor grant cfg.refreshLifetime) with
    | .error e => return .error e
    | .ok next => storeRefreshed cfg deadline base next
  | .error e =>
    if e.needsHuman then
      Program.emit (.refresh false)
      let fault : Fault := ⟨faultKindOf e, e.message, ← Program.now⟩
      storeFault cfg deadline base fault (.refreshRejected e.message)
    else refreshFailed e

/-- Obtains a usable access token before a deadline. -/
def obtainBy (cfg : Settings) (deadline : Deadline) :
    Program Custody (Except Error Outcome) := do
  match ← readStore cfg deadline with
  | .error e => return .error e
  | .ok none =>
    Program.emit (.state TokenState.uninitialized.name)
    return .ok (← callHuman .noRecord)
  | .ok (some r) =>
    let state ← assess cfg (some r)
    Program.emit (.state state.name)
    match state with
    | .valid => return .ok (.unchanged r)
    | .expiringSoon | .expiredRefreshable => refresh cfg deadline r
    | .expiredUnrefreshable => return .ok (← callHuman .refreshTokenExpired)
    | .invalid => return .ok (← callHuman (.ofFault r))
    | .uninitialized => return .ok (← callHuman .noRecord)

/-- Obtains a usable access token within the budget of an invocation. -/
def obtain (cfg : Settings) : Program Custody (Except Error Outcome) := do
  obtainBy cfg (← Deadline.after cfg.budget)

/-- Stores that a call with the access token of `used` was turned away. If something else
is stored by now, the rejection says nothing about it. -/
def reportRejection (cfg : Settings) (used : Record) (why : String) :
    Program Custody (Except Error Outcome) := do
  match used.version with
  | none => return .error (.store .missingVersion)
  | some version =>
    if used.fault.isSome then return .ok (← callHuman (.ofFault used))
    else
      let deadline ← Deadline.after cfg.budget
      match ← ensureBudget cfg deadline "rejection annotation" with
      | .error e => return .error e
      | .ok () =>
        let fault : Fault := ⟨.apiRejected, why, ← Program.now⟩
        match ← Custody.write (used.withFault fault) (.holds version) with
        | .ok _ => return .ok (← callHuman (.invalid why))
        | .error e =>
          if e.isConflict then
            Program.emit .conflict
            match ← lookAgain cfg deadline with
            | .error e => return .error e
            | .ok (found, state) => adoptOr e found state
          else
            Program.emit (.error e.code)
            return .error e

/-- What the store holds, and its state. -/
def inspect (cfg : Settings) : Program Custody (Except Error (Option Record × TokenState)) := do
  lookAgain cfg (← Deadline.after cfg.budget)

end Coordination

end TokenCustody
