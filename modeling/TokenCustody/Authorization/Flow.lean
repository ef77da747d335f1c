/-
TokenCustody.Authorization.Flow — a new credential from a human.

`begin` makes a session and the address for the browser. `complete` is
given what the browser brought back, checks that it belongs to the
session and is in time, trades the code for a grant and stores the first
record of a new credential over whatever is there.

Nothing is sent before every check has passed, and nothing is stored
before there is a sound record. A session is spent by `complete` whether
it succeeds or not.
-/
import TokenCustody.Authorization.Callback
import TokenCustody.Authorization.Session
import TokenCustody.Custody
import TokenCustody.Settings

namespace TokenCustody

open TokenCustody.Time

namespace Authorization

variable {S : Service}

/-- A new session and the address that the human opens. -/
def begin (cfg : Settings) (authorizationUrl : String → Except Error String)
    (redirectUri : String) : Program S (Except Error (Session × String)) := do
  let nonce := nonceOfBytes (← Program.bytes nonceBytes)
  let session ← Program.orHalt (Session.new nonce redirectUri (← Program.now) cfg.sessionLifetime)
  match authorizationUrl nonce with
  | .error e => return .error e
  | .ok url => return .ok ({ session with phase := .awaitingCallback }, url)

/-- The code of an answer, if the answer belongs to a session. -/
def acceptedState (s : Session) (c : Callback) : Except Error (Option String) :=
  let received := c.state.getD ""
  if s.phase ≠ .awaitingCallback then .error (.authorization (.unexpectedPhase s.phase.name))
  else if c.isError then .error (.authorization (.denied c.errorDescription c.errorUri))
  else if !s.matchesState received then
    .error (.authorization (.stateMismatch s.nonce received))
  else .ok c.code

/-- The code of an answer that belongs to a session and came in time. -/
def acceptedCode (s : Session) (c : Callback) (now : Instant) : Except Error String := do
  let code ← acceptedState s c
  if s.isExpired now then
    throw (.authorization (.expiredCode "authorization session expired before the callback"))
  match code.filter (· ≠ "") with
  | some code => return code
  | none => throw (.authorization .missingCode)

/-- Stores the first record of a credential. -/
def storeFirst (r : Record) : Program Custody (Except Error Record) := do
  match ← Custody.write r .always with
  | .error e => return .error e
  | .ok v =>
    Program.emit .authorizationStored
    return .ok (r.withVersion v)

/-- Ends a session with what the browser brought back. -/
def complete (cfg : Settings) (s : Session) (c : Callback) :
    Program Custody (Except Error Record) := do
  match acceptedCode s c (← Program.now) with
  | .error e => return .error e
  | .ok code =>
    match ← Custody.exchange code s.redirectUri with
    | .error e => return .error e
    | .ok grant =>
      match ← Program.orHalt (grant.firstRecord cfg.refreshLifetime) with
      | .error e => return .error e
      | .ok r => storeFirst r

/-- Ends a session with the address that the browser was sent to. -/
def completeAt (cfg : Settings) (s : Session) (address : String) :
    Program Custody (Except Error Record) := do
  match Callback.ofAddress address with
  | .ok c => complete cfg s c
  | .error e =>
    return .error (.protocol (.invalidResponse ("invalid redirect URL: " ++ e.message)))

end Authorization

end TokenCustody
