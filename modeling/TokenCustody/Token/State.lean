/-
TokenCustody.Token.State — what the clock and the last call say about a
record.

The states of an unfaulted record follow each other in time, with
half-open boundaries: valid until the refresh threshold before its
expiry, then expiring soon, then expired but refreshable, then expired
for good. A fault, or a rejection by a real call, overrides all times.
-/
import TokenCustody.Token.Record

namespace TokenCustody

open TokenCustody.Time

/-- What a credential can be used for. -/
inductive TokenState where
  /-- Nothing was ever stored. -/
  | uninitialized
  /-- The access token lives longer than the threshold. -/
  | valid
  /-- The access token still lives, but not longer than the threshold. -/
  | expiringSoon
  /-- The access token has expired, the refresh token has not. -/
  | expiredRefreshable
  /-- The refresh token has expired. -/
  | expiredUnrefreshable
  /-- The credential was refused. -/
  | invalid
  deriving DecidableEq

namespace TokenState

/-- The name of a state in reports. -/
def name : TokenState → String
  | .uninitialized => "uninitialized"
  | .valid => "valid"
  | .expiringSoon => "expiring_soon"
  | .expiredRefreshable => "expired_refreshable"
  | .expiredUnrefreshable => "expired_unrefreshable"
  | .invalid => "invalid"

/-- Whether only a human can lead out of the state. -/
def isTerminal (s : TokenState) : Bool := s = .expiredUnrefreshable ∨ s = .invalid

/-- Whether a refresh is due. -/
def needsRefresh (s : TokenState) : Bool := s = .expiringSoon ∨ s = .expiredRefreshable

/-- Whether the access token can be presented right now. -/
def isUsable (s : TokenState) : Bool := s = .valid ∨ s = .expiringSoon

end TokenState

/-- What the last real call said about the access token. -/
inductive ApiOutcome where
  | notObserved
  | accepted
  | rejected (reason : String)
  deriving DecidableEq

/-- Whether the call was turned away. -/
def ApiOutcome.isRejection : ApiOutcome → Bool
  | .rejected _ => true
  | _ => false

/-- The threshold used when none is configured. -/
def defaultThreshold : Span := Span.ofSeconds 300

/-- The state of a record at an instant. There is none when the threshold before the
expiry lies beyond the calendar and the clock alone does not decide. -/
def Record.stateAt (threshold : Span) (r : Record) (now : Instant) (api : ApiOutcome) :
    Option TokenState :=
  if r.fault.isSome ∨ api.isRejection then some .invalid
  else if r.refreshExpiresAt ≤ now then some .expiredUnrefreshable
  else if r.expiresAt ≤ now then some .expiredRefreshable
  else (r.expiresAt.sub threshold).map fun due => if due ≤ now then .expiringSoon else .valid

/-- The state of what the store holds. -/
def stateOf (threshold : Span) (r : Option Record) (now : Instant) (api : ApiOutcome) :
    Option TokenState :=
  match r with
  | none => some .uninitialized
  | some r => r.stateAt threshold now api

end TokenCustody
