/-
TokenCustody.Authorization.Session — one authorization by a human.

A session is made when a human is sent to the provider and lives until
the browser comes back, or too long. The random text in it, which the
browser carries there and back, tells whether an answer belongs to it.
-/
import TokenCustody.Text.Base64
import TokenCustody.Time.Instant

namespace TokenCustody

open TokenCustody.Text
open TokenCustody.Time

/-- How far an authorization has come. -/
inductive SessionPhase where
  | created
  /-- The human has been sent to the provider. -/
  | awaitingCallback
  /-- The code has been traded for a grant. -/
  | exchanged
  /-- The record is stored. -/
  | persisted
  deriving DecidableEq

/-- The name of a phase. -/
def SessionPhase.name : SessionPhase → String
  | .created => "created"
  | .awaitingCallback => "awaiting_callback"
  | .exchanged => "exchanged"
  | .persisted => "persisted"

/-- One authorization by a human. -/
structure Session where
  nonce : String
  redirectUri : String
  createdAt : Instant
  expiresAt : Instant
  phase : SessionPhase
  deriving DecidableEq

namespace Session

/-- A session that lives for a while, if the calendar reaches so far. -/
def new (nonce redirectUri : String) (createdAt : Instant) (lifetime : Span) : Option Session :=
  (createdAt.add lifetime).map fun expiresAt =>
    { nonce, redirectUri, createdAt, expiresAt, phase := .created }

/-- Whether the session is over. -/
def isExpired (s : Session) (now : Instant) : Bool := s.expiresAt ≤ now

/-- Whether a text that came back is the one that was sent. -/
def matchesState (s : Session) (received : String) : Bool := s.nonce = received

end Session

/-- How many random bytes a session is told by. -/
def nonceBytes : Nat := 32

/-- The text for random bytes; it stands in a URL as it is. -/
def nonceOfBytes (bytes : List UInt8) : String := String.ofList (Base64.encode .urlSafe bytes)

end TokenCustody
