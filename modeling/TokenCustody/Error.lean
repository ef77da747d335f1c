/-
TokenCustody.Error — what can go wrong, and what it means for the caller.

Errors are grouped by where they come from. Each has one message for
people and one class for programs; the class alone decides whether a
call is retried, whether a human is needed and whether the next run
would fail the same way.
-/
import TokenCustody.Time.Duration

namespace TokenCustody

open TokenCustody.Time

/-! ## The causes -/

/-- The settings cannot be used. -/
inductive ConfigurationError where
  /-- A setting has a value that is not allowed. -/
  | invalid (message : String)
  /-- A setting is not there. -/
  | missing (field : String)
  /-- A setting is no URL, or one that cannot be used. -/
  | endpoint (url : String)
  deriving DecidableEq

/-- The authorization by a human did not come about. -/
inductive AuthorizationError where
  /-- The provider reported an error on the callback. -/
  | denied (description uri : Option String)
  /-- The callback does not belong to the session. -/
  | stateMismatch (expected received : String)
  /-- The code, or the session it was asked for in, is used up. -/
  | expiredCode (message : String)
  /-- The callback carries no code. -/
  | missingCode
  /-- The session does not wait for a callback. -/
  | unexpectedPhase (phase : String)
  deriving DecidableEq

/-- A request brought no usable answer. -/
inductive NetworkError where
  | unreachable (message : String)
  | timeout (limit : Duration)
  | tls (message : String)
  | rateLimited (retryAfter : Option Duration)
  deriving DecidableEq

/-- The store did not do what was asked. -/
inductive StoreError where
  /-- The condition of a write did not hold. -/
  | versionConflict (expected : String)
  | unavailable (status : Nat)
  | readFailed (message : String)
  | writeFailed (message : String)
  | corrupted (message : String)
  | missingVersion
  | permissionDenied (message : String)
  deriving DecidableEq

/-- An answer, or a record, is not as agreed. -/
inductive ProtocolError where
  | invalidResponse (message : String)
  | missingField (field : String)
  | redirect (location : String)
  | tooLarge (size : Nat)
  | invalidJson (message : String)
  | invalidRecord (message : String)
  deriving DecidableEq

/-- The provider refused. -/
inductive ProviderError where
  | invalidClient (description : Option String)
  | invalidGrant (message : String)
  | invalidToken (message : String)
  | invalidRequest (message : String)
  | invalidScope (scope : String)
  | unauthorizedClient (description : Option String)
  | unsupportedGrantType (grantType : String)
  | serverError (message : String)
  | unavailable (retryAfter : Option Duration)
  deriving DecidableEq

/-- The invocation stopped itself. -/
inductive CancellationError where
  /-- Too little of the budget was left to begin this stage. -/
  | budgetExhausted (stage : String)
  deriving DecidableEq

/-- Everything that can go wrong. -/
inductive Error where
  | configuration (e : ConfigurationError)
  | authorization (e : AuthorizationError)
  | network (e : NetworkError)
  | store (e : StoreError)
  | protocol (e : ProtocolError)
  | provider (e : ProviderError)
  | cancelled (e : CancellationError)
  deriving DecidableEq

/-! ## Messages -/

/-- The message without its group. -/
def ConfigurationError.message : ConfigurationError → String
  | .invalid m => "Invalid configuration: " ++ m
  | .missing f => "Missing required field: " ++ f
  | .endpoint u => "Invalid endpoint URL: " ++ u

/-- The message without its group. -/
def AuthorizationError.message : AuthorizationError → String
  | .denied _ _ => "Access denied by user"
  | .stateMismatch _ _ => "State parameter mismatch (possible CSRF attack)"
  | .expiredCode _ => "Authorization code expired or already used"
  | .missingCode => "Missing authorization code in callback"
  | .unexpectedPhase p => "Authorization session is not awaiting a callback (phase: " ++ p ++ ")"

/-- The message without its group. -/
def NetworkError.message : NetworkError → String
  | .unreachable m => "Connection failed: " ++ m
  | .timeout d => "Request timeout after " ++ d.render
  | .tls m => "TLS error: " ++ m
  | .rateLimited d => "Rate limited (retry after " ++ Duration.renderOption d ++ ")"

/-- The message without its group. -/
def StoreError.message : StoreError → String
  | .versionConflict e => "Version conflict (expected " ++ e ++ ")"
  | .unavailable s => "Store unavailable: HTTP " ++ toString s
  | .readFailed m => "Read failed: " ++ m
  | .writeFailed m => "Write failed: " ++ m
  | .corrupted m => "Corrupted data: " ++ m
  | .missingVersion => "Store response carried no version identifier"
  | .permissionDenied m => "Permission denied: " ++ m

/-- The message without its group. -/
def ProtocolError.message : ProtocolError → String
  | .invalidResponse m => "Invalid response: " ++ m
  | .missingField f => "Missing required field: " ++ f
  | .redirect l => "Unexpected redirect to: " ++ l
  | .tooLarge n => "Response too large: " ++ toString n ++ " bytes"
  | .invalidJson m => "Invalid JSON: " ++ m
  | .invalidRecord m => "Token record violates invariants: " ++ m

/-- The message without its group. -/
def ProviderError.message : ProviderError → String
  | .invalidClient _ => "Invalid client credentials"
  | .invalidGrant m => "Invalid grant: " ++ m
  | .invalidToken m => "Invalid token: " ++ m
  | .invalidRequest m => "Invalid request: " ++ m
  | .invalidScope s => "Invalid scope: " ++ s
  | .unauthorizedClient _ => "Unauthorized client for this grant type"
  | .unsupportedGrantType g => "Unsupported grant type: " ++ g
  | .serverError m => "Server error: " ++ m
  | .unavailable _ => "Server temporarily unavailable"

/-- The message without its group. -/
def CancellationError.message : CancellationError → String
  | .budgetExhausted stage => "Invocation budget exhausted before " ++ stage

namespace Error

/-- The message without its group. -/
def detail : Error → String
  | .configuration e => e.message
  | .authorization e => e.message
  | .network e => e.message
  | .store e => e.message
  | .protocol e => e.message
  | .provider e => e.message
  | .cancelled e => e.message

/-- The words that stand before the message of a group. -/
def groupWords : Error → String
  | .configuration _ => "Configuration error"
  | .authorization _ => "Authorization error"
  | .network _ => "Network error"
  | .store _ => "Store error"
  | .protocol _ => "Protocol error"
  | .provider _ => "Provider error"
  | .cancelled _ => "Cancelled"

/-- The message for people. -/
def message (e : Error) : String := e.groupWords ++ ": " ++ e.detail

/-- The code under which an error is counted. -/
def code : Error → String
  | .configuration _ => "TOKEN_CONFIG"
  | .authorization _ => "TOKEN_AUTH"
  | .network _ => "TOKEN_NETWORK"
  | .store _ => "TOKEN_STORE"
  | .protocol _ => "TOKEN_PROTOCOL"
  | .provider _ => "TOKEN_PROVIDER"
  | .cancelled _ => "TOKEN_CANCELLED"

end Error

/-! ## Classes -/

/-- How the caller reacts to an error. -/
inductive ErrorClass where
  /-- A transient failure of a connection or a server. -/
  | network
  /-- A server asked for fewer requests. -/
  | rateLimited
  /-- The provider refused the credential. -/
  | invalidGrant
  /-- A conditional write came too late. -/
  | versionConflict
  /-- An answer or a stored document was not understood. -/
  | malformedResponse
  /-- An authorization code or its session is used up. -/
  | expiredCode
  /-- Everything else. -/
  | fatal
  deriving DecidableEq

/-- The name of a class in reports. -/
def ErrorClass.name : ErrorClass → String
  | .network => "network"
  | .rateLimited => "rate_limited"
  | .invalidGrant => "invalid_grant"
  | .versionConflict => "version_conflict"
  | .malformedResponse => "malformed_response"
  | .expiredCode => "expired_authorization_code"
  | .fatal => "fatal"

namespace Error

/-- The class of an error. -/
def classify : Error → ErrorClass
  | .network (.rateLimited _) => .rateLimited
  | .network (.tls _) => .fatal
  | .network _ => .network
  | .provider (.invalidGrant _) => .invalidGrant
  | .provider (.invalidToken _) => .invalidGrant
  | .provider (.serverError _) => .network
  | .provider (.unavailable _) => .network
  | .provider _ => .fatal
  | .store (.versionConflict _) => .versionConflict
  | .store (.unavailable _) => .network
  | .store (.corrupted _) => .malformedResponse
  | .store .missingVersion => .malformedResponse
  | .store _ => .fatal
  | .protocol _ => .malformedResponse
  | .authorization (.expiredCode _) => .expiredCode
  | .authorization _ => .fatal
  | .configuration _ => .fatal
  | .cancelled _ => .fatal

/-- Whether the same call may succeed a little later. -/
def isRetryable (e : Error) : Bool := e.classify = .network ∨ e.classify = .rateLimited

/-- How long the server asked to wait. -/
def retryAfter : Error → Option Duration
  | .network (.rateLimited d) => d
  | .provider (.unavailable d) => d
  | _ => none

/-- Whether the invocation was stopped for lack of time. -/
def isCancellation : Error → Bool
  | .cancelled _ => true
  | _ => false

/-- Whether the next invocation would fail the same way. A lack of time says nothing
about the next invocation. -/
def isFatal (e : Error) : Bool :=
  (e.classify = .fatal ∨ e.classify = .malformedResponse) && !e.isCancellation

/-- Whether only a new authorization by a human helps. -/
def needsHuman (e : Error) : Bool := e.classify = .invalidGrant ∨ e.classify = .expiredCode

/-- Whether a conditional write came too late. -/
def isConflict (e : Error) : Bool := e.classify = .versionConflict

end Error

end TokenCustody
