/-
TokenCustody.Store.Remote — a store over HTTP.

The record is kept as one secret, under a URL of its own. Reading it
brings the document, and the version in the header `etag`. Writing it
sends the document, and the condition as a header; the server refuses
the write if the condition does not hold.
-/
import TokenCustody.Config.Basic
import TokenCustody.Http.Delivery
import TokenCustody.Store.Basic
import TokenCustody.Token.Document
import TokenCustody.Url.Edit

namespace TokenCustody

/-- A store over HTTP. -/
structure RemoteStore where
  config : StoreConfig
  /-- The URL of the secret that holds the record. -/
  secretUrl : String
  deriving DecidableEq

namespace RemoteStore

/-- The store at a place. The URL of the place must have a path to add a name to. -/
def ofConfig (c : StoreConfig) : Except Error RemoteStore :=
  match (Url.ofString c.baseUrl).toOption.bind (·.child c.secretName) with
  | some u => .ok ⟨c, u.render⟩
  | none => .error (.configuration (.endpoint c.baseUrl))

/-! ## Requests -/

/-- The headers of every request. -/
def headers (s : RemoteStore) : Http.Headers :=
  ("accept", "application/json") ::
    (match s.config.authToken with
    | some token => [("authorization", "Bearer " ++ token)]
    | none => [])

/-- The request that reads the record. -/
def readRequest (s : RemoteStore) : Http.Request :=
  { method := .get
    url := s.secretUrl
    headers := s.headers
    body := none
    timeout := some s.config.timeout }

/-- The header of a condition. -/
def conditionHeader : WriteCondition → Http.Headers
  | .holds v => [("if-match", v.tag)]
  | .empty => [("if-none-match", "*")]
  | .always => []

/-- The request that writes a record. -/
def writeRequest (s : RemoteStore) (r : Record) (c : WriteCondition) : Http.Request :=
  { method := .put
    url := s.secretUrl
    headers := s.headers ++ ("content-type", "application/json") :: conditionHeader c
    body := some r.document
    timeout := some s.config.timeout }

/-! ## Answers -/

/-- The version in an answer. -/
def versionOf (r : Http.Response) : Except Error Version :=
  match (r.headers.get? "etag").filter (· ≠ "") with
  | some tag => .ok ⟨tag⟩
  | none => .error (.store .missingVersion)

/-- The error of an answer that refuses a request. -/
def refusal (r : Http.Response) (other : String → StoreError) : Error :=
  if r.status = 401 ∨ r.status = 403 then
    .store (.permissionDenied ("secret store returned HTTP " ++ toString r.status))
  else if r.status = 429 then .network (.rateLimited r.headers.retryAfter)
  else if 500 ≤ r.status ∧ r.status < 600 then .store (.unavailable r.status)
  else .store (other ("HTTP " ++ toString r.status))

/-- What the answer to a reading request says. -/
def readAnswer (r : Http.Response) : Except Error (Option Record) :=
  if r.status = 404 then .ok none
  else if !r.isSuccess then .error (refusal r .readFailed)
  else
    match versionOf r, Record.ofDocument? r.body with
    | .error e, _ => .error e
    | .ok _, none => .error (.store (.corrupted "the body is no token record"))
    | .ok v, some record => .ok (some (record.withVersion v))

/-- What the answer to a writing request says. -/
def writeAnswer (c : WriteCondition) (r : Http.Response) : Except Error Version :=
  if r.status = 409 ∨ r.status = 412 then .error c.failed
  else if r.isSuccess then versionOf r
  else .error (refusal r .writeFailed)

/-! ## Calls -/

/-- Reads the record. -/
def read (s : RemoteStore) : Program Http.Network (Except Error (Option Record)) := do
  return (← Http.send s.readRequest).bind readAnswer

/-- Writes a sound record under a condition. -/
def write (s : RemoteStore) (r : Record) (c : WriteCondition) :
    Program Http.Network (Except Error Version) := do
  match r.checked with
  | .error e => return .error e
  | .ok _ => return (← Http.send (s.writeRequest r c)).bind (writeAnswer c)

end RemoteStore

end TokenCustody
