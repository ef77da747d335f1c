/-
TokenCustody.Http.Message — requests and responses.

Header names are lower case. A set of headers has at most one value for
a name: writing a name again replaces the value.
-/
import TokenCustody.Text.Blank
import TokenCustody.Text.Decimal
import TokenCustody.Time.Duration

namespace TokenCustody.Http

open TokenCustody.Time

/-! ## Headers -/

/-- Header names and their values. -/
abbrev Headers := List (String × String)

/-- The value of a header. -/
def Headers.get? (h : Headers) (name : String) : Option String := h.lookup name

/-- The headers with one value written or replaced. -/
def Headers.put (h : Headers) (name value : String) : Headers :=
  (h.filter fun m => m.1 ≠ name) ++ [(name, value)]

/-- How long a server asks to wait, if it says so in whole seconds. -/
def Headers.retryAfter (h : Headers) : Option Duration :=
  (h.get? "retry-after").bind fun v =>
    (Text.readWord (Text.trim v.toList)).map Duration.ofSeconds

/-! ## Messages -/

/-- What a request asks for. -/
inductive Method where
  | get
  | post
  | put
  deriving DecidableEq

/-- The name of a method in a request. -/
def Method.name : Method → String
  | .get => "GET"
  | .post => "POST"
  | .put => "PUT"

/-- A request. -/
structure Request where
  method : Method
  url : String
  headers : Headers
  body : Option String
  /-- How long the answer may take, if the request says so. -/
  timeout : Option Duration
  deriving DecidableEq

/-- An answer. -/
structure Response where
  status : Nat
  headers : Headers
  body : String
  deriving DecidableEq

/-- Whether the request was granted. -/
def Response.isSuccess (r : Response) : Bool := 200 ≤ r.status ∧ r.status < 300

end TokenCustody.Http
