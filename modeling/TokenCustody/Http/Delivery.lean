/-
TokenCustody.Http.Delivery — what became of a request on the network.

A request is answered by a `Response` or by an error, and what comes
over the network has to be judged before it is either. `Arrival` is what
the network brought, `Arrival.judge` the verdict:

* a redirect is refused, whatever it leads to;
* an answer that promises or has more than the allowed bytes is refused;
* header values that are not plain text are dropped, and of several
  values for one name the last one counts;
* bytes that spell no text are read as replacement characters.
-/
import TokenCustody.Error
import TokenCustody.Http.Message
import TokenCustody.Program
import TokenCustody.Text.Utf8

namespace TokenCustody.Http

open TokenCustody.Text
open TokenCustody.Time

/-- The network: requests are answered by responses or errors. -/
def Network : Service := ⟨Request, fun _ => Except Error Response⟩

/-- The answer to a request. -/
def send (r : Request) : Program Network (Except Error Response) :=
  Program.calling (S := Network) r

/-! ## Limits -/

/-- The time an answer may take when the request does not say. -/
def defaultTimeout : Duration := .ofSeconds 10

/-- The bytes a body may have. -/
def defaultSizeLimit : Nat := 1024 * 1024

/-! ## What arrives -/

/-- How far the body of an answer came. -/
inductive BodyArrival where
  | whole (bytes : List UInt8)
  /-- Less came than was promised, or something that is no body. -/
  | broken (why : String)
  /-- The rest did not come in time. -/
  | late

/-- An answer as it comes over the network. -/
structure Answer where
  status : Nat
  /-- Header names in lower case, and the bytes of their values. -/
  headers : List (String × List UInt8)
  /-- The length of the body, if it is announced. -/
  promised : Option Nat
  body : BodyArrival

/-- What the network brought. -/
inductive Arrival where
  | unreachable (why : String)
  /-- No answer came in time. -/
  | late
  | answer (a : Answer)

/-! ## The verdict -/

/-- Whether a byte is a plain character: visible, a space or a tab. -/
def isPlainByte (b : UInt8) : Bool := (0x20 ≤ b && b < 0x7F) || b == 0x09

/-- A header value as text, if all of it is plain. -/
def plainValue (bytes : List UInt8) : Option String :=
  if bytes.all isPlainByte then some (String.ofList (bytes.map fun b => Char.ofNat b.toNat))
  else none

/-- The headers whose values are plain; the last value of a name counts. -/
def plainHeaders (headers : List (String × List UInt8)) : Headers :=
  headers.foldl (fun h m => match plainValue m.2 with
    | some v => h.put m.1 v
    | none => h) []

/-- Where a redirect leads, as far as it says so in plain text. -/
def Answer.location (a : Answer) : String := ((a.headers.lookup "location").bind plainValue).getD ""

/-- The verdict on an answer. -/
def Answer.judge (limit : Nat) (timeout : Duration) (a : Answer) : Except Error Response :=
  if 300 ≤ a.status ∧ a.status < 400 then .error (.protocol (.redirect a.location))
  else
    match a.promised.filter (limit < ·) with
    | some length => .error (.protocol (.tooLarge length))
    | none =>
      match a.body with
      | .late => .error (.network (.timeout timeout))
      | .broken why => .error (.protocol (.invalidResponse why))
      | .whole bytes =>
        let body := String.ofList (Utf8.decode bytes)
        if limit < body.utf8ByteSize then .error (.protocol (.tooLarge body.utf8ByteSize))
        else .ok { status := a.status, headers := plainHeaders a.headers, body }

/-- The verdict on what the network brought. -/
def Arrival.judge (limit : Nat) (timeout : Duration) : Arrival → Except Error Response
  | .unreachable why => .error (.network (.unreachable why))
  | .late => .error (.network (.timeout timeout))
  | .answer a => a.judge limit timeout

/-- The result of a request: what the network brings, judged by the limits of the request. -/
def Request.outcome (r : Request) (fallback : Duration) (limit : Nat) (arrival : Arrival) :
    Except Error Response :=
  arrival.judge limit (r.timeout.getD fallback)

end TokenCustody.Http
