/-
TokenCustody.Authorization.Callback — what a browser brings back.

The provider sends the browser back to the redirect address with its
answer in the query. Of several values for one name the last one counts,
and names that mean nothing here are ignored.
-/
import TokenCustody.Url.Edit

namespace TokenCustody

/-- The answer that a browser brings back. -/
structure Callback where
  code : Option String
  state : Option String
  error : Option String
  errorDescription : Option String
  errorUri : Option String
  deriving DecidableEq

namespace Callback

/-- The last value of a name. -/
def lastValue (pairs : List (String × String)) (name : String) : Option String :=
  pairs.reverse.lookup name

/-- The answer in a list of names and values. -/
def ofPairs (pairs : List (String × String)) : Callback :=
  { code := lastValue pairs "code"
    state := lastValue pairs "state"
    error := lastValue pairs "error"
    errorDescription := lastValue pairs "error_description"
    errorUri := lastValue pairs "error_uri" }

/-- The answer in the address that the browser was sent to. -/
def ofAddress (address : String) : Except UrlError Callback :=
  (Url.ofString address).map fun u => ofPairs u.pairs

/-- Whether the provider reports an error. -/
def isError (c : Callback) : Bool := c.error.isSome

end Callback

end TokenCustody
