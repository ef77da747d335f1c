/-
TokenCustody.Custody — the calls that keep a credential usable.

Four calls are all that the coordination needs: two to the store and two
to the provider. Each is answered at once or not at all; a call that
fails says why.
-/
import TokenCustody.Program
import TokenCustody.Store.Basic
import TokenCustody.Token.Grant

namespace TokenCustody

/-- A call to the store or to the provider. -/
inductive CustodyCall where
  /-- What does the store hold? -/
  | read
  /-- Write a record under a condition. -/
  | write (r : Record) (c : WriteCondition)
  /-- Ask the provider for a new access token. -/
  | refresh (refreshToken : String)
  /-- Trade the code of an authorization by a human for a first grant. -/
  | exchange (code redirectUri : String)
  deriving DecidableEq

/-- The answer to a call. -/
abbrev CustodyCall.Reply : CustodyCall → Type
  | .read => Except Error (Option Record)
  | .write _ _ => Except Error Version
  | .refresh _ | .exchange _ _ => Except Error Grant

/-- The store and the provider. -/
def Custody : Service := ⟨CustodyCall, CustodyCall.Reply⟩

namespace Custody

/-- What the store holds. -/
def read : Program Custody (Except Error (Option Record)) :=
  Program.calling (S := Custody) .read

/-- Writes a record under a condition. -/
def write (r : Record) (c : WriteCondition) : Program Custody (Except Error Version) :=
  Program.calling (S := Custody) (.write r c)

/-- Asks the provider for a new access token. -/
def refresh (refreshToken : String) : Program Custody (Except Error Grant) :=
  Program.calling (S := Custody) (.refresh refreshToken)

/-- Trades a code for a first grant. -/
def exchange (code redirectUri : String) : Program Custody (Except Error Grant) :=
  Program.calling (S := Custody) (.exchange code redirectUri)

end Custody

end TokenCustody
