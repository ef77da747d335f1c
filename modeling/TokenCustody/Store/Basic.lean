/-
TokenCustody.Store.Basic — conditional writes.

A store holds one record and tags what it holds with a version. Runs
that share a store never talk to each other: a write that says which
version it expects to replace is all the coordination there is.
-/
import TokenCustody.Token.Record

namespace TokenCustody

/-- What must hold for a write to be made. -/
inductive WriteCondition where
  /-- The store still holds this version. -/
  | holds (v : Version)
  /-- The store holds nothing. -/
  | empty
  /-- Nothing. -/
  | always
  deriving DecidableEq

namespace WriteCondition

/-- The condition to replace a record, or to be the first where none was read. -/
def replacing (r : Record) : WriteCondition :=
  match r.version with
  | some v => .holds v
  | none => .empty

/-- The words for a condition. -/
def describe : WriteCondition → String
  | .holds v => "version " ++ v.tag
  | .empty => "absent"
  | .always => "any"

/-- The error of a write whose condition did not hold. -/
def failed (c : WriteCondition) : Error := .store (.versionConflict c.describe)

end WriteCondition

end TokenCustody
