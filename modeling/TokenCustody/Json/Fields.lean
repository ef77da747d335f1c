/-
TokenCustody.Json.Fields — values as records with named fields.

A record can be written in two ways: as an object whose members are the
fields, in any order, or as an array of the fields in THEIR order, the
last ones left out if they may be missing.

In an object a member with an unknown name is ignored whatever it holds.
A field that is written twice is refused, and so is a name without a
value. `Fields` is what remains: for each name, the value written for it.
-/
import TokenCustody.Json.Basic

namespace TokenCustody.Json

/-- The value written for each field name. -/
abbrev Fields := String → Option Value

/-- The first value among members that have this name. -/
def memberNamed (name : String) : List (Text × Value) → Option Value
  | [] => none
  | (k, v) :: ms => if k = some name then some v else memberNamed name ms

/-- How many members have this name. -/
def countNamed (name : String) (members : List (Text × Value)) : Nat :=
  members.countP fun m => m.1 = some name

/-- The fields of an object: every name has a value, no known name stands twice. -/
def fieldsOfMembers (names : List String) (members : List (Text × Value)) : Option Fields :=
  if members.all (fun m => m.1.isSome) ∧ names.all (fun n => countNamed n members ≤ 1) then
    some fun name => if name ∈ names then memberNamed name members else none
  else none

/-- The fields of an array: the items stand for the first names, none is left over. -/
def fieldsOfItems (names : List String) (items : List Value) : Option Fields :=
  if items.length ≤ names.length then some fun name => (names.zip items).lookup name else none

/-- A value as a record with these field names. -/
def Value.fields? (names : List String) : Value → Option Fields
  | .object members => fieldsOfMembers names members
  | .array items => fieldsOfItems names items
  | _ => none

/-- Reads a field that must be there. -/
def Fields.need {α : Type} (f : Fields) (name : String) (read : Value → Option α) : Option α :=
  (f name).bind read

/-- Reads a field that has a value when it is not written. -/
def Fields.orElse {α : Type} (f : Fields) (name : String) (read : Value → Option α)
    (missing : α) : Option α :=
  match f name with
  | none => some missing
  | some v => read v

/-- Reads a field that may be null or not written at all. -/
def Fields.optional {α : Type} (f : Fields) (name : String) (read : Value → Option α) :
    Option (Option α) :=
  f.orElse name (Value.optional? read) none

end TokenCustody.Json
