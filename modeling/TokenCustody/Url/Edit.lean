/-
TokenCustody.Url.Edit — URLs made from URLs.

Names and values can be added behind the query of any URL, and read from
it. A segment can be added behind a path; it stays one segment whatever
is in it, because its slashes are encoded.
-/
import TokenCustody.Text.Form
import TokenCustody.Url.Reader

namespace TokenCustody.Url

open TokenCustody.Text

/-! ## Queries -/

/-- The names and values in the query. -/
def pairs (u : Url) : List (String × String) := Form.decode (u.query.getD [])

/-- The URL with names and values added to its query. -/
def addPairs (u : Url) (added : List (String × String)) : Url :=
  let query := u.query.getD []
  let text := Form.encode added
  { u with query := some (if query = [] ∨ added = [] then query ++ text else query ++ '&' :: text) }

/-! ## Paths -/

/-- A path without the empty segment it ends with. A single one stays: it is the root. -/
def dropEmptyLast (segs : List (List Char)) : List (List Char) :=
  if 2 ≤ segs.length ∧ segs.getLast? = some [] then segs.dropLast else segs

/-- A path with one segment added. The root alone is no segment to add behind. The names
of a place itself and of the one above are not added, and only points that are there as
such make one: a percent sign of the name is always encoded. -/
def addSegment (k : SchemeKind) (segs : List (List Char)) (name : List Char) :
    List (List Char) :=
  if name = ['.'] ∨ name = ['.', '.'] then segs
  else
    let base := if segs = [[]] then [] else segs
    match name.filter fun c => !isBreak c with
    | ['.', '.'] => above base ++ [[]]
    | ['.'] => base ++ [[]]
    | seg => base ++ [keepSegment k (inSegmentSet k.isSpecial) base seg]

/-- The URL of something that belongs to this one, by its name. An opaque path has no
places below it. -/
def child (u : Url) (name : String) : Option Url :=
  match u.path with
  | .opaquePath _ => none
  | .segments segs =>
    some { u with path := .segments (addSegment u.kind (dropEmptyLast segs) name.toList) }

end TokenCustody.Url
