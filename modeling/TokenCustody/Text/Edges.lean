/-
TokenCustody.Text.Edges — sets of code points, given by their edges.

Going up from zero, each edge turns membership over: the first one is the
least code point of the set, the second one the least after it that is
not in the set, and so on. Sets of characters have long stretches, so
their edges are few.
-/

namespace TokenCustody.Text

/-- Whether a code point is in the set that has these edges, which go up. -/
def isWithin : List Nat → Nat → Bool
  | [], _ => false
  | e :: es, n => e ≤ n && !isWithin es n

end TokenCustody.Text
