/-
TokenCustody.Proofs.Token.Document — what shows in the document of a record.

The members of a document stand in a fixed order, and the fault is the
last of them. It is an object, and what stands before it is a count. So
whoever sees two braces at the end of a document sees a faulted record,
and two records with one document are both faulted or both not.
-/
import TokenCustody.Token.Document

namespace TokenCustody

namespace Json

/-- The value of the last member stands at the end. -/
theorem printMembers_concat (members : List (Text × Value)) (k : Text) (v : Value) :
    ∃ front, printMembers (members ++ [(k, v)]) = front ++ v.print := by
  induction members with
  | nil => exact ⟨printText k ++ [':'], by simp [printMembers]⟩
  | cons m members ih =>
    obtain ⟨front, h⟩ := ih
    refine ⟨printText m.1 ++ ':' :: m.2.print ++ ',' :: front, ?_⟩
    have hcons : printMembers (m :: (members ++ [(k, v)])) =
        printText m.1 ++ ':' :: m.2.print ++ ',' :: printMembers (members ++ [(k, v)]) := by
      cases members <;> rfl
    rw [List.cons_append, hcons, h]
    simp

/-- In front of the closing brace stands the end of the last member that is there. -/
theorem dropLast_print_sparse {members : List (String × Option Value)} {k : String} {v : Value}
    {c : Char} (h : v.print.getLast? = some c) :
    (Value.sparse (members ++ [(k, some v)])).print.dropLast.getLast? = some c := by
  obtain ⟨front, hfront⟩ := printMembers_concat
    ((members.filterMap fun m => m.2.map fun v => (m.1, v)).map fun m => (some m.1, m.2)) (some k) v
  have hprint : (Value.sparse (members ++ [(k, some v)])).print = '\x7b' :: printMembers
      ((members.filterMap fun m => m.2.map fun v => (m.1, v)).map (fun m => (some m.1, m.2)) ++
        [(some k, v)]) ++ ['\x7d'] := by
    simp [Value.sparse, Value.record, Value.print]
  rw [hprint, hfront, List.dropLast_concat, ← List.cons_append, List.getLast?_append, h,
    Option.some_or]

/-- A member that is not there is not printed. -/
theorem sparse_concat_none (members : List (String × Option Value)) (k : String) :
    Value.sparse (members ++ [(k, none)]) = Value.sparse members := by
  simp [Value.sparse]

end Json

namespace Record

open TokenCustody.Json

/-- The document of a record ends with two braces exactly if the record is faulted. -/
theorem document_ends (r : Record) :
    r.document.toList.dropLast.getLast? = some '\x7d' ↔ r.fault.isSome = true := by
  have hdocument : r.document.toList = (Value.sparse ((r.fields.take 8 ++ [("refresh_count",
      some (.count r.refreshCount))]) ++ [("last_error", r.fault.map Fault.toJson)])).print :=
    String.toList_ofList
  rw [hdocument]
  cases r.fault with
  | some f =>
    have hobject : f.toJson.print.getLast? = some '\x7d' := List.getLast?_concat ..
    rw [Option.map_some, dropLast_print_sparse hobject]
    simp
  | none =>
    have hdigits : Nat.toDigits 10 r.refreshCount ≠ [] := Nat.toDigits_ne_nil
    have hlast : (Value.count r.refreshCount).print.getLast? =
        some ((Nat.toDigits 10 r.refreshCount).getLast hdigits) := by
      simp [Value.count, Value.print, Number.ofNat, Number.print, Text.decimal,
        List.getLast?_eq_some_getLast hdigits]
    have hdigit : ((Nat.toDigits 10 r.refreshCount).getLast hdigits).isDigit = true :=
      Nat.isDigit_of_mem_toDigits (by decide) (by decide) (List.getLast_mem hdigits)
    rw [Option.map_none, sparse_concat_none, dropLast_print_sparse hlast]
    constructor
    · intro h
      rw [Option.some.inj h] at hdigit
      cases hdigit
    · intro h
      cases h

/-- Two records with one document are both faulted, or both not. -/
theorem isSome_fault_of_document_eq {r r' : Record} (h : r.document = r'.document)
    (hr : r.fault.isSome = true) : r'.fault.isSome = true := by
  rw [← document_ends, ← h, document_ends]
  exact hr

end Record

end TokenCustody
