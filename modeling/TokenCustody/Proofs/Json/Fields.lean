/-
TokenCustody.Proofs.Json.Fields — a written record holds its fields.

`Value.sparse` writes the fields that have a value, in order. Whoever
looks for the same names finds for each of them what was written, or
nothing if the field was left out. Members with other names may stand
behind them and change nothing.
-/
import TokenCustody.Json.Fields
import TokenCustody.Proofs.Json.Reading

namespace TokenCustody.Json

/-! ## The members of a written record -/

/-- The members that stand for those of the fields that have a value. -/
def written (fields : List (String × Option Value)) : List (Text × Value) :=
  (fields.filterMap fun m => m.2.map fun v => (m.1, v)).map fun m => (some m.1, m.2)

theorem written_some (name : String) (v : Value) (fields : List (String × Option Value)) :
    written ((name, some v) :: fields) = (some name, v) :: written fields := rfl

/-- A record of plain values is written with plain members. -/
theorem plainMembers_written {fields : List (String × Option Value)}
    (h : ∀ m ∈ fields, ∀ v ∈ m.2, v.Plain) : PlainMembers (written fields) := by
  induction fields with
  | nil => trivial
  | cons m fields ih =>
    obtain ⟨name, o⟩ := m
    have hrest := ih fun m hm => h m (List.mem_cons_of_mem _ hm)
    cases o with
    | none => exact hrest
    | some v => exact ⟨rfl, h (name, some v) List.mem_cons_self v rfl, hrest⟩

theorem plainMembers_append {members more : List (Text × Value)} (h : PlainMembers members)
    (hmore : PlainMembers more) : PlainMembers (members ++ more) := by
  induction members with
  | nil => exact hmore
  | cons m members ih => exact ⟨h.1, h.2.1, ih h.2.2⟩

/-- Names that are written have a text. -/
theorem isSome_of_mem_written {fields : List (String × Option Value)} {m : Text × Value}
    (h : m ∈ written fields) : m.1.isSome = true := by
  obtain ⟨w, -, rfl⟩ := List.mem_map.mp h
  rfl

/-! ## Looking for a name -/

/-- A name that no member has is counted nowhere. -/
theorem countNamed_eq_zero {name : String} {members : List (Text × Value)}
    (h : ∀ m ∈ members, m.1 ≠ some name) : countNamed name members = 0 := by
  refine List.countP_eq_zero.mpr fun m hm => ?_
  simpa using h m hm

theorem countNamed_append (name : String) (members more : List (Text × Value)) :
    countNamed name (members ++ more) = countNamed name members + countNamed name more :=
  List.countP_append

/-- A name that no member has is not found. -/
theorem memberNamed_eq_none {name : String} {members : List (Text × Value)}
    (h : ∀ m ∈ members, m.1 ≠ some name) : memberNamed name members = none := by
  induction members with
  | nil => rfl
  | cons m members ih =>
    obtain ⟨k, v⟩ := m
    rw [memberNamed, if_neg (h (k, v) List.mem_cons_self)]
    exact ih fun m hm => h m (List.mem_cons_of_mem _ hm)

/-- Members with other names behind the written ones do not hide those. -/
theorem memberNamed_append {name : String} {more : List (Text × Value)}
    (h : ∀ m ∈ more, m.1 ≠ some name) (members : List (Text × Value)) :
    memberNamed name (members ++ more) = memberNamed name members := by
  induction members with
  | nil => exact memberNamed_eq_none h
  | cons m members ih => rw [List.cons_append, memberNamed, memberNamed, ih]

section Written

variable {fields : List (String × Option Value)}

/-- No name is written but those of the fields. -/
theorem ne_of_mem_written {name : String} (h : name ∉ fields.map Prod.fst) {m : Text × Value}
    (hm : m ∈ written fields) : m.1 ≠ some name := by
  obtain ⟨w, hw, rfl⟩ := List.mem_map.mp hm
  obtain ⟨f, hf, hfw⟩ := List.mem_filterMap.mp hw
  obtain ⟨v, -, rfl⟩ := Option.map_eq_some_iff.mp hfw
  intro heq
  exact h (List.mem_map.mpr ⟨f, hf, Option.some.inj heq⟩)

/-- Names that differ are written once at most. -/
theorem countNamed_written (h : (fields.map Prod.fst).Nodup) (name : String) :
    countNamed name (written fields) ≤ 1 := by
  induction fields with
  | nil => exact Nat.zero_le 1
  | cons m fields ih =>
    obtain ⟨k, o⟩ := m
    obtain ⟨hk, hrest⟩ := List.nodup_cons.mp h
    cases o with
    | none => exact ih hrest
    | some v =>
      rw [written_some, countNamed, List.countP_cons]
      by_cases hname : k = name
      · have hzero := countNamed_eq_zero fun m => ne_of_mem_written (m := m) (hname ▸ hk)
        rw [countNamed] at hzero
        rw [hzero]
        split <;> omega
      · have hone := ih hrest
        rw [countNamed] at hone
        simpa [hname] using hone

/-- A field is found as it was written. -/
theorem memberNamed_written (h : (fields.map Prod.fst).Nodup) {name : String} {o : Option Value}
    (hmem : (name, o) ∈ fields) : memberNamed name (written fields) = o := by
  induction fields with
  | nil => cases hmem
  | cons m fields ih =>
    obtain ⟨k, o'⟩ := m
    obtain ⟨hk, hrest⟩ := List.nodup_cons.mp h
    rcases List.mem_cons.mp hmem with heq | hmem
    · obtain ⟨rfl, rfl⟩ := Prod.mk.inj heq
      have hnone : memberNamed name (written fields) = none :=
        memberNamed_eq_none fun m => ne_of_mem_written hk
      cases o with
      | none => exact hnone
      | some v => rw [written_some, memberNamed, if_pos rfl]
    · have hne : k ≠ name := fun heq => hk (heq ▸ List.mem_map.mpr ⟨_, hmem, rfl⟩)
      have hfound := ih hrest hmem
      cases o' with
      | none => exact hfound
      | some v => rw [written_some, memberNamed, if_neg (by simpa using hne), hfound]

/-- A record is found field by field, whatever other members stand behind its own. -/
theorem fields_of_written (h : (fields.map Prod.fst).Nodup) {more : List (Text × Value)}
    (hmore : ∀ m ∈ more, ∃ name, m.1 = some name ∧ name ∉ fields.map Prod.fst) :
    ∃ f, (Value.object (written fields ++ more)).fields? (fields.map Prod.fst) = some f ∧
      ∀ m ∈ fields, f m.1 = m.2 := by
  have hother {name : String} (hname : name ∈ fields.map Prod.fst) :
      ∀ m ∈ more, m.1 ≠ some name := by
    intro m hm heq
    obtain ⟨other, hother, hnot⟩ := hmore m hm
    rw [heq] at hother
    exact hnot (Option.some.inj hother ▸ hname)
  have hnamed : (written fields ++ more).all (fun m => m.1.isSome) = true := by
    refine List.all_eq_true.mpr fun m hm => ?_
    rcases List.mem_append.mp hm with hm | hm
    · exact isSome_of_mem_written hm
    · obtain ⟨name, hname, -⟩ := hmore m hm
      rw [hname]
      rfl
  have honce : (fields.map Prod.fst).all
      (fun n => countNamed n (written fields ++ more) ≤ 1) = true := by
    refine List.all_eq_true.mpr fun n hn => ?_
    have hone := countNamed_written h n
    rw [countNamed_append, countNamed_eq_zero (hother hn)]
    simpa using hone
  refine ⟨_, by rw [Value.fields?, fieldsOfMembers, if_pos ⟨hnamed, honce⟩], ?_⟩
  intro m hmem
  have hname : m.1 ∈ fields.map Prod.fst := List.mem_map.mpr ⟨m, hmem, rfl⟩
  rw [if_pos hname, memberNamed_append (hother hname), memberNamed_written h hmem]

end Written

/-! ## Reading fields -/

section Reading

variable {α : Type} {f : Fields} {name : String} {read : Value → Option α}

/-- A field that must be there is read, if it is. -/
theorem Fields.need_of_some {v : Value} (h : f name = some v) : f.need name read = read v := by
  rw [Fields.need, h, Option.bind_some]

/-- A field that is there is read, and not replaced by what stands in for it. -/
theorem Fields.orElse_of_some {v : Value} (h : f name = some v) (missing : α) :
    f.orElse name read missing = read v := by
  rw [Fields.orElse, h]

/-- A field that may be left out is read as it was written, if no value is written as null. -/
theorem Fields.optional_of_map {write : α → Value} {o : Option α} (h : f name = o.map write)
    (hread : ∀ x, read (write x) = some x) (hnull : ∀ x, write x ≠ .null) :
    f.optional name read = some o := by
  rw [Fields.optional, Fields.orElse, h]
  cases o with
  | none => rfl
  | some x =>
    rw [Option.map_some]
    unfold Value.optional?
    dsimp only
    split
    · next heq => exact absurd heq (hnull x)
    · rw [hread]
      rfl

end Reading

end TokenCustody.Json
