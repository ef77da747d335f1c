/-
TokenCustody.Text.Split — cutting a list of characters at separators.

Every reader in the library works on `List Char`, so that a cut has
equation lemmas and an argument about what was read is an ordinary
induction. Two cuts cover all of them:

* `cut` stops at the FIRST separator and keeps what follows it, so a
  value may hold further separators;
* `split` cuts at EVERY separator, so there is always one piece more
  than there are separators, and an empty text is one empty piece.
-/

namespace TokenCustody.Text

/-! ## One cut -/

/-- What stands before the first separator, and what follows it if there is one. -/
def cut (sep : Char → Bool) : List Char → List Char × Option (List Char)
  | [] => ([], none)
  | c :: cs =>
    if sep c then ([], some cs)
    else
      let rest := cut sep cs
      (c :: rest.1, rest.2)

/-- What stands before the LAST separator, and what follows it; all of it follows
when there is none. -/
def cutLast (sep : Char → Bool) (cs : List Char) : Option (List Char) × List Char :=
  let back := cut sep cs.reverse
  (back.2.map List.reverse, back.1.reverse)

/-- A text free of separators is not cut. -/
theorem cut_eq_self {sep : Char → Bool} {cs : List Char} (h : ∀ c ∈ cs, sep c = false) :
    cut sep cs = (cs, none) := by
  induction cs with
  | nil => rfl
  | cons c cs ih =>
    rw [cut, if_neg (by simp [h c]), ih (fun d hd => h d (List.mem_cons_of_mem c hd))]

/-- The first separator is where the cut is made. -/
theorem cut_append_cons {sep : Char → Bool} {cs rest : List Char} {s : Char}
    (h : ∀ c ∈ cs, sep c = false) (hs : sep s = true) :
    cut sep (cs ++ s :: rest) = (cs, some rest) := by
  induction cs with
  | nil => simp [cut, hs]
  | cons c cs ih =>
    rw [List.cons_append, cut, if_neg (by simp [h c]),
      ih (fun d hd => h d (List.mem_cons_of_mem c hd))]

/-- A cut is made at a separator, and there is none before it. -/
theorem cut_eq_some_iff {sep : Char → Bool} {cs front rest : List Char} :
    cut sep cs = (front, some rest) ↔
      ∃ s, sep s = true ∧ cs = front ++ s :: rest ∧ ∀ c ∈ front, sep c = false := by
  constructor
  · intro h
    induction cs generalizing front with
    | nil => cases h
    | cons c cs ih =>
      rw [cut] at h
      split at h
      · next hc =>
        cases h
        exact ⟨c, hc, rfl, List.forall_mem_nil _⟩
      · next hc =>
        obtain ⟨rfl, hrest⟩ := Prod.mk.inj h
        obtain ⟨s, hs, hcs, hfree⟩ := ih (Prod.ext rfl hrest)
        exact ⟨s, hs, congrArg (c :: ·) hcs,
          List.forall_mem_cons.mpr ⟨Bool.eq_false_iff.mpr hc, hfree⟩⟩
  · rintro ⟨s, hs, rfl, hfree⟩
    exact cut_append_cons hfree hs

/-- No separator stands before the cut. -/
theorem of_mem_cut {sep : Char → Bool} {cs : List Char} {c : Char} (h : c ∈ (cut sep cs).1) :
    sep c = false ∧ c ∈ cs := by
  induction cs with
  | nil => cases h
  | cons d cs ih =>
    rw [cut] at h
    split at h
    · cases h
    · next hd =>
      rcases List.mem_cons.mp h with rfl | h
      · exact ⟨by simpa using hd, List.mem_cons_self⟩
      · obtain ⟨hsep, hmem⟩ := ih h
        exact ⟨hsep, List.mem_cons_of_mem d hmem⟩

/-- Where nothing was cut off, all of the text is left. -/
theorem fst_cut_of_none {sep : Char → Bool} {cs : List Char} (h : (cut sep cs).2 = none) :
    (cut sep cs).1 = cs := by
  induction cs with
  | nil => rfl
  | cons c cs ih =>
    rw [cut] at h ⊢
    split at h
    · cases h
    · next hc =>
      rw [if_neg hc]
      exact congrArg (c :: ·) (ih h)

/-! ## All cuts -/

/-- The stretches between the separators. -/
def split (sep : Char → Bool) : List Char → List (List Char)
  | [] => [[]]
  | c :: cs =>
    if sep c then [] :: split sep cs
    else
      match split sep cs with
      | [] => [[c]]
      | piece :: pieces => (c :: piece) :: pieces

/-- Pieces put back together with one separator between each two. -/
def join (sep : List Char) : List (List Char) → List Char
  | [] => []
  | [piece] => piece
  | piece :: pieces => piece ++ sep ++ join sep pieces

/-- A text free of separators is one piece. -/
theorem split_eq_self {sep : Char → Bool} {cs : List Char} (h : ∀ c ∈ cs, sep c = false) :
    split sep cs = [cs] := by
  induction cs with
  | nil => rfl
  | cons c cs ih =>
    rw [split, if_neg (by simp [h c]), ih (fun d hd => h d (List.mem_cons_of_mem c hd))]

/-- The first piece ends at the first separator. -/
theorem split_append_cons {sep : Char → Bool} {cs rest : List Char} {s : Char}
    (h : ∀ c ∈ cs, sep c = false) (hs : sep s = true) :
    split sep (cs ++ s :: rest) = cs :: split sep rest := by
  induction cs with
  | nil => simp [split, hs]
  | cons c cs ih =>
    rw [List.cons_append, split, if_neg (by simp [h c]),
      ih (fun d hd => h d (List.mem_cons_of_mem c hd))]

/-- Pieces free of separators are found again when they were joined. -/
theorem split_join {sep : Char → Bool} {s : Char} {pieces : List (List Char)} (hs : sep s = true)
    (h : ∀ piece ∈ pieces, ∀ c ∈ piece, sep c = false) (hne : pieces ≠ []) :
    split sep (join [s] pieces) = pieces := by
  induction pieces with
  | nil => exact absurd rfl hne
  | cons piece pieces ih =>
    have hpiece := h piece List.mem_cons_self
    cases pieces with
    | nil => exact split_eq_self hpiece
    | cons piece' pieces =>
      rw [join, List.append_assoc, List.singleton_append, split_append_cons hpiece hs,
        ih (fun p hp => h p (List.mem_cons_of_mem piece hp)) (List.cons_ne_nil _ _)]
      exact List.cons_ne_nil _ _

theorem split_ne_nil (sep : Char → Bool) (cs : List Char) : split sep cs ≠ [] := by
  cases cs with
  | nil => simp [split]
  | cons c cs =>
    rw [split]
    split
    · simp
    · split <;> simp

/-- A piece holds no separator, and nothing that the text does not hold. -/
theorem of_mem_split {sep : Char → Bool} {cs piece : List Char} {c : Char}
    (h : piece ∈ split sep cs) (hc : c ∈ piece) : sep c = false ∧ c ∈ cs := by
  induction cs generalizing piece with
  | nil =>
    simp only [split, List.mem_singleton] at h
    subst h
    cases hc
  | cons d cs ih =>
    rw [split] at h
    split at h
    · rcases List.mem_cons.mp h with rfl | h
      · cases hc
      · obtain ⟨hsep, hmem⟩ := ih h hc
        exact ⟨hsep, List.mem_cons_of_mem d hmem⟩
    · next hd =>
      split at h
      · next hnil => exact absurd hnil (split_ne_nil sep cs)
      · next first pieces hsplit =>
        rcases List.mem_cons.mp h with rfl | h
        · rcases List.mem_cons.mp hc with rfl | hc
          · exact ⟨by simpa using hd, List.mem_cons_self⟩
          · obtain ⟨hsep, hmem⟩ := ih (hsplit ▸ List.mem_cons_self) hc
            exact ⟨hsep, List.mem_cons_of_mem d hmem⟩
        · obtain ⟨hsep, hmem⟩ := ih (hsplit ▸ List.mem_cons_of_mem first h) hc
          exact ⟨hsep, List.mem_cons_of_mem d hmem⟩

/-- The pieces on both sides of a separator are the pieces of both sides. -/
theorem split_append {sep : Char → Bool} {s : Char} (hs : sep s = true) (front back : List Char) :
    split sep (front ++ s :: back) = split sep front ++ split sep back := by
  induction front with
  | nil => simp [split, hs]
  | cons c front ih =>
    rw [List.cons_append, split, split, ih]
    split
    · rfl
    · cases h : split sep front with
      | nil => exact absurd h (split_ne_nil sep front)
      | cons piece pieces => rfl

/-- A joined text holds the characters of its pieces and of what stands between them. -/
theorem of_mem_join {sep : List Char} {pieces : List (List Char)} {c : Char}
    (h : c ∈ join sep pieces) : c ∈ sep ∨ ∃ piece ∈ pieces, c ∈ piece := by
  induction pieces with
  | nil => cases h
  | cons piece pieces ih =>
    cases pieces with
    | nil => exact Or.inr ⟨piece, List.mem_cons_self, h⟩
    | cons piece' pieces =>
      simp only [join, List.mem_append] at h
      rcases h with (h | h) | h
      · exact Or.inr ⟨piece, List.mem_cons_self, h⟩
      · exact Or.inl h
      · rcases ih h with h | ⟨p, hp, h⟩
        · exact Or.inl h
        · exact Or.inr ⟨p, List.mem_cons_of_mem piece hp, h⟩

end TokenCustody.Text
