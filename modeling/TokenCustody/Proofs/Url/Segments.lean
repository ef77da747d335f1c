/-
TokenCustody.Proofs.Url.Segments — the segments of a path.

A path is written with a slash before each segment, and no segment holds a
slash. So the written path tells the segments (`Url.printSegments_inj`),
and two URLs that differ only in their paths are not written alike.

That no segment holds a slash is a fact about the reader. It cuts a path
at its slashes, and then keeps each piece, drops it, or puts an empty
segment in its place: whatever holds of the empty segment and of a piece
that is kept holds of all segments (`Url.forall_follow`).
-/
import TokenCustody.Proofs.Text.Form
import TokenCustody.Proofs.Url.Reading

namespace TokenCustody.Url

open TokenCustody.Text

/-! ## Written paths -/

/-- A written path begins with a slash, so nothing stands before its first cut. -/
theorem split_printSegments_cons (seg : List Char) (segs : List (List Char)) :
    split (· == '/') (printSegments (seg :: segs)) =
      [] :: split (· == '/') (seg ++ printSegments segs) := by
  simp [printSegments, split]

/-- A written path is cut at its slashes into its segments. -/
theorem split_printSegments {segs : List (List Char)} (h : ∀ seg ∈ segs, '/' ∉ seg) :
    split (· == '/') (printSegments segs) = [] :: segs := by
  induction segs with
  | nil => rfl
  | cons seg segs ih =>
    have hfree : ∀ c ∈ seg, (c == '/') = false := by
      intro c hc
      exact beq_eq_false_iff_ne.mpr fun heq => h seg List.mem_cons_self (heq ▸ hc)
    have hrest := ih fun s hs => h s (List.mem_cons_of_mem seg hs)
    rw [split_printSegments_cons]
    cases segs with
    | nil => rw [printSegments, List.flatMap_nil, List.append_nil, split_eq_self hfree]
    | cons seg' segs =>
      rw [split_printSegments_cons] at hrest
      rw [printSegments, List.flatMap_cons, List.cons_append, split_append_cons hfree rfl]
      exact congrArg (fun pieces => [] :: seg :: pieces) (List.cons.inj hrest).2

/-- Segments without slashes are told by the path that is written from them. -/
theorem printSegments_inj {segs segs' : List (List Char)} (hfree : ∀ seg ∈ segs, '/' ∉ seg)
    (hfree' : ∀ seg ∈ segs', '/' ∉ seg) (h : printSegments segs = printSegments segs') :
    segs = segs' := by
  have hsplit := split_printSegments hfree
  rw [h, split_printSegments hfree'] at hsplit
  exact (List.cons.inj hsplit).2.symm

/-! ## What stands in a segment -/

/-- What stands in a segment of a path. -/
def IsSegmentChar (c : Char) : Prop := inPathSet c = false ∧ c ≠ '/'

instance (c : Char) : Decidable (IsSegmentChar c) :=
  inferInstanceAs (Decidable (inPathSet c = false ∧ c ≠ '/'))

/-- Letters and figures stand in segments as they are. -/
theorem isSegmentChar_of_isAlphanum {c : Char} (h : c.isAlphanum = true) : IsSegmentChar c := by
  have hall : ∀ n < 0x80, (Char.ofNat n).isAlphanum = true → IsSegmentChar (Char.ofNat n) := by
    decide
  exact of_ascii (p := fun c => c.isAlphanum = true → IsSegmentChar c) hall
    (ascii_of_isAlphanum h) h

/-- A set of characters that are written byte by byte leaves only those of a segment, for the
characters of a piece. -/
theorem isSegmentChar_of_mem_encode {set : Char → Bool} {seg : List Char}
    (hset : ∀ c ∈ seg, set c = false → IsSegmentChar c) :
    ∀ d ∈ Percent.encode set seg, IsSegmentChar d :=
  Percent.forall_mem_encode (fun c hc _ => hset c hc) (by decide) (by decide)

/-- A drive is a letter with a colon or a bar behind it. -/
theorem isDrive_iff {seg : List Char} : isDrive seg = true ↔
    ∃ letter mark, seg = [letter, mark] ∧ letter.isAlpha = true ∧ (mark = ':' ∨ mark = '|') := by
  constructor
  · intro h
    unfold isDrive at h
    split at h
    · next letter mark => exact ⟨letter, mark, rfl, by simpa using h⟩
    · cases h
  · rintro ⟨letter, mark, rfl, hletter, hmark⟩
    simpa [isDrive] using ⟨hletter, hmark⟩

/-- A piece is kept percent-encoded, or as a drive with a colon, and holds no slash either way. -/
theorem isSegmentChar_of_mem_keepSegment {k : SchemeKind} {set : Char → Bool}
    {segs : List (List Char)} {seg : List Char}
    (hset : ∀ c ∈ seg, set c = false → IsSegmentChar c) {d : Char}
    (h : d ∈ keepSegment k set segs seg) : IsSegmentChar d := by
  unfold keepSegment at h
  split at h
  · next hdrive =>
    obtain ⟨letter, mark, rfl, hletter, -⟩ := isDrive_iff.mp hdrive.2.2
    simp only [List.take_succ_cons, List.take_zero, List.cons_append, List.nil_append,
      List.mem_cons, List.not_mem_nil, or_false] at h
    rcases h with rfl | rfl
    · exact isSegmentChar_of_isAlphanum (by simp [Char.isAlphanum, hletter])
    · decide
  · exact isSegmentChar_of_mem_encode hset d h

theorem mem_of_mem_above {segs : List (List Char)} {seg : List Char} (h : seg ∈ above segs) :
    seg ∈ segs := by
  unfold above at h
  split at h
  · exact h
  · exact List.dropLast_subset segs h

/-- Whatever holds of the empty segment and of every one that is kept holds of all segments of a
path. -/
theorem forall_follow {P : List Char → Prop} {k : SchemeKind} {set : Char → Bool}
    {pieces segs : List (List Char)} (hnil : P [])
    (hkeep : ∀ before, ∀ piece ∈ pieces, P (keepSegment k set before piece))
    (hsegs : ∀ seg ∈ segs, P seg) : ∀ seg ∈ follow k set segs pieces, P seg := by
  have hconcat {front : List (List Char)} {last : List Char} (hfront : ∀ seg ∈ front, P seg)
      (hlast : P last) : ∀ seg ∈ front ++ [last], P seg :=
    List.forall_mem_append.mpr ⟨hfront, List.forall_mem_singleton.mpr hlast⟩
  have habove {front : List (List Char)} (hfront : ∀ seg ∈ front, P seg) :
      ∀ seg ∈ above front, P seg := fun seg hseg => hfront seg (mem_of_mem_above hseg)
  induction pieces generalizing segs with
  | nil => exact hsegs
  | cons piece pieces ih =>
    have hpiece := hconcat hsegs (hkeep segs piece List.mem_cons_self)
    cases pieces with
    | nil =>
      unfold follow
      split
      · exact hconcat (habove hsegs) hnil
      · split
        · exact hconcat hsegs hnil
        · exact hpiece
    | cons piece' pieces =>
      unfold follow
      refine ih (fun before p hp => hkeep before p (List.mem_cons_of_mem piece hp)) ?_
      split
      · exact habove hsegs
      · split
        · exact hsegs
        · exact hpiece

/-- All characters of a path are those of segments. -/
def Tidy (segs : List (List Char)) : Prop := ∀ seg ∈ segs, ∀ c ∈ seg, IsSegmentChar c

/-- No tidy segment holds a slash. -/
theorem Tidy.slash {segs : List (List Char)} (h : Tidy segs) : ∀ seg ∈ segs, '/' ∉ seg :=
  fun seg hseg hc => (h seg hseg '/' hc).2 rfl

theorem tidy_root : Tidy [[]] := by
  intro seg hseg c hc
  rw [List.mem_singleton.mp hseg] at hc
  cases hc

theorem tidy_nil : Tidy [] := fun _ hseg => absurd hseg List.not_mem_nil

/-- The segments of a path that was read are tidy, as the path was cut at its slashes. -/
theorem tidy_readSegments (k : SchemeKind) (cs : List Char) : Tidy (readSegments k cs) := by
  refine forall_follow (P := fun seg => ∀ c ∈ seg, IsSegmentChar c) nofun ?_ nofun
  intro before piece hpiece d hd
  refine isSegmentChar_of_mem_keepSegment (fun c hc hplain => ⟨hplain, ?_⟩) hd
  rintro rfl
  have hslash := (of_mem_split hpiece hc).1
  simp [isSlash] at hslash

/-- So are those behind an authority, where nothing may be left for a path. -/
theorem tidy_readPathAfter (k : SchemeKind) (cs : List Char) : Tidy (readPathAfter k cs) := by
  unfold readPathAfter
  split
  · split
    · exact tidy_root
    · exact tidy_nil
  · exact tidy_readSegments k _

theorem mem_of_mem_dropEmptySegments {segs : List (List Char)} {seg : List Char}
    (h : seg ∈ dropEmptySegments segs) : seg ∈ segs := by
  induction segs with
  | nil => exact h
  | cons first segs ih =>
    unfold dropEmptySegments at h
    split at h
    · next heq =>
      cases heq
      exact List.mem_cons_of_mem _ (ih h)
    · exact h

/-- So are those behind the host of a file, which may be the drive of the path instead. -/
theorem tidy_readFileHost {cs : List Char} {a : Authority} {segs : List (List Char)}
    (h : readFileHost cs = .ok (a, segs)) : Tidy segs := by
  unfold readFileHost at h
  dsimp only at h
  split at h
  · cases h
    split
    · exact tidy_readPathAfter .file cs
    · exact tidy_readSegments .file cs
  · obtain ⟨host, -, hrest⟩ := exists_ok_of_bind h
    split at hrest
    · cases hrest
      exact tidy_readSegments .file _
    · cases hrest
      exact tidy_readSegments .file _

theorem Tidy.dropEmptySegments {segs : List (List Char)} (h : Tidy segs) :
    Tidy (dropEmptySegments segs) :=
  fun seg hseg => h seg (mem_of_mem_dropEmptySegments hseg)

/-- The path of a file is never opaque. -/
theorem segments_of_readFilePlace {cs : List Char} {authority : Option Authority} {path : Path}
    (h : readFilePlace cs = .ok (authority, path)) : ∃ segs, path = .segments segs := by
  unfold readFilePlace at h
  dsimp only at h
  split at h
  · split at h
    · obtain ⟨_, -, hplace⟩ := exists_ok_of_bind h
      cases hplace
      exact ⟨_, rfl⟩
    · cases h
      exact ⟨_, rfl⟩
  · cases h
    exact ⟨_, rfl⟩

/-- The segments of the path of a file are tidy. -/
theorem tidy_readFilePlace {cs : List Char} {authority : Option Authority}
    {segs : List (List Char)} (h : readFilePlace cs = .ok (authority, .segments segs)) :
    Tidy segs := by
  unfold readFilePlace at h
  dsimp only at h
  split at h
  · next a b rest =>
    split at h
    · obtain ⟨⟨host, segs'⟩, hread, hplace⟩ := exists_ok_of_bind h
      cases hplace
      exact (tidy_readFileHost hread).dropEmptySegments
    · cases h
      exact (tidy_readPathAfter .file (a :: b :: rest)).dropEmptySegments
  · cases h
    exact (tidy_readPathAfter .file cs).dropEmptySegments

/-- Of whatever scheme, the segments of a path that was read are tidy. -/
theorem tidy_readPlace {scheme cs : List Char} {authority : Option Authority}
    {segs : List (List Char)} (h : readPlace scheme cs = .ok (authority, .segments segs)) :
    Tidy segs := by
  unfold readPlace at h
  split at h
  · exact tidy_readFilePlace h
  · obtain ⟨⟨a, rest⟩, -, hrest⟩ := exists_ok_of_bind h
    cases hrest
    exact tidy_readPathAfter .web rest
  · split at h
    · obtain ⟨⟨a, rest⟩, -, hrest⟩ := exists_ok_of_bind h
      cases hrest
      exact tidy_readPathAfter .other rest
    · cases h
      exact tidy_readSegments .other _
    · cases h

/-- **The segments of a URL that was read are tidy.** -/
theorem tidy_of_parse {cs : List Char} {u : Url} {segs : List (List Char)}
    (h : parse cs = .ok u) (hpath : u.path = .segments segs) : Tidy segs := by
  obtain ⟨⟨rest, -, hplace⟩, -⟩ := parse_ok h
  rw [hpath] at hplace
  exact tidy_readPlace hplace

end TokenCustody.Url
