/-
TokenCustody.Proofs.Store.Naming — what the URL of a secret says of its name.

The name of a secret is added to the path of the store as one segment, and
percent signs keep whatever is in it: slashes, percent signs, any character
of Unicode. So the name can be read back from the URL, and two secrets of a
store never have one URL.

That is so for ordinary names (`RemoteStore.named_iff`). The rules of paths
take some texts for something else before they are ever encoded. Two names
of points are not added at all, tabs and line ends are dropped, and the
first segment of a local path is never a drive written with a bar. And a
path of two empty segments loses both of them.
-/
import TokenCustody.Proofs.Url.Segments
import TokenCustody.Store.Remote

namespace TokenCustody

open TokenCustody.Text

namespace Url

/-! ## A segment more -/

/-- A path without the empty segment that it ends with. -/
def unended (segs : List (List Char)) : List (List Char) :=
  if segs.getLast? = some [] then segs.dropLast else segs

/-- A text is the URL with one segment more in its path, and that spells the name. An empty
segment at the end of the path makes room for it; nothing else changes. -/
def Extends (u : Url) (name text : String) : Prop :=
  ∃ segs seg, u.path = .segments segs ∧ '/' ∉ seg ∧
    Percent.decode seg = Utf8.encode name.toList ∧
    text = ({ u with path := .segments (unended segs ++ [seg]) } : Url).render

/-- A name that no rule of paths takes for something else, and a path to add it to. -/
structure Ordinary (k : SchemeKind) (segs : List (List Char)) (name : String) : Prop where
  not_here : name ≠ "."
  not_above : name ≠ ".."
  unbroken : ∀ c ∈ name.toList, isBreak c = false
  not_drive : ¬(k = .file ∧ unended segs = [] ∧
    ∃ letter, letter.isAlpha = true ∧ name.toList = [letter, '|'])
  not_hollow : segs ≠ [[], []]

/-! ## What a name is added to -/

theorem unended_concat (front : List (List Char)) : unended (front ++ [[]]) = front := by
  simp [unended]

theorem dropEmptyLast_concat (front : List (List Char)) :
    dropEmptyLast (front ++ [[]]) = if front = [] then [[]] else front := by
  cases front with
  | nil => rfl
  | cons seg front =>
    have hlong : 2 ≤ (seg :: front ++ [[]]).length := by simp
    rw [dropEmptyLast, if_pos ⟨hlong, List.getLast?_concat⟩, List.dropLast_concat,
      if_neg (List.cons_ne_nil seg front)]

theorem dropEmptyLast_of_ne {segs : List (List Char)} (h : segs.getLast? ≠ some []) :
    dropEmptyLast segs = segs ∧ unended segs = segs := by
  simp [dropEmptyLast, unended, h]

/-- The root alone is no segment to add behind. -/
def room (segs : List (List Char)) : List (List Char) :=
  if dropEmptyLast segs = [[]] then [] else dropEmptyLast segs

/-- A name is added where an empty segment ends the path, unless there are two and nothing
else. -/
theorem room_eq_iff {segs : List (List Char)} : room segs = unended segs ↔ segs ≠ [[], []] := by
  by_cases hlast : segs.getLast? = some []
  · obtain ⟨front, rfl⟩ := List.getLast?_eq_some_iff.mp hlast
    rw [room, unended_concat, dropEmptyLast_concat]
    rcases front with _ | ⟨seg, _ | ⟨seg', front⟩⟩
    · simp
    · by_cases hseg : seg = [] <;> simp [hseg]
    · simp
  · obtain ⟨hdrop, hunended⟩ := dropEmptyLast_of_ne hlast
    have hroot : segs ≠ [[]] := by
      rintro rfl
      exact hlast rfl
    have hhollow : segs ≠ [[], []] := by
      rintro rfl
      exact hlast rfl
    rw [room, hdrop, hunended, if_neg hroot]
    exact iff_of_true rfl hhollow

/-- The path itself has no segment more than it had, but the root may pass for one. -/
theorem eq_nil_of_dropEmptyLast {segs : List (List Char)} {seg : List Char}
    (h : dropEmptyLast segs = unended segs ++ [seg]) : seg = [] := by
  by_cases hlast : segs.getLast? = some []
  · obtain ⟨front, rfl⟩ := List.getLast?_eq_some_iff.mp hlast
    rw [unended_concat, dropEmptyLast_concat] at h
    split at h
    · next hfront =>
      subst hfront
      simpa using h.symm
    · simp at h
  · obtain ⟨hdrop, hunended⟩ := dropEmptyLast_of_ne hlast
    rw [hdrop, hunended] at h
    simp at h

/-! ## What a segment spells -/

theorem decode_drive {letter : Char} (h : letter.isAlpha = true) :
    Percent.decode [letter, ':'] = Utf8.encode [letter, ':'] := by
  have hletter : letter ≠ '%' := by
    rintro rfl
    exact absurd h (by decide)
  rw [Percent.decode_plain hletter, Percent.decode_plain (by decide), Percent.decode_nil]
  rfl

/-- The segment that is kept for a text spells the text, but a drive is spelled with a colon. -/
theorem decode_keepSegment (k : SchemeKind) (segs : List (List Char)) (seg : List Char) :
    Percent.decode (keepSegment k (inSegmentSet k.isSpecial) segs seg) =
      Utf8.encode (if k = .file ∧ segs = [] ∧ isDrive seg = true then seg.take 1 ++ [':']
        else seg) := by
  unfold keepSegment
  split
  · next hdrive =>
    obtain ⟨letter, mark, rfl, hletter, -⟩ := isDrive_iff.mp hdrive.2.2
    exact decode_drive hletter
  · have hpercent : inSegmentSet k.isSpecial '%' = true := by simp [inSegmentSet]
    exact Percent.decode_encode hpercent seg

theorem isBreak_of_isAlpha {c : Char} (h : c.isAlpha = true) : isBreak c = false := by
  rw [Bool.eq_false_iff]
  intro hbreak
  simp only [isBreak, Bool.or_eq_true, beq_iff_eq] at hbreak
  rcases hbreak with (rfl | rfl) | rfl <;> exact absurd h (by decide)

theorem isSegmentChar_of_inSegmentSet {special : Bool} {c : Char}
    (h : inSegmentSet special c = false) : IsSegmentChar c := by
  simp only [inSegmentSet, Bool.or_eq_false_iff, beq_eq_false_iff_ne] at h
  exact ⟨h.1.1.1, h.1.1.2⟩

theorem slash_keepSegment (k : SchemeKind) (segs : List (List Char)) (seg : List Char) :
    '/' ∉ keepSegment k (inSegmentSet k.isSpecial) segs seg := by
  intro hmem
  exact (isSegmentChar_of_mem_keepSegment (fun c _ => isSegmentChar_of_inSegmentSet) hmem).2 rfl

/-! ## Adding a name -/

/-- A name that is not dropped is told by what is left of it without tabs and line ends. -/
theorem addSegment_eq {k : SchemeKind} {segs : List (List Char)} {name : List Char}
    (h : ¬(name = ['.'] ∨ name = ['.', '.'])) :
    addSegment k (dropEmptyLast segs) name =
      match name.filter fun c => !isBreak c with
      | ['.', '.'] => above (room segs) ++ [[]]
      | ['.'] => room segs ++ [[]]
      | seg => room segs ++ [keepSegment k (inSegmentSet k.isSpecial) (room segs) seg] := by
  unfold addSegment
  rw [if_neg h]
  rfl

/-- What an ordinary name adds. -/
theorem Ordinary.addSegment_eq {k : SchemeKind} {segs : List (List Char)} {name : String}
    (h : Ordinary k segs name) : addSegment k (dropEmptyLast segs) name.toList =
      unended segs ++ [keepSegment k (inSegmentSet k.isSpecial) (unended segs) name.toList] := by
  have hhere : name.toList ≠ ['.'] := fun heq => h.not_here (String.toList_inj.mp heq)
  have habove : name.toList ≠ ['.', '.'] := fun heq => h.not_above (String.toList_inj.mp heq)
  have hfilter : name.toList.filter (fun c => !isBreak c) = name.toList :=
    List.filter_eq_self.mpr fun c hc => by simp [h.unbroken c hc]
  rw [Url.addSegment_eq (by simp [hhere, habove]), hfilter, room_eq_iff.mpr h.not_hollow]
  split
  · next heq => exact absurd heq habove
  · next heq => exact absurd heq hhere
  · rfl

theorem Ordinary.decode {k : SchemeKind} {segs : List (List Char)} {name : String}
    (h : Ordinary k segs name) :
    Percent.decode (keepSegment k (inSegmentSet k.isSpecial) (unended segs) name.toList) =
      Utf8.encode name.toList := by
  rw [decode_keepSegment]
  split
  · next hdrive =>
    obtain ⟨hk, hroom, hd⟩ := hdrive
    obtain ⟨letter, mark, hname, hletter, rfl | rfl⟩ := isDrive_iff.mp hd
    · rw [hname]
      rfl
    · exact absurd ⟨hk, hroom, letter, hletter, hname⟩ h.not_drive
  · rfl

/-- A name whose segment is added and spells it is ordinary. -/
theorem ordinary_of_addSegment {k : SchemeKind} {segs : List (List Char)} {name : String}
    {seg : List Char} (hspells : Percent.decode seg = Utf8.encode name.toList)
    (hpath : addSegment k (dropEmptyLast segs) name.toList = unended segs ++ [seg]) :
    Ordinary k segs name := by
  -- The empty segment spells the empty name only.
  have hempty : seg = [] → name.toList = [] := by
    rintro rfl
    have hnil : Utf8.encode [] = Utf8.encode name.toList := Percent.decode_nil.symm.trans hspells
    exact (Utf8.eq_of_encode_eq hnil).symm
  by_cases hpoints : name.toList = ['.'] ∨ name.toList = ['.', '.']
  · unfold addSegment at hpath
    rw [if_pos hpoints] at hpath
    have hnil := hempty (eq_nil_of_dropEmptyLast hpath)
    simp [hnil] at hpoints
  rw [addSegment_eq hpoints] at hpath
  split at hpath
  · next hfilter =>
    obtain ⟨-, hseg⟩ := List.append_inj' hpath rfl
    rw [hempty (List.singleton_inj.mp hseg).symm] at hfilter
    cases hfilter
  · next hfilter =>
    obtain ⟨-, hseg⟩ := List.append_inj' hpath rfl
    rw [hempty (List.singleton_inj.mp hseg).symm] at hfilter
    cases hfilter
  · obtain ⟨hroom, hseg⟩ := List.append_inj' hpath rfl
    rw [← List.singleton_inj.mp hseg, decode_keepSegment] at hspells
    have hname := Utf8.eq_of_encode_eq hspells
    have hwhole : name.toList.filter (fun c => !isBreak c) = name.toList := by
      split at hname
      · next hdrive =>
        -- Then the name is the drive with a colon, and that has no break.
        obtain ⟨letter, mark, hfilter, hletter, -⟩ := isDrive_iff.mp hdrive.2.2
        rw [hfilter] at hname
        have hcolon : isBreak ':' = false := rfl
        rw [← hname]
        simp [isBreak_of_isAlpha hletter, hcolon]
      · exact hname
    rw [hwhole] at hname
    refine ⟨?_, ?_, ?_, ?_, room_eq_iff.mp hroom⟩
    · rintro rfl
      exact hpoints (Or.inl rfl)
    · rintro rfl
      exact hpoints (Or.inr rfl)
    · intro c hc
      simpa using List.filter_eq_self.mp hwhole c hc
    · rintro ⟨hk, hnone, letter, hletter, hbar⟩
      have hdrive : isDrive name.toList = true :=
        isDrive_iff.mpr ⟨letter, '|', hbar, hletter, Or.inr rfl⟩
      rw [if_pos ⟨hk, hroom.trans hnone, hdrive⟩, hbar] at hname
      simp at hname

/-! ## URLs of secrets -/

/-- Two URLs that differ in their paths only are not written alike. -/
theorem path_of_render_eq {u : Url} {segs segs' : List (List Char)}
    (hfree : ∀ seg ∈ segs, '/' ∉ seg) (hfree' : ∀ seg ∈ segs', '/' ∉ seg)
    (h : ({ u with path := .segments segs } : Url).render =
      ({ u with path := .segments segs' } : Url).render) : segs = segs' := by
  have hprint := String.ofList_inj.mp h
  unfold print at hprint
  have hpath := List.append_cancel_left (List.append_cancel_right (List.append_cancel_right hprint))
  exact printSegments_inj hfree hfree' hpath

theorem mem_of_mem_unended {segs : List (List Char)} {seg : List Char} (h : seg ∈ unended segs) :
    seg ∈ segs := by
  unfold unended at h
  split at h
  · exact List.dropLast_subset segs h
  · exact h

theorem mem_of_mem_dropEmptyLast {segs : List (List Char)} {seg : List Char}
    (h : seg ∈ dropEmptyLast segs) : seg ∈ segs := by
  unfold dropEmptyLast at h
  split at h
  · exact List.dropLast_subset segs h
  · exact h

theorem mem_of_mem_room {segs : List (List Char)} {seg : List Char} (h : seg ∈ room segs) :
    seg ∈ segs := by
  unfold room at h
  split at h
  · cases h
  · exact mem_of_mem_dropEmptyLast h

theorem slash_concat {front : List (List Char)} {last : List Char}
    (hfront : ∀ seg ∈ front, '/' ∉ seg) (hlast : '/' ∉ last) :
    ∀ seg ∈ front ++ [last], '/' ∉ seg :=
  List.forall_mem_append.mpr ⟨hfront, List.forall_mem_singleton.mpr hlast⟩

/-- No segment holds a slash, whatever name was added. -/
theorem slash_addSegment {k : SchemeKind} {segs : List (List Char)}
    (h : ∀ seg ∈ segs, '/' ∉ seg) (name : List Char) :
    ∀ seg ∈ addSegment k (dropEmptyLast segs) name, '/' ∉ seg := by
  have hroom : ∀ seg ∈ room segs, '/' ∉ seg := fun seg hseg => h seg (mem_of_mem_room hseg)
  by_cases hpoints : name = ['.'] ∨ name = ['.', '.']
  · unfold addSegment
    rw [if_pos hpoints]
    exact fun seg hseg => h seg (mem_of_mem_dropEmptyLast hseg)
  · rw [addSegment_eq hpoints]
    split
    · exact slash_concat (fun seg hseg => hroom seg (mem_of_mem_above hseg)) List.not_mem_nil
    · exact slash_concat hroom List.not_mem_nil
    · exact slash_concat hroom (slash_keepSegment k _ _)

/-- The URL that a name is added to is written with one segment more, and that spells the name,
exactly if the name is ordinary. -/
theorem extends_iff {u v : Url} {segs : List (List Char)} {name : String}
    (hpath : u.path = .segments segs) (hfree : ∀ seg ∈ segs, '/' ∉ seg)
    (hchild : u.child name = some v) : u.Extends name v.render ↔ Ordinary u.kind segs name := by
  unfold child at hchild
  rw [hpath] at hchild
  cases hchild
  constructor
  · rintro ⟨segs', seg, hpath', hslash, hspells, hrender⟩
    cases hpath.symm.trans hpath'
    have hunended : ∀ seg ∈ unended segs, '/' ∉ seg :=
      fun seg hseg => hfree seg (mem_of_mem_unended hseg)
    exact ordinary_of_addSegment hspells (path_of_render_eq (slash_addSegment hfree name.toList)
      (slash_concat hunended hslash) hrender)
  · intro hordinary
    exact ⟨segs, _, hpath, slash_keepSegment u.kind _ _, hordinary.decode,
      congrArg (fun segs => ({ u with path := .segments segs } : Url).render)
        hordinary.addSegment_eq⟩

/-- A text spells the name that it adds to a URL. -/
theorem Extends.name_inj {u : Url} {segs : List (List Char)} {name name' text : String}
    (hpath : u.path = .segments segs) (hfree : ∀ seg ∈ segs, '/' ∉ seg)
    (h : u.Extends name text) (h' : u.Extends name' text) : name = name' := by
  obtain ⟨s, seg, hs, hslash, hspells, hrender⟩ := h
  obtain ⟨s', seg', hs', hslash', hspells', hrender'⟩ := h'
  cases hpath.symm.trans hs
  cases hpath.symm.trans hs'
  have hunended : ∀ seg ∈ unended segs, '/' ∉ seg :=
    fun seg hseg => hfree seg (mem_of_mem_unended hseg)
  have hsegs := path_of_render_eq (slash_concat hunended hslash) (slash_concat hunended hslash')
    (hrender.symm.trans hrender')
  have hseg : seg = seg' := List.singleton_inj.mp (List.append_cancel_left hsegs)
  exact String.toList_inj.mp (Utf8.eq_of_encode_eq (by rw [← hspells, ← hspells', hseg]))

end Url

namespace RemoteStore

theorem child_of_ofConfig {c : StoreConfig} {store : RemoteStore}
    (h : RemoteStore.ofConfig c = .ok store) : ∃ u v segs, Url.ofString c.baseUrl = .ok u ∧
      u.path = .segments segs ∧ u.child c.secretName = some v ∧ store.secretUrl = v.render := by
  unfold RemoteStore.ofConfig at h
  split at h
  · next v hbind =>
    cases h
    cases hu : Url.ofString c.baseUrl with
    | error e =>
      rw [hu] at hbind
      cases hbind
    | ok u =>
      rw [hu] at hbind
      cases hpath : u.path with
      | opaquePath cs => simp [Except.toOption, Url.child, hpath] at hbind
      | segments segs => exact ⟨u, v, segs, rfl, hpath, hbind, rfl⟩
  · cases h

/-- **The URL of a secret names it if its name is ordinary.** Then, and only then, it is the URL
of the place with one segment more, and that spells the name. Two secrets at one place with
ordinary names have one URL only if they have one name. -/
theorem named_iff (c : StoreConfig) (store : RemoteStore)
    (h : RemoteStore.ofConfig c = .ok store) :
    ∃ u segs, Url.ofString c.baseUrl = .ok u ∧ u.path = .segments segs ∧
      (u.Extends c.secretName store.secretUrl ↔ Url.Ordinary u.kind segs c.secretName) ∧
      ∀ c' store', RemoteStore.ofConfig c' = .ok store' → Url.ofString c'.baseUrl = .ok u →
        Url.Ordinary u.kind segs c.secretName → Url.Ordinary u.kind segs c'.secretName →
        (store.secretUrl = store'.secretUrl ↔ c.secretName = c'.secretName) := by
  obtain ⟨u, v, segs, hu, hpath, hchild, hurl⟩ := child_of_ofConfig h
  have hfree : ∀ seg ∈ segs, '/' ∉ seg := (Url.tidy_of_parse hu hpath).slash
  have hnamed := Url.extends_iff hpath hfree hchild
  rw [← hurl] at hnamed
  refine ⟨u, segs, hu, hpath, hnamed, ?_⟩
  intro c' store' h' hplace hordinary hordinary'
  obtain ⟨u', v', segs', hu', hpath', hchild', hurl'⟩ := child_of_ofConfig h'
  cases hplace.symm.trans hu'
  cases hpath.symm.trans hpath'
  have hnamed' := Url.extends_iff hpath hfree hchild'
  rw [← hurl'] at hnamed'
  constructor
  · intro heq
    exact (hnamed.mpr hordinary).name_inj hpath hfree (heq ▸ hnamed'.mpr hordinary')
  · intro hname
    rw [hname, hchild'] at hchild
    rw [hurl, hurl', Option.some_inj.mp hchild]

namespace Sample

/-- A secret of some name at some place. -/
def secretAt (place name : String) : StoreConfig := ⟨place, name, none, .ofSeconds 10⟩

/-- A place that ends with a slash. -/
def shelf : Url :=
  { scheme := "https".toList
    authority := some ⟨[], [], .ipv6 [0, 0, 0, 0, 0, 0, 0, 1], none⟩
    guarded := false
    path := .segments ["store".toList, []]
    query := none
    fragment := none }

end Sample

open Sample

theorem named_iff_of_sample :
    Url.ofString "https://[::1]/store/" = .ok shelf ∧
      RemoteStore.ofConfig (secretAt "https://[::1]/store/" "a/b%") =
        .ok ⟨secretAt "https://[::1]/store/" "a/b%", "https://[::1]/store/a%2Fb%25"⟩ ∧
      shelf.Extends "a/b%" "https://[::1]/store/a%2Fb%25" ∧
      ∀ store, RemoteStore.ofConfig (secretAt "https://[::1]/store/" "a/b") = .ok store →
        store.secretUrl ≠ "https://[::1]/store/a%2Fb%25" := by
  have hplace : Url.ofString "https://[::1]/store/" = .ok shelf := rfl
  have hstore : RemoteStore.ofConfig (secretAt "https://[::1]/store/" "a/b%") =
      .ok ⟨secretAt "https://[::1]/store/" "a/b%", "https://[::1]/store/a%2Fb%25"⟩ := rfl
  have hordinary (name : String) (hhere : name ≠ ".") (habove : name ≠ "..")
      (hbreak : name.toList.any Url.isBreak = false) :
      Url.Ordinary shelf.kind ["store".toList, []] name :=
    ⟨hhere, habove, fun c hc => Bool.eq_false_iff.mpr (List.any_eq_false.mp hbreak c hc),
      fun h => absurd h.2.1 (by decide), by decide⟩
  obtain ⟨u, segs, hu, hpath, hnamed, hone⟩ := named_iff _ _ hstore
  cases hplace.symm.trans hu
  cases hpath
  refine ⟨hplace, hstore, hnamed.mpr (hordinary _ (by decide) (by decide) (by decide)), ?_⟩
  intro store hother heq
  have hname := (hone _ store hother hplace (hordinary _ (by decide) (by decide) (by decide))
    (hordinary _ (by decide) (by decide) (by decide))).mp heq.symm
  exact absurd hname (by decide)

/-- A tab in a name is dropped, so two secrets have one URL, and it names only the one. -/
theorem secrets_collide :
    RemoteStore.ofConfig (secretAt "https://[::1]/store" "a\tb") =
        .ok ⟨secretAt "https://[::1]/store" "a\tb", "https://[::1]/store/ab"⟩ ∧
      RemoteStore.ofConfig (secretAt "https://[::1]/store" "ab") =
        .ok ⟨secretAt "https://[::1]/store" "ab", "https://[::1]/store/ab"⟩ ∧
      ∀ u, Url.ofString "https://[::1]/store" = .ok u →
        ¬u.Extends "a\tb" "https://[::1]/store/ab" := by
  refine ⟨rfl, rfl, ?_⟩
  intro u hu hextends
  have hplace : Url.ofString "https://[::1]/store" =
      .ok { shelf with path := .segments ["store".toList] } := rfl
  cases hplace.symm.trans hu
  have hchild : ({ shelf with path := .segments ["store".toList] } : Url).child "a\tb" =
    some { shelf with path := .segments ["store".toList, "ab".toList] } := rfl
  have hordinary := (Url.extends_iff rfl (by decide) hchild).mp hextends
  exact absurd (hordinary.unbroken '\t' (by decide)) (by decide)

end RemoteStore

end TokenCustody
