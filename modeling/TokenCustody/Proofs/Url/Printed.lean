/-
TokenCustody.Proofs.Url.Printed — how URLs are written, and read again.

A URL that was read is written so that the same marks cut it into the same
parts (`Url.Legible`). Its scheme is in small letters. The place holds no
mark of a query or fragment and no line end, and no blank except in an
opaque path, where spaces are kept; and a space is not the last character
that is written, because the text that was read did not end with one.
Query and fragment are percent-encoded, and to encode them once more
changes nothing.

So the query of a written URL can be replaced by any other that is encoded,
and nothing else is read differently (`Url.Legible.parse_replaced`). Whether
the place is read at all is its own question: a domain name may have a
label whose code is too long to be read.
-/
import TokenCustody.Proofs.Text.Written
import TokenCustody.Proofs.Url.Hosts
import TokenCustody.Proofs.Url.Segments

namespace TokenCustody.Url

open TokenCustody.Text

/-! ## What no encoder leaves -/

/-- What is neither a control nor a space stands above the space. -/
theorem lt_of_not_isControl {c : Char} (h : isControl c = false) (hspace : c ≠ ' ') :
    0x20 < c.toNat := by
  simp only [isControl, Bool.or_eq_false_iff, decide_eq_false_iff_not] at h
  have hne : c.toNat ≠ 0x20 := fun heq => hspace (Char.toNat_inj.mp heq)
  omega

theorem lt_of_not_inFragmentSet {c : Char} (h : inFragmentSet c = false) : 0x20 < c.toNat := by
  simp only [inFragmentSet, Bool.or_eq_false_iff, beq_eq_false_iff_ne] at h
  exact lt_of_not_isControl h.1.1.1.1.1 h.1.1.1.1.2

/-- A query is written with characters above the space and without the mark of a fragment. -/
theorem lt_of_not_inQuerySet {special : Bool} {c : Char} (h : inQuerySet special c = false) :
    0x20 < c.toNat ∧ c ≠ '#' := by
  simp only [inQuerySet, Bool.or_eq_false_iff, beq_eq_false_iff_ne] at h
  exact ⟨lt_of_not_isControl h.1.1.1.1.1.1 h.1.1.1.1.1.2, h.1.1.1.2⟩

/-- What is left as it is in a path is solid. -/
theorem isSolid_of_not_inPathSet {c : Char} (h : inPathSet c = false) : IsSolid c := by
  simp only [inPathSet, Bool.or_eq_false_iff, beq_eq_false_iff_ne] at h
  exact ⟨lt_of_not_inFragmentSet h.1.1.1.1, h.1.1.2, h.1.1.1.2⟩

theorem isSolid_of_not_inUserSet {c : Char} (h : inUserSet c = false) : IsSolid c := by
  simp only [inUserSet, Bool.or_eq_false_iff] at h
  exact isSolid_of_not_inPathSet h.1.1.1.1.1.1.1.1.1.1

/-! ## Authorities -/

/-- An authority that is written with solid characters only. -/
def Authority.Solid (a : Authority) : Prop := ∀ c ∈ a.print, IsSolid c

/-- An authority is solid if its parts are, as the marks between them are. -/
theorem Authority.solid_of_parts {a : Authority} (husername : ∀ c ∈ a.username, IsSolid c)
    (hpassword : ∀ c ∈ a.password, IsSolid c) (hhost : a.host.Solid) : a.Solid := by
  have hsecret : ∀ c ∈ (if a.password = [] then [] else ':' :: a.password), IsSolid c := by
    intro c hc
    split at hc
    · cases hc
    · rcases List.mem_cons.mp hc with rfl | hc
      · decide
      · exact hpassword c hc
  have huser : ∀ c ∈ a.printUser, IsSolid c := by
    unfold Authority.printUser
    dsimp only
    generalize (if a.password = [] then [] else ':' :: a.password) = secret at hsecret ⊢
    split
    · exact nofun
    · intro c hc
      rcases List.mem_append.mp hc with hc | hc
      · rcases List.mem_append.mp hc with hc | hc
        · exact husername c hc
        · exact hsecret c hc
      · rw [List.mem_singleton.mp hc]
        decide
  have hport : ∀ c ∈ a.printPort, IsSolid c := by
    intro c hc
    unfold Authority.printPort at hc
    split at hc
    · rcases List.mem_cons.mp hc with rfl | hc
      · decide
      · exact isSolid_of_isDigit (isDigit_of_mem_decimal hc)
    · cases hc
  intro c hc
  rcases List.mem_append.mp hc with hc | hc
  · rcases List.mem_append.mp hc with hc | hc
    · exact huser c hc
    · exact hhost c hc
  · exact hport c hc

/-- What an authority was read from: its user and its host. -/
theorem readAuthority_ok {scheme cs rest : List Char} {a : Authority}
    (h : readAuthority scheme cs = .ok (a, rest)) :
    (∃ user, (a.username, a.password) = readUser user) ∧
      ∃ hostText, readHost (.of scheme) hostText = .ok a.host := by
  unfold readAuthority at h
  dsimp only at h
  split at h
  · cases h
  · obtain ⟨host, hhost, hrest⟩ := exists_ok_of_bind h
    split at hrest
    · cases hrest
    · split at hrest
      · obtain ⟨_, -, hport⟩ := exists_ok_of_bind hrest
        cases hport
        exact ⟨⟨_, rfl⟩, _, hhost⟩
      · cases hrest
        exact ⟨⟨_, rfl⟩, _, hhost⟩

/-- An authority that was read is solid: user and password are encoded, and the host is solid. -/
theorem solid_readAuthority {scheme cs rest : List Char} {a : Authority}
    (h : readAuthority scheme cs = .ok (a, rest)) : a.Solid := by
  obtain ⟨⟨user, huser⟩, hostText, hhost⟩ := readAuthority_ok h
  obtain ⟨husername, hpassword⟩ := Prod.mk.inj huser
  refine Authority.solid_of_parts ?_ ?_ (solid_readHost hhost)
  · rw [husername]
    exact isSolid_of_mem_encode fun c _ _ => isSolid_of_not_inUserSet
  · rw [hpassword]
    exact isSolid_of_mem_encode fun c _ _ => isSolid_of_not_inUserSet

theorem solid_fileAuthority {host : Host} (h : host.Solid) :
    ({ localAuthority with host } : Authority).Solid :=
  Authority.solid_of_parts nofun nofun h

theorem solid_localAuthority : localAuthority.Solid := by
  have hhost : (Host.name []).Solid := nofun
  exact solid_fileAuthority hhost

/-- The host of a file is solid, or there is none. -/
theorem solid_readFileHost {cs : List Char} {a : Authority} {segs : List (List Char)}
    (h : readFileHost cs = .ok (a, segs)) : a.Solid := by
  unfold readFileHost at h
  dsimp only at h
  split at h
  · cases h
    exact solid_localAuthority
  · obtain ⟨host, hhost, hrest⟩ := exists_ok_of_bind h
    split at hrest
    · cases hrest
      exact solid_localAuthority
    · cases hrest
      exact solid_fileAuthority (solid_readDomainHost hhost)

/-- The authority of a file is solid, whichever way it was written. -/
theorem solid_readFilePlace {cs : List Char} {authority : Option Authority} {path : Path}
    (h : readFilePlace cs = .ok (authority, path)) : ∀ a ∈ authority, a.Solid := by
  unfold readFilePlace at h
  dsimp only at h
  split at h
  · split at h
    · obtain ⟨⟨a, segs⟩, hread, hplace⟩ := exists_ok_of_bind h
      cases hplace
      rintro _ ⟨⟩
      exact solid_readFileHost hread
    · cases h
      rintro _ ⟨⟩
      exact solid_localAuthority
  · cases h
    rintro _ ⟨⟩
    exact solid_localAuthority

/-- Authorities are written with solid characters only. -/
theorem solid_readPlace {scheme cs : List Char} {authority : Option Authority} {path : Path}
    (h : readPlace scheme cs = .ok (authority, path)) : ∀ a ∈ authority, a.Solid := by
  unfold readPlace at h
  split at h
  · exact solid_readFilePlace h
  · obtain ⟨⟨a, rest⟩, hread, hplace⟩ := exists_ok_of_bind h
    cases hplace
    rintro _ ⟨⟩
    exact solid_readAuthority hread
  · split at h
    · obtain ⟨⟨a, rest⟩, hread, hplace⟩ := exists_ok_of_bind h
      cases hplace
      rintro _ ⟨⟩
      exact solid_readAuthority hread
    · cases h
      exact nofun
    · cases h
      exact nofun

/-- An opaque path is all of the text. -/
theorem opaquePath_of_readPlace {scheme cs p : List Char} {authority : Option Authority}
    (h : readPlace scheme cs = .ok (authority, .opaquePath p)) :
    p = Percent.encode isControl cs := by
  unfold readPlace at h
  split at h
  · obtain ⟨segs, hsegs⟩ := segments_of_readFilePlace h
    cases hsegs
  · obtain ⟨_, -, hplace⟩ := exists_ok_of_bind h
    cases hplace
  · split at h
    · obtain ⟨_, -, hplace⟩ := exists_ok_of_bind h
      cases hplace
    · cases h
    · cases h
      rfl

/-! ## Schemes -/

/-- A scheme as it is written. -/
def IsSchemeName (cs : List Char) : Prop :=
  ∃ c rest, cs = c :: rest ∧ c.isAlpha = true ∧
    ∀ d ∈ cs, isSchemeChar d = true ∧ d.toLower = d

theorem ascii_of_isSchemeChar {c : Char} (h : isSchemeChar c = true) : c.toNat < 0x80 := by
  simp only [isSchemeChar, Bool.or_eq_true, beq_iff_eq] at h
  rcases h with ((h | rfl) | rfl) | rfl
  · exact ascii_of_isAlphanum h
  · decide
  · decide
  · decide

theorem isSchemeChar_of_isAlpha {c : Char} (h : c.isAlpha = true) : isSchemeChar c = true := by
  simp [isSchemeChar, Char.isAlphanum, h]

/-- A character of a scheme stays one in lower case, and is not changed by that again. -/
theorem isSchemeChar_toLower {c : Char} (h : isSchemeChar c = true) :
    isSchemeChar c.toLower = true ∧ c.toLower.toLower = c.toLower := by
  have hall : ∀ n < 0x80, isSchemeChar (Char.ofNat n) = true →
      isSchemeChar (Char.ofNat n).toLower = true ∧
        (Char.ofNat n).toLower.toLower = (Char.ofNat n).toLower := by decide
  exact of_ascii (p := fun c => isSchemeChar c = true →
    isSchemeChar c.toLower = true ∧ c.toLower.toLower = c.toLower) hall (ascii_of_isSchemeChar h) h

theorem isAlpha_toLower {c : Char} (h : c.isAlpha = true) : c.toLower.isAlpha = true := by
  have hall : ∀ n < 0x80, (Char.ofNat n).isAlpha = true →
      (Char.ofNat n).toLower.isAlpha = true := by decide
  exact of_ascii (p := fun c => c.isAlpha = true → c.toLower.isAlpha = true) hall
    (ascii_of_isSchemeChar (isSchemeChar_of_isAlpha h)) h

/-- Schemes are written with solid characters. -/
theorem isSolid_of_isSchemeChar {c : Char} (h : isSchemeChar c = true) : IsSolid c := by
  have hall : ∀ n < 0x80, isSchemeChar (Char.ofNat n) = true → IsSolid (Char.ofNat n) := by decide
  exact of_ascii (p := fun c => isSchemeChar c = true → IsSolid c) hall
    (ascii_of_isSchemeChar h) h

/-- A scheme that was read is a name in lower case. -/
theorem isSchemeName_of_readScheme {cs scheme rest : List Char}
    (h : readScheme cs = .ok (scheme, rest)) : IsSchemeName scheme := by
  unfold readScheme at h
  split at h
  · next c written rest' _ =>
    split at h
    · next hname =>
      cases h
      obtain ⟨hfirst, hothers⟩ := Bool.and_eq_true _ _ ▸ hname
      refine ⟨c.toLower, written.map Char.toLower, rfl, isAlpha_toLower hfirst, fun d hd => ?_⟩
      obtain ⟨e, he, rfl⟩ := List.mem_map.mp hd
      rcases List.mem_cons.mp he with rfl | he
      · exact isSchemeChar_toLower (isSchemeChar_of_isAlpha hfirst)
      · exact isSchemeChar_toLower (List.all_eq_true.mp hothers e he)
    · cases h
  · cases h

/-- A written scheme is read again. -/
theorem IsSchemeName.readScheme {scheme : List Char} (h : IsSchemeName scheme)
    (rest : List Char) : readScheme (scheme ++ ':' :: rest) = .ok (scheme, rest) := by
  obtain ⟨c, others, rfl, hfirst, hall⟩ := h
  have hcolon : ∀ d ∈ c :: others, (d == ':') = false := by
    intro d hd
    refine beq_eq_false_iff_ne.mpr ?_
    rintro rfl
    exact absurd (hall ':' hd).1 (by decide)
  have hothers : others.all isSchemeChar = true :=
    List.all_eq_true.mpr fun d hd => (hall d (List.mem_cons_of_mem c hd)).1
  have hlower : (c :: others).map Char.toLower = c :: others :=
    (List.map_congr_left fun d hd => (hall d hd).2).trans (List.map_id _)
  unfold Url.readScheme
  rw [cut_append_cons hcolon (beq_self_eq_true ':')]
  dsimp only
  rw [hfirst, hothers, hlower]
  rfl

/-! ## Ends of texts -/

theorem isOuterBlank_eq_false_iff {c : Char} : isOuterBlank c = false ↔ 0x20 < c.toNat := by
  simp [isOuterBlank]

theorem isOuterBlank_of_isBreak {c : Char} (h : isBreak c = true) : isOuterBlank c = true := by
  simp only [isBreak, Bool.or_eq_true, beq_iff_eq] at h
  rcases h with (rfl | rfl) | rfl <;> decide

/-- What counts in a text does not end with a blank. -/
theorem last_significant {cs : List Char} {c : Char} (h : c ∈ (significant cs).getLast?) :
    isOuterBlank c = false := by
  unfold significant at h
  rcases List.eq_nil_or_concat (trimBoth isOuterBlank cs) with hnil | ⟨front, d, hconcat⟩
  · rw [hnil] at h
    cases h
  · have hlast : d ∈ (trimBoth isOuterBlank cs).getLast? := by simp [hconcat]
    have hd : isOuterBlank d = false := last_trimBoth hlast
    have hkept : (!isBreak d) = true := by
      cases hbreak : isBreak d with
      | false => rfl
      | true => exact absurd (isOuterBlank_of_isBreak hbreak) (by simp [hd])
    have hfilter : [d].filter (fun c => !isBreak c) = [d] := by simp [hkept]
    rw [hconcat, List.concat_eq_append, List.filter_append, hfilter, List.getLast?_concat] at h
    cases h
    exact hd

/-- What is written for a text ends as solid as the text does. -/
theorem last_encode {set : Char → Bool} {cs : List Char} (h : ∀ c ∈ cs.getLast?, IsSolid c) :
    ∀ d ∈ (Percent.encode set cs).getLast?, IsSolid d := by
  intro d hd
  rcases List.eq_nil_or_concat cs with rfl | ⟨front, c, rfl⟩
  · cases hd
  · have hc : IsSolid c := h c (by simp)
    have hne : Percent.encode set [c] ≠ [] := Percent.encode_ne_nil (List.cons_ne_nil c [])
    rw [List.concat_eq_append, Percent.encode_append, List.getLast?_append,
      Option.or_of_isSome (List.getLast?_isSome.mpr hne)] at hd
    have hplain : ∀ e ∈ [c], e.toNat < 0x80 → set e = false → IsSolid e :=
      List.forall_mem_singleton.mpr fun _ _ => hc
    exact isSolid_of_mem_encode hplain d (List.mem_of_getLast? hd)

/-! ## Written URLs -/

/-- What is written before the path. -/
def lead (u : Url) : List Char := u.scheme ++ ':' :: u.printFront

/-- What is written before the query: the scheme and the place. -/
def place (u : Url) : List Char := u.lead ++ u.path.print

/-- What is written behind the place. -/
def tail (u : Url) : List Char := printPart '?' u.query ++ printPart '#' u.fragment

theorem print_eq (u : Url) : u.print = u.place ++ u.tail := List.append_assoc ..

/-- A URL is read from the parts that its marks cut. -/
theorem parse_eq (cs : List Char) : parse cs =
    (parseFront (placeText (significant cs))).bind fun v => .ok { v with
      query := (queryText (significant cs)).map (Percent.encode (inQuerySet v.kind.isSpecial))
      fragment := (fragmentText (significant cs)).map (Percent.encode inFragmentSet) } := rfl

/-- A part is cut off again at its mark, if that stands nowhere before. -/
theorem cut_printPart {mark : Char} {cs : List Char} {part : Option (List Char)}
    (h : ∀ c ∈ cs, c ≠ mark) : cut (· == mark) (cs ++ printPart mark part) = (cs, part) := by
  have hfree : ∀ c ∈ cs, (c == mark) = false := fun c hc => beq_eq_false_iff_ne.mpr (h c hc)
  cases part with
  | none => rw [printPart, List.append_nil, cut_eq_self hfree]
  | some part => rw [printPart, cut_append_cons hfree (beq_self_eq_true mark)]

/-- Whatever holds of the mark and of what is behind it holds of a written part. -/
theorem forall_mem_printPart {P : Char → Prop} {mark : Char} {part : Option (List Char)}
    (hmark : P mark) (hpart : ∀ cs ∈ part, ∀ c ∈ cs, P c) : ∀ c ∈ printPart mark part, P c := by
  cases part with
  | none => exact nofun
  | some cs => exact List.forall_mem_cons.mpr ⟨hmark, hpart cs rfl⟩

/-- A URL whose parts are found again in the text that it is written as. -/
structure Legible (u : Url) : Prop where
  scheme : IsSchemeName u.scheme
  place : ∀ c ∈ u.place, IsSolid c ∨ c = ' '
  last : u.query = none → u.fragment = none → ∀ c ∈ u.place.getLast?, IsSolid c
  query : ∀ q ∈ u.query, Percent.IsEncoded (inQuerySet u.kind.isSpecial) q
  fragment : ∀ f ∈ u.fragment, Percent.IsEncoded inFragmentSet f

theorem IsSolid.isOuterBlank {c : Char} (h : IsSolid c) : isOuterBlank c = false :=
  isOuterBlank_eq_false_iff.mpr h.1

/-- Tabs and line ends are blanks, so what is no blank is none of them. -/
theorem isBreak_of_not_isOuterBlank {c : Char} (h : isOuterBlank c = false) :
    isBreak c = false := by
  cases hbreak : isBreak c with
  | false => rfl
  | true => exact absurd (isOuterBlank_of_isBreak hbreak) (by simp [h])

namespace Legible

variable {u : Url} (h : u.Legible)
include h

/-- Nothing behind the place is blank. -/
theorem tail_solid : ∀ c ∈ u.tail, isOuterBlank c = false := by
  refine List.forall_mem_append.mpr ⟨?_, ?_⟩
  · exact forall_mem_printPart (by decide) fun q hq c hc =>
      isOuterBlank_eq_false_iff.mpr (lt_of_not_inQuerySet (h.query q hq c hc).2).1
  · exact forall_mem_printPart (by decide) fun f hf c hc =>
      isOuterBlank_eq_false_iff.mpr (lt_of_not_inFragmentSet (h.fragment f hf c hc).2)

/-- A place begins with the letter of a scheme, and so with no blank. -/
theorem first_place : ∀ c ∈ u.place.head?, isOuterBlank c = false := by
  obtain ⟨c, cs, hscheme, hfirst, -⟩ := h.scheme
  intro d hd
  rw [Url.place, lead, hscheme] at hd
  cases hd
  exact (isSolid_of_isSchemeChar (isSchemeChar_of_isAlpha hfirst)).isOuterBlank

/-- No written URL ends with a blank. -/
theorem last_print : ∀ c ∈ u.print.getLast?, isOuterBlank c = false := by
  intro c hc
  rw [print_eq] at hc
  by_cases htail : u.tail = []
  · obtain ⟨hquery, hfragment⟩ := List.append_eq_nil_iff.mp htail
    have hnone {mark : Char} {part : Option (List Char)} (hpart : printPart mark part = []) :
        part = none := by
      cases part with
      | none => rfl
      | some _ => cases hpart
    rw [htail, List.append_nil] at hc
    exact (h.last (hnone hquery) (hnone hfragment) c hc).isOuterBlank
  · rw [List.getLast?_append, Option.or_of_isSome (List.getLast?_isSome.mpr htail)] at hc
    exact h.tail_solid c (List.mem_of_getLast? hc)

/-- Everything counts in the text of a written URL. -/
theorem significant_print : significant u.print = u.print := by
  have hplace : u.place ≠ [] := by simp [Url.place, lead]
  have htrim : trimBoth isOuterBlank u.print = u.print := by
    have hfirst : ∀ c ∈ u.print.head?, isOuterBlank c = false := by
      rw [print_eq, List.head?_append, Option.or_of_isSome (List.isSome_head?.mpr hplace)]
      exact h.first_place
    have hne : u.print ≠ [] := by simp [print_eq, hplace]
    exact trimBoth_eq_self hne hfirst h.last_print
  rw [significant, htrim]
  refine List.filter_eq_self.mpr fun c hc => ?_
  rw [print_eq] at hc
  rcases List.mem_append.mp hc with hc | hc
  · rcases h.place c hc with hsolid | rfl
    · simp [isBreak_of_not_isOuterBlank hsolid.isOuterBlank]
    · decide
  · simp [isBreak_of_not_isOuterBlank (h.tail_solid c hc)]

/-- **The parts of a written URL are found again by its marks.** -/
theorem parts : placeText u.print = u.place ∧ queryText u.print = u.query ∧
    fragmentText u.print = u.fragment := by
  have hplace : ∀ c ∈ u.place, c ≠ '?' ∧ c ≠ '#' := by
    intro c hc
    rcases h.place c hc with hsolid | rfl
    · exact hsolid.2
    · decide
  have hbody : ∀ c ∈ u.place ++ printPart '?' u.query, c ≠ '#' := by
    refine List.forall_mem_append.mpr ⟨fun c hc => (hplace c hc).2, ?_⟩
    exact forall_mem_printPart (by decide) fun q hq c hc =>
      (lt_of_not_inQuerySet (h.query q hq c hc).2).2
  have hfragment : cut (· == '#') u.print = (u.place ++ printPart '?' u.query, u.fragment) :=
    cut_printPart hbody
  have hquery : cut (· == '?') (u.place ++ printPart '?' u.query) = (u.place, u.query) :=
    cut_printPart fun c hc => (hplace c hc).1
  unfold placeText queryText fragmentText
  rw [hfragment, hquery]
  exact ⟨rfl, rfl, rfl⟩

/-- From the place of a written URL its scheme is read again. -/
theorem scheme_of_parseFront {v : Url} (hv : parseFront u.place = .ok v) :
    v.scheme = u.scheme := by
  obtain ⟨⟨scheme, rest⟩, hscheme, hrest⟩ := exists_ok_of_bind hv
  obtain ⟨⟨authority, path⟩, -, hpath⟩ := exists_ok_of_bind hrest
  cases hpath
  rw [Url.place, lead, List.append_assoc, List.cons_append, h.scheme.readScheme] at hscheme
  cases hscheme
  rfl

/-- Query and fragment of a written URL are encoded. -/
theorem encoded : u.query.map (Percent.encode (inQuerySet u.kind.isSpecial)) = u.query ∧
    u.fragment.map (Percent.encode inFragmentSet) = u.fragment := by
  constructor
  · cases hquery : u.query with
    | none => rfl
    | some q => exact congrArg some (Percent.encode_eq_self (h.query q hquery))
  · cases hfragment : u.fragment with
    | none => rfl
    | some f => exact congrArg some (Percent.encode_eq_self (h.fragment f hfragment))

/-- Only the place of a written URL is still to be read. -/
theorem parse_print : parse u.print =
    (parseFront u.place).map fun v => { v with query := u.query, fragment := u.fragment } := by
  obtain ⟨hplace, hquery, hfragment⟩ := h.parts
  rw [parse_eq, h.significant_print, hplace, hquery, hfragment]
  cases hv : parseFront u.place with
  | error e => rfl
  | ok v =>
    have hkind : v.kind = u.kind := congrArg SchemeKind.of (h.scheme_of_parseFront hv)
    have hencoded := h.encoded
    rw [← hkind] at hencoded
    show Except.ok _ = Except.ok _
    rw [hencoded.1, hencoded.2]

/-- Any query that is encoded can take the place of the one that is there. -/
theorem replaced {q : List Char} (hq : Percent.IsEncoded (inQuerySet u.kind.isSpecial) q) :
    ({ u with query := some q } : Url).Legible where
  scheme := h.scheme
  place := h.place
  last := nofun
  query := by
    rintro _ ⟨⟩
    exact hq
  fragment := h.fragment

/-- With another query the same URL is read, but for the query. -/
theorem parse_replaced {q : List Char}
    (hq : Percent.IsEncoded (inQuerySet u.kind.isSpecial) q) :
    parse ({ u with query := some q } : Url).print =
      (parse u.print).map fun v => { v with query := some q } := by
  rw [h.parse_print, (h.replaced hq).parse_print]
  show (parseFront u.place).map _ = _
  cases parseFront u.place <;> rfl

end Legible

/-! ## What is read is written so -/

/-- What stands in the place of a text is neither of its marks. -/
theorem of_mem_placeText {cs : List Char} {c : Char} (h : c ∈ placeText cs) :
    c ∈ cs ∧ c ≠ '?' ∧ c ≠ '#' := by
  obtain ⟨hquery, hmem⟩ := of_mem_cut h
  obtain ⟨hfragment, hmem⟩ := of_mem_cut hmem
  exact ⟨hmem, beq_eq_false_iff_ne.mp hquery, beq_eq_false_iff_ne.mp hfragment⟩

/-- Without query and fragment all of a text is its place. -/
theorem placeText_eq_self {cs : List Char} (hquery : queryText cs = none)
    (hfragment : fragmentText cs = none) : placeText cs = cs := by
  rw [placeText, fst_cut_of_none hquery, fst_cut_of_none hfragment]

/-- What is written between scheme and path is solid if the authority is. -/
theorem isSolid_of_mem_printFront {u : Url} (h : ∀ a ∈ u.authority, a.Solid) :
    ∀ c ∈ u.printFront, IsSolid c := by
  intro c hc
  unfold printFront at hc
  split at hc
  · next a ha =>
    simp only [List.mem_cons] at hc
    rcases hc with rfl | rfl | hc
    · decide
    · decide
    · exact h a ha c hc
  · split at hc
    · simp only [List.mem_cons, List.not_mem_nil, or_false] at hc
      rcases hc with rfl | rfl <;> decide
    · cases hc

/-- Tidy segments are written with solid characters. -/
theorem isSolid_of_mem_printSegments {segs : List (List Char)} (h : Tidy segs) :
    ∀ c ∈ printSegments segs, IsSolid c := by
  intro c hc
  obtain ⟨seg, hseg, hmem⟩ := List.mem_flatMap.mp hc
  rcases List.mem_cons.mp hmem with rfl | hmem
  · decide
  · exact isSolid_of_not_inPathSet (h seg hseg c hmem).1

/-- An opaque path is solid but for spaces. -/
theorem solid_opaquePath {cs : List Char} (h : ∀ c ∈ cs, c ≠ '?' ∧ c ≠ '#') :
    ∀ c ∈ Percent.encode isControl cs, IsSolid c ∨ c = ' ' := by
  refine Percent.forall_mem_encode (fun c hc _ hset => ?_) (by decide) (by decide)
  by_cases hspace : c = ' '
  · exact Or.inr hspace
  · exact Or.inl ⟨lt_of_not_isControl hset hspace, h c hc⟩

/-- A text without marks does not end with a blank, as far as it counts. -/
theorem isSolid_last {cs before rest : List Char} (hquery : queryText (significant cs) = none)
    (hfragment : fragmentText (significant cs) = none) (hall : significant cs = before ++ rest) :
    ∀ c ∈ rest.getLast?, IsSolid c := by
  intro c hc
  have hlast : c ∈ (significant cs).getLast? := by
    rw [hall, List.getLast?_append, Option.mem_def.mp hc]
    rfl
  have hmem : c ∈ placeText (significant cs) := by
    rw [placeText_eq_self hquery hfragment]
    exact List.mem_of_getLast? hlast
  exact ⟨isOuterBlank_eq_false_iff.mp (last_significant hlast), (of_mem_placeText hmem).2⟩

section Read

variable {cs : List Char} {u : Url} (h : parse cs = .ok u)
include h

/-- What stands before the path of a URL that was read is solid. -/
theorem isSolid_lead : ∀ c ∈ u.lead, IsSolid c := by
  obtain ⟨⟨rest, hscheme, hplace⟩, -⟩ := parse_ok h
  obtain ⟨_, _, -, -, hname⟩ := isSchemeName_of_readScheme hscheme
  refine List.forall_mem_append.mpr ⟨fun c hc => isSolid_of_isSchemeChar (hname c hc).1, ?_⟩
  exact List.forall_mem_cons.mpr ⟨by decide, isSolid_of_mem_printFront (solid_readPlace hplace)⟩

/-- An opaque path is what the place that was read ends with. -/
theorem opaquePath_of_parse {p : List Char} (hpath : u.path = .opaquePath p) :
    ∃ before rest, placeText (significant cs) = before ++ rest ∧
      p = Percent.encode isControl rest := by
  obtain ⟨⟨rest, hscheme, hplace⟩, -⟩ := parse_ok h
  obtain ⟨written, hwritten, -, -⟩ := written_of_readScheme hscheme
  rw [hpath] at hplace
  refine ⟨written ++ [':'], rest, ?_, opaquePath_of_readPlace hplace⟩
  rw [← front_eq, hwritten, List.append_assoc, List.singleton_append]

/-- A path is solid but for spaces. -/
theorem solid_path : ∀ c ∈ u.path.print, IsSolid c ∨ c = ' ' := by
  cases hpath : u.path with
  | segments segs =>
    exact fun c hc => Or.inl (isSolid_of_mem_printSegments (tidy_of_parse h hpath) c hc)
  | opaquePath p =>
    obtain ⟨before, rest, hplace, rfl⟩ := opaquePath_of_parse h hpath
    refine solid_opaquePath fun c hc => ?_
    have hmem : c ∈ placeText (significant cs) := by
      rw [hplace]
      exact List.mem_append_right before hc
    exact (of_mem_placeText hmem).2

/-- A path does not end with a space if it ends the text. -/
theorem last_path (hquery : u.query = none) (hfragment : u.fragment = none) :
    ∀ c ∈ u.path.print.getLast?, IsSolid c := by
  cases hpath : u.path with
  | segments segs =>
    exact fun c hc =>
      isSolid_of_mem_printSegments (tidy_of_parse h hpath) c (List.mem_of_getLast? hc)
  | opaquePath p =>
    obtain ⟨before, rest, hplace, rfl⟩ := opaquePath_of_parse h hpath
    obtain ⟨-, -, hqueryText, hfragmentText⟩ := parse_ok h
    rw [hquery, eq_comm, Option.map_eq_none_iff] at hqueryText
    rw [hfragment, eq_comm, Option.map_eq_none_iff] at hfragmentText
    rw [placeText_eq_self hqueryText hfragmentText] at hplace
    exact last_encode (isSolid_last hqueryText hfragmentText hplace)

/-- **Every URL that was read is written so that its parts are found again.** -/
theorem legible_of_parse : u.Legible := by
  obtain ⟨⟨rest, hscheme, -⟩, -, hquery, hfragment⟩ := parse_ok h
  refine ⟨isSchemeName_of_readScheme hscheme, ?_, ?_, ?_, ?_⟩
  · exact List.forall_mem_append.mpr ⟨fun c hc => Or.inl (isSolid_lead h c hc), solid_path h⟩
  · intro hnoQuery hnoFragment c hc
    rw [place, List.getLast?_append] at hc
    rcases Option.or_eq_some_iff.mp hc with hc | ⟨-, hc⟩
    · exact last_path h hnoQuery hnoFragment c hc
    · exact isSolid_lead h c (List.mem_of_getLast? hc)
  · rw [hquery]
    rintro q hq
    obtain ⟨text, -, rfl⟩ := Option.map_eq_some_iff.mp hq
    refine Percent.isEncoded_encode ?_ ?_ text
    · cases u.kind.isSpecial <;> decide
    · cases u.kind.isSpecial <;> decide
  · rw [hfragment]
    rintro f hf
    obtain ⟨text, -, rfl⟩ := Option.map_eq_some_iff.mp hf
    exact Percent.isEncoded_encode (by decide) (by decide) text

end Read

end TokenCustody.Url
