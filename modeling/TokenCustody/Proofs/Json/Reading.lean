/-
TokenCustody.Proofs.Json.Reading — a printed value is read back.

This holds of the values that are written in one way only (`Plain`): the
numbers in them are counts and the texts have a value. All other numbers
are printed by digits and power of ten, which reads as the same number
but not as the same digits.

The reader is bounded by the length of the text, so the theorem about
values, items and members is an induction over the three of them with a
bound that the printed text meets. Behind a value may stand whatever a
number does not go on with (`EndsNumber`).
-/
import TokenCustody.Json.Printer
import TokenCustody.Json.Reader
import TokenCustody.Proofs.Text.Decimal

namespace TokenCustody.Json

open TokenCustody.Text

/-! ## Quoted texts -/

/-- Each hexadecimal digit is read as what it was written for. -/
theorem hexValue_hexDigit : ∀ d < 16, hexValue (hexDigit d) = some d := by decide

/-- The text behind an opening quotation mark writes `text`, and `rest` follows it. -/
def Scans (cs : List Char) (text rest : List Char) : Prop :=
  ∃ units, scanString cs = some (units, rest) ∧ joinUnits units = some text

/-- At the closing quotation mark nothing more is read. -/
theorem Scans.nil (rest : List Char) : Scans ('"' :: rest) [] rest :=
  ⟨[], by rw [scanString.eq_def]; exact if_pos rfl, rfl⟩

section Units

variable {cs rest : List Char} {units : List Unit16}

/-- A character that needs no escape is read as it stands. -/
theorem scanString_plain {c : Char} (hq : c ≠ '"') (hb : c ≠ '\\') (hc : ¬c.toNat < 0x20)
    (h : scanString cs = some (units, rest)) :
    scanString (c :: cs) = some (.char c :: units, rest) := by
  rw [scanString.eq_def]
  dsimp only
  rw [if_neg hq, if_neg hb, if_neg hc, h]

/-- An escape by a letter is read as its character. -/
theorem scanString_short {e c : Char} (he : shortEscape e = some c)
    (h : scanString cs = some (units, rest)) :
    scanString ('\\' :: e :: cs) = some (.char c :: units, rest) := by
  rw [scanString.eq_def]
  dsimp only
  rw [if_neg (by decide), if_pos rfl]
  split
  · next heq =>
    obtain ⟨rfl, -⟩ := List.cons.inj heq
    cases he
  · next heq =>
    obtain ⟨rfl, rfl⟩ := List.cons.inj heq
    rw [he, h]
  · next heq => cases heq

/-- An escape by a number is read as half a character, for now. -/
theorem scanString_half {a b c d : Char} {n : Nat} (hn : hexValue4 a b c d = some n)
    (h : scanString cs = some (units, rest)) :
    scanString ('\\' :: 'u' :: a :: b :: c :: d :: cs) = some (.half n :: units, rest) := by
  rw [scanString.eq_def]
  dsimp only
  rw [if_neg (by decide), if_pos rfl]
  simp only [hn, h]

end Units

/-- Half a character below the surrogates is a whole one. -/
theorem joinUnits_half {n : Nat} (h : n < 0xD800) (units : List Unit16) :
    joinUnits (.half n :: units) = (joinUnits units).map (Char.ofNat n :: ·) := by
  rw [joinUnits.eq_def]
  exact if_pos (Or.inl h)

/-- A character is written by a letter, by its number or as it is. -/
theorem escapeChar_cases (c : Char) :
    (∃ e, shortEscape e = some c ∧ escapeChar c = ['\\', e]) ∨
    (c.toNat < 0x20 ∧ escapeChar c =
      ['\\', 'u', '0', '0', hexDigit (c.toNat / 16), hexDigit (c.toNat % 16)]) ∨
    (c ≠ '"' ∧ c ≠ '\\' ∧ ¬c.toNat < 0x20 ∧ escapeChar c = [c]) := by
  unfold escapeChar
  by_cases hq : c = '"'
  · subst hq; exact Or.inl ⟨'"', rfl, rfl⟩
  by_cases hb : c = '\\'
  · subst hb; exact Or.inl ⟨'\\', rfl, rfl⟩
  rw [if_neg hq, if_neg hb]
  split
  · subst c; exact Or.inl ⟨'b', rfl, rfl⟩
  split
  · subst c; exact Or.inl ⟨'f', rfl, rfl⟩
  split
  · subst c; exact Or.inl ⟨'n', rfl, rfl⟩
  split
  · subst c; exact Or.inl ⟨'r', rfl, rfl⟩
  split
  · subst c; exact Or.inl ⟨'t', rfl, rfl⟩
  split
  · next hc => exact Or.inr (Or.inl ⟨hc, rfl⟩)
  · next hc => exact Or.inr (Or.inr ⟨hq, hb, hc, rfl⟩)

/-- The number of a control character is read back from its four digits. -/
theorem hexValue4_hexDigit {n : Nat} (h : n < 0x20) :
    hexValue4 '0' '0' (hexDigit (n / 16)) (hexDigit (n % 16)) = some n := by
  have h0 : hexValue '0' = some 0 := rfl
  have h1 := hexValue_hexDigit (n / 16) (by omega)
  have h2 := hexValue_hexDigit (n % 16) (by omega)
  simp only [hexValue4, h0, h1, h2, Option.bind_eq_bind, Option.bind_some, Option.some.injEq]
  omega

/-- A character is read from the way in which it is written. -/
theorem Scans.cons {cs text rest : List Char} (c : Char) (h : Scans cs text rest) :
    Scans (escapeChar c ++ cs) (c :: text) rest := by
  obtain ⟨units, hscan, hjoin⟩ := h
  have hchar : joinUnits (.char c :: units) = some (c :: text) := by rw [joinUnits, hjoin]; rfl
  rcases escapeChar_cases c with ⟨e, he, hc⟩ | ⟨hlt, hc⟩ | ⟨hq, hb, hge, hc⟩
  · rw [hc]
    exact ⟨.char c :: units, scanString_short he hscan, hchar⟩
  · rw [hc]
    refine ⟨.half c.toNat :: units, scanString_half (hexValue4_hexDigit hlt) hscan, ?_⟩
    rw [joinUnits_half (by omega), hjoin, Char.ofNat_toNat]
    rfl
  · rw [hc]
    exact ⟨.char c :: units, scanString_plain hq hb hge hscan, hchar⟩

/-- A text is read from the ways in which its characters are written. -/
theorem scans_flatMap (text rest : List Char) :
    Scans (text.flatMap escapeChar ++ '"' :: rest) text rest := by
  induction text with
  | nil => exact Scans.nil rest
  | cons c text ih =>
    rw [List.flatMap_cons, List.append_assoc]
    exact ih.cons c

/-- A printed text is read back. -/
theorem readString_escaped (s : String) (rest : List Char) :
    readString (s.toList.flatMap escapeChar ++ '"' :: rest) = some (some s, rest) := by
  obtain ⟨units, hscan, hjoin⟩ := scans_flatMap s.toList rest
  simp only [readString, hscan, hjoin, Option.map_some, String.ofList_toList]

/-! ## Counts -/

/-- A number does not go on with what stands here. -/
def EndsNumber (cs : List Char) : Prop :=
  NoDigit cs ∧ ∀ c ∈ cs.head?, c ≠ '.' ∧ c ≠ 'e' ∧ c ≠ 'E'

theorem endsNumber_nil : EndsNumber [] := ⟨noDigit_nil, fun c h => by cases h⟩

theorem endsNumber_comma (cs : List Char) : EndsNumber (',' :: cs) :=
  ⟨noDigit_cons rfl cs, fun c h => by cases h; decide⟩

theorem endsNumber_bracket (cs : List Char) : EndsNumber (']' :: cs) :=
  ⟨noDigit_cons rfl cs, fun c h => by cases h; decide⟩

theorem endsNumber_brace (cs : List Char) : EndsNumber ('\x7d' :: cs) :=
  ⟨noDigit_cons rfl cs, fun c h => by cases h; decide⟩

/-- A count is read up to its end: it has no leading zero. -/
theorem readWhole_decimal (n : Nat) {rest : List Char} (h : NoDigit rest) :
    readWhole (decimal n ++ rest) = some (decimal n, rest) := by
  have hd : ∀ c ∈ decimal n, c.isDigit = true := fun c => isDigit_of_mem_decimal
  unfold readWhole spanDigits
  rw [takeWhile_digits hd h, dropWhile_digits hd h]
  split
  · next heq => exact absurd (Prod.mk.inj heq).1 (decimal_ne_nil n)
  · next heq =>
    have hzero := (decimal_eq_zero_cons (Prod.mk.inj heq).1).2
    cases hzero
  · rfl

/-- A count has no digits behind a point. -/
theorem readFraction_end {cs : List Char} (h : EndsNumber cs) :
    readFraction cs = some ([], cs) := by
  unfold readFraction
  split
  · exact absurd rfl (h.2 '.' rfl).1
  · rfl

/-- A count has no exponent. -/
theorem readExponent_end {cs : List Char} (h : EndsNumber cs) :
    readExponent cs = some (none, cs) := by
  cases cs with
  | nil => rfl
  | cons c cs =>
    obtain ⟨-, he, hE⟩ := h.2 c rfl
    exact if_neg (by simp [he, hE])

/-- A printed count is read back as the number that it was. -/
theorem readNumber_decimal (n : Nat) {rest : List Char} (h : EndsNumber rest) :
    readNumber (decimal n ++ rest) = some (Number.ofNat n, rest) := by
  have hunsigned : readUnsigned false (decimal n ++ rest) = some (Number.ofNat n, rest) := by
    simp only [readUnsigned, readWhole_decimal n h.1, readFraction_end h, readExponent_end h,
      Option.bind_eq_bind, Option.bind_some, List.append_nil, digitsValue_decimal]
    rfl
  obtain ⟨d, ds, hds, hd⟩ := decimal_eq_cons n
  rw [hds, List.cons_append] at hunsigned ⊢
  unfold readNumber
  split
  · next heq =>
    obtain ⟨rfl, -⟩ := List.cons.inj heq
    cases hd
  · exact hunsigned

/-! ## Values -/

theorem skipSpace_cons {c : Char} (h : isSpace c = false) (cs : List Char) :
    skipSpace (c :: cs) = c :: cs := List.dropWhile_cons_of_neg (by simp [h])

mutual

/-- Only counts and texts that have a value stand in the value. -/
def Value.Plain : Value → Prop
  | .null => True
  | .bool _ => True
  | .number n => n = Number.ofNat n.digits
  | .text t => t.isSome = true
  | .array items => PlainItems items
  | .object members => PlainMembers members

/-- Each of the items is plain. -/
def PlainItems : List Value → Prop
  | [] => True
  | v :: vs => v.Plain ∧ PlainItems vs

/-- Each of the members is plain, and so is its name. -/
def PlainMembers : List (Text × Value) → Prop
  | [] => True
  | (k, v) :: ms => k.isSome = true ∧ v.Plain ∧ PlainMembers ms

end

/-- A count is printed by its digits. -/
theorem Value.print_count {n : Number} (h : (Value.number n).Plain) :
    (Value.number n).print = decimal n.digits := by
  have hn : n = Number.ofNat n.digits := h
  rw [Value.print, hn]
  simp [Number.print, Number.ofNat]

/-- A text is printed between quotation marks. -/
theorem printText_some (s : String) (rest : List Char) :
    printText (some s) ++ rest = '"' :: (s.toList.flatMap escapeChar ++ '"' :: rest) := by
  unfold printText printString
  simp only [List.cons_append, List.append_assoc, List.nil_append]

theorem isSpace_of_isDigit {c : Char} (h : c.isDigit = true) : isSpace c = false := by
  simp only [isSpace, Bool.or_eq_false_iff, beq_eq_false_iff_ne]
  refine ⟨⟨⟨?_, ?_⟩, ?_⟩, ?_⟩ <;> (rintro rfl; cases h)

/-- A value does not start with a blank, nor with the bracket that would end an array. -/
theorem Value.Plain.print_cons {v : Value} (h : v.Plain) :
    ∃ c cs, v.print = c :: cs ∧ isSpace c = false ∧ c ≠ ']' := by
  cases v with
  | null => exact ⟨'n', "ull".toList, rfl, rfl, by decide⟩
  | bool b =>
    cases b with
    | true => exact ⟨'t', "rue".toList, rfl, rfl, by decide⟩
    | false => exact ⟨'f', "alse".toList, rfl, rfl, by decide⟩
  | number n =>
    obtain ⟨d, ds, hds, hd⟩ := decimal_eq_cons n.digits
    have hprint : (Value.number n).print = d :: ds := by
      rw [← hds, Value.print_count h]
    refine ⟨d, ds, hprint, isSpace_of_isDigit hd, ?_⟩
    rintro rfl
    cases hd
  | text t =>
    obtain ⟨s, rfl⟩ := Option.isSome_iff_exists.mp h
    exact ⟨'"', _, rfl, rfl, by decide⟩
  | array items => exact ⟨'[', _, rfl, rfl, by decide⟩
  | object members => exact ⟨'\x7b', _, rfl, rfl, by decide⟩

/-- Items are printed with a comma between them and none behind the last. -/
theorem printItems_cons (v : Value) (vs : List Value) :
    printItems (v :: vs) = v.print ++ (if vs = [] then [] else ',' :: printItems vs) := by
  cases vs with
  | nil => simp [printItems]
  | cons w ws => rfl

/-- So are members, each with its name before it. -/
theorem printMembers_cons (k : Text) (v : Value) (ms : List (Text × Value)) :
    printMembers ((k, v) :: ms) = printText k ++ ':' :: v.print ++
      (if ms = [] then [] else ',' :: printMembers ms) := by
  cases ms with
  | nil => simp [printMembers]
  | cons m ms =>
    have hcons : printMembers ((k, v) :: m :: ms) =
        printText k ++ ':' :: v.print ++ ',' :: printMembers (m :: ms) := rfl
    rw [hcons, if_neg (List.cons_ne_nil m ms)]

/-! ## Reading values

One lemma for each character that a plain value can start with. -/

/-- Where a count stands, a number is read. -/
theorem readValue_decimal (k n : Nat) {rest : List Char} (h : EndsNumber rest) :
    readValue (n + 1) (decimal k ++ rest) = some (.number (Number.ofNat k), rest) := by
  have hread := readNumber_decimal k h
  obtain ⟨d, ds, hds, hd⟩ := decimal_eq_cons k
  rw [hds, List.cons_append] at hread ⊢
  rw [readValue, skipSpace_cons (isSpace_of_isDigit hd)]
  split
  -- no other kind of value starts with a digit
  all_goals first
    | (next heq =>
        obtain ⟨rfl, -⟩ := List.cons.inj heq
        cases hd)
    | rw [hread]
  rfl

/-- Where a quotation mark stands, a text is read. -/
theorem readValue_quote (n : Nat) (cs : List Char) :
    readValue (n + 1) ('"' :: cs) = (readString cs).map fun r => (.text r.1, r.2) := by
  rw [readValue, skipSpace_cons rfl]
  rfl

/-- Where a bracket stands and does not close at once, items are read. -/
theorem readValue_bracket (n : Nat) {c : Char} (hspace : isSpace c = false) (hc : c ≠ ']')
    (cs : List Char) : readValue (n + 1) ('[' :: c :: cs) =
      (readItems n (c :: cs)).map fun r => (.array r.1, r.2) := by
  rw [readValue, skipSpace_cons rfl]
  simp only
  rw [skipSpace_cons hspace]
  split
  · next heq => exact absurd (List.cons.inj heq).1 hc
  · rfl

/-- Where a brace stands and a quotation mark behind it, members are read. -/
theorem readValue_brace (n : Nat) (cs : List Char) : readValue (n + 1) ('\x7b' :: '"' :: cs) =
      (readMembers n ('"' :: cs)).map fun r => (.object r.1, r.2) := by
  rw [readValue, skipSpace_cons rfl]
  simp only
  rw [skipSpace_cons rfl]
  rfl

/-! ## The three readers on what the three printers write -/

/-- A member is read once its value is read. -/
theorem readMembers_quote (s : String) (n : Nat) {v : Value} {cs rest : List Char}
    (h : readValue n cs = some (v, rest)) :
    readMembers (n + 1) (printText (some s) ++ ':' :: cs) = match skipSpace rest with
      | ',' :: more => (readMembers n more).map fun r => ((some s, v) :: r.1, r.2)
      | '\x7d' :: after => some ([(some s, v)], after)
      | _ => none := by
  have htext : printText (some s) ++ ':' :: cs =
      '"' :: (s.toList.flatMap escapeChar ++ '"' :: ':' :: cs) := printText_some s _
  rw [htext, readMembers, skipSpace_cons rfl]
  simp only
  rw [readString_escaped]
  simp only
  rw [skipSpace_cons rfl]
  simp only
  generalize readValue n cs = read at h ⊢
  cases h
  rfl

mutual

/-- A plain value is read back from its text. -/
theorem readValue_print : ∀ (v : Value) (n : Nat) (rest : List Char), v.Plain →
    v.print.length ≤ n → EndsNumber rest → readValue (n + 1) (v.print ++ rest) = some (v, rest)
  | .null, n, rest, _, _, _ => rfl
  | .bool true, n, rest, _, _, _ => rfl
  | .bool false, n, rest, _, _, _ => rfl
  | .number k, n, rest, hv, _, hrest => by
    have hk : k = Number.ofNat k.digits := hv
    rw [Value.print_count hv, readValue_decimal k.digits n hrest, ← hk]
  | .text (some s), n, rest, _, _, _ => by
    rw [Value.print, printText_some, readValue_quote, readString_escaped]
    rfl
  | .array [], n, rest, _, _, _ => rfl
  | .array (v :: vs), n, rest, hv, hlen, _ => by
    have hprint : (Value.array (v :: vs)).print ++ rest =
        '[' :: (printItems (v :: vs) ++ ']' :: rest) := by
      simp only [Value.print, List.cons_append, List.append_assoc, List.nil_append]
    have hlen' : (printItems (v :: vs)).length + 2 ≤ n := by
      simpa only [Value.print, List.length_append, List.length_cons, List.length_nil,
        Nat.add_right_comm] using hlen
    obtain ⟨m, rfl⟩ := Nat.exists_eq_add_of_le' (Nat.le_of_add_left_le hlen')
    have hread := readItems_print (v :: vs) (m + 1) rest hv (List.cons_ne_nil v vs) (by omega)
    obtain ⟨c, cs, hc, hspace, hne⟩ := hv.1.print_cons
    obtain ⟨cs', hstart⟩ : ∃ cs', printItems (v :: vs) ++ ']' :: rest = c :: cs' := by
      rw [printItems_cons, hc]
      exact ⟨_, rfl⟩
    rw [hprint, hstart, readValue_bracket _ hspace hne, ← hstart, hread]
    rfl
  | .object [], n, rest, _, _, _ => rfl
  | .object ((k, v) :: ms), n, rest, hv, hlen, _ => by
    obtain ⟨s, rfl⟩ := Option.isSome_iff_exists.mp hv.1
    have hprint : (Value.object ((some s, v) :: ms)).print ++ rest =
        '\x7b' :: (printMembers ((some s, v) :: ms) ++ '\x7d' :: rest) := by
      simp only [Value.print, List.cons_append, List.append_assoc, List.nil_append]
    have hlen' : (printMembers ((some s, v) :: ms)).length + 2 ≤ n := by
      simpa only [Value.print, List.length_append, List.length_cons, List.length_nil,
        Nat.add_right_comm] using hlen
    obtain ⟨m, rfl⟩ := Nat.exists_eq_add_of_le' (Nat.le_of_add_left_le hlen')
    have hread := readMembers_print ((some s, v) :: ms) (m + 1) rest hv (List.cons_ne_nil _ ms)
      (by omega)
    obtain ⟨cs', hstart⟩ :
        ∃ cs', printMembers ((some s, v) :: ms) ++ '\x7d' :: rest = '"' :: cs' := by
      rw [printMembers_cons, List.append_assoc, List.append_assoc, printText_some]
      exact ⟨_, rfl⟩
    rw [hprint, hstart, readValue_brace, ← hstart, hread]
    rfl

/-- Plain items are read back from their text. -/
theorem readItems_print : ∀ (vs : List Value) (n : Nat) (rest : List Char),
    PlainItems vs → vs ≠ [] → (printItems vs).length < n →
    readItems (n + 1) (printItems vs ++ ']' :: rest) = some (vs, rest)
  | [], _, _, _, hne, _ => absurd rfl hne
  | [v], n + 1, rest, hv, _, hlen => by
    have hread := readValue_print v n (']' :: rest) hv.1 (by simp only [printItems] at hlen; omega)
      (endsNumber_bracket rest)
    rw [printItems, readItems, hread]
    rfl
  | v :: w :: ws, n + 1, rest, hv, _, hlen => by
    have hprint : printItems (v :: w :: ws) = v.print ++ ',' :: printItems (w :: ws) := rfl
    rw [hprint, List.length_append, List.length_cons] at hlen
    have hread := readValue_print v n (',' :: (printItems (w :: ws) ++ ']' :: rest)) hv.1 (by omega)
      (endsNumber_comma _)
    have hmore := readItems_print (w :: ws) n rest hv.2 (List.cons_ne_nil w ws) (by omega)
    rw [hprint, List.append_assoc, List.cons_append, readItems, hread]
    simp only
    rw [skipSpace_cons rfl]
    simp only
    rw [hmore]
    rfl

/-- Plain members are read back from their text. -/
theorem readMembers_print : ∀ (ms : List (Text × Value)) (n : Nat) (rest : List Char),
    PlainMembers ms → ms ≠ [] → (printMembers ms).length < n →
    readMembers (n + 1) (printMembers ms ++ '\x7d' :: rest) = some (ms, rest)
  | [], _, _, _, hne, _ => absurd rfl hne
  | [(some s, v)], n + 1, rest, hv, _, hlen => by
    have hprint : printMembers [(some s, v)] = printText (some s) ++ ':' :: v.print := rfl
    rw [hprint, List.length_append, List.length_cons] at hlen
    have hread := readValue_print v n ('\x7d' :: rest) hv.2.1 (by omega) (endsNumber_brace rest)
    rw [hprint, List.append_assoc, List.cons_append, readMembers_quote s _ hread,
      skipSpace_cons rfl]
    rfl
  | (some s, v) :: (k, w) :: ms, n + 1, rest, hv, _, hlen => by
    have hprint : printMembers ((some s, v) :: (k, w) :: ms) =
        printText (some s) ++ ':' :: (v.print ++ ',' :: printMembers ((k, w) :: ms)) := by
      simp only [printMembers, List.append_assoc, List.cons_append]
    rw [hprint, List.length_append, List.length_cons, List.length_append, List.length_cons] at hlen
    have hread := readValue_print v n (',' :: (printMembers ((k, w) :: ms) ++ '\x7d' :: rest))
      hv.2.1 (by omega) (endsNumber_comma _)
    have hmore := readMembers_print ((k, w) :: ms) n rest hv.2.2 (List.cons_ne_nil _ ms) (by omega)
    rw [hprint, List.append_assoc, List.cons_append, List.append_assoc, List.cons_append,
      readMembers_quote s _ hread, skipSpace_cons rfl]
    simp only
    rw [hmore]
    rfl

end

/-- Reading undoes printing. -/
theorem Value.parse_print {v : Value} (h : v.Plain) : Value.parse v.print = some v := by
  have hread := readValue_print v v.print.length [] h (Nat.le_refl _) endsNumber_nil
  rw [List.append_nil] at hread
  rw [Value.parse, hread]
  rfl

/-- Reading a string undoes writing it. -/
theorem Value.ofString_render {v : Value} (h : v.Plain) : Value.ofString? v.render = some v := by
  rw [Value.ofString?, Value.render, String.toList_ofList, Value.parse_print h]

end TokenCustody.Json
