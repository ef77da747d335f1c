/-
TokenCustody.Proofs.Time.Rfc3339 — a printed instant is read back.

The reader takes more than the printer writes, so what has to be seen is
that it takes the printed form in one way only. Each part of it is read
by a lemma of its own, with anything behind it that does not go on with a
digit. A year needs none of that if it is written with four digits, and
one that carries a sign ends at the hyphen.

A leap second is printed as second 60, which the reader turns back into
second 59 and a nanosecond more than a second's worth.
-/
import TokenCustody.Proofs.Text.Decimal
import TokenCustody.Proofs.Time.Calendar
import TokenCustody.Proofs.Time.Instant
import TokenCustody.Time.Rfc3339

namespace TokenCustody.Time

open TokenCustody.Text

/-! ## Parts -/

theorem isBlank_of_isDigit {c : Char} (h : c.isDigit = true) : isBlank c = false := by
  have hd := Char.isDigit_iff_toNat.mp h
  have h0 : '0'.toNat = 48 := rfl
  have h9 : '9'.toNat = 57 := rfl
  simp only [isBlank, Bool.or_eq_false_iff, Bool.and_eq_false_iff, decide_eq_false_iff_not,
    beq_eq_false_iff_ne]
  omega

theorem trimStart_cons {c : Char} (h : isBlank c = false) (cs : List Char) :
    trimStart (c :: cs) = c :: cs := List.dropWhile_cons_of_neg (by simp [h])

/-- No blank stands before digits. -/
theorem trimStart_digits {ds : List Char} (hne : ds ≠ []) (hd : ∀ c ∈ ds, c.isDigit = true)
    (rest : List Char) : trimStart (ds ++ rest) = ds ++ rest := by
  obtain ⟨c, cs, rfl⟩ := List.exists_cons_of_ne_nil hne
  exact trimStart_cons (isBlank_of_isDigit (hd c List.mem_cons_self)) _

/-- Digits are read as a number if there are not too many of them, and nothing behind them
can be taken for another one. -/
theorem readNumber_digits {width : Nat} {ds rest : List Char} (hne : ds ≠ [])
    (hd : ∀ c ∈ ds, c.isDigit = true) (hlen : ds.length ≤ width)
    (hend : ds.length = width ∨ NoDigit rest) :
    readNumber width (ds ++ rest) = some (digitsValue ds, rest) := by
  have htake : ((ds ++ rest).take width).takeWhile Char.isDigit = ds := by
    rcases hend with hfull | hrest
    · rw [← hfull, List.take_left]
      simpa using takeWhile_digits hd noDigit_nil
    · rw [List.take_append, List.take_of_length_le hlen]
      refine takeWhile_digits hd ?_
      intro c hc
      refine hrest c ?_
      cases rest with
      | nil => simp at hc
      | cons r rest =>
        cases hw : width - ds.length with
        | zero => simp [hw] at hc
        | succ k => simpa [hw] using hc
  unfold readNumber
  dsimp only
  rw [htake, if_neg (by simpa using hne), List.drop_left]

/-- A number below a hundred is read from its two digits. -/
theorem readPart_paddedDecimal {n : Nat} (h : n < 100) (rest : List Char) :
    readPart (paddedDecimal 2 n ++ rest) = some (n, rest) := by
  have hlen : (paddedDecimal 2 n).length = 2 := length_paddedDecimal (by decide) h
  have hd : ∀ c ∈ paddedDecimal 2 n, c.isDigit = true := fun c => isDigit_of_mem_paddedDecimal
  unfold readPart
  rw [trimStart_digits (paddedDecimal_ne_nil 2 n) hd,
    readNumber_digits (paddedDecimal_ne_nil 2 n) hd (by omega) (Or.inl hlen),
    digitsValue_paddedDecimal]

theorem expect_cons (c : Char) (cs : List Char) : expect c (c :: cs) = some cs := if_pos rfl

theorem readSeparator_cons (cs : List Char) : readSeparator ('T' :: cs) = some cs := rfl

theorem readZone_utc : readZone ['Z'] = some (0, []) := rfl

theorem readYear_yearText (y : Int) {rest : List Char} (hrest : NoDigit rest) :
    readYear (yearText y ++ rest) = some (y, rest) := by
  have hd (n : Nat) : ∀ c ∈ paddedDecimal 4 n, c.isDigit = true :=
    fun c => isDigit_of_mem_paddedDecimal
  have hne (n : Nat) := paddedDecimal_ne_nil 4 n
  have hlong (n : Nat) : readNumber (paddedDecimal 4 n ++ rest).length (paddedDecimal 4 n ++ rest)
      = some (n, rest) := by
    rw [readNumber_digits (hne n) (hd n) (by simp) (Or.inr hrest), digitsValue_paddedDecimal]
  unfold yearText
  by_cases hshort : 0 ≤ y ∧ y ≤ 9999
  · have hlen : (paddedDecimal 4 y.toNat).length = 4 :=
      length_paddedDecimal (by decide) (by omega)
    have hread : readNumber 4 (paddedDecimal 4 y.toNat ++ rest) = some (y.toNat, rest) := by
      rw [readNumber_digits (hne _) (hd _) (by omega) (Or.inl hlen), digitsValue_paddedDecimal]
    rw [if_pos hshort]
    unfold readYear
    rw [trimStart_digits (hne _) (hd _)]
    obtain ⟨c, cs, hcs⟩ := List.exists_cons_of_ne_nil (hne y.toNat)
    have hc : c.isDigit = true := hd y.toNat c (by rw [hcs]; exact List.mem_cons_self)
    rw [hcs, List.cons_append] at hread ⊢
    split
    · next heq =>
      obtain ⟨rfl, -⟩ := List.cons.inj heq
      cases hc
    · next heq =>
      obtain ⟨rfl, -⟩ := List.cons.inj heq
      cases hc
    · rw [hread]
      simp only [Option.map_some, Option.some.injEq, Prod.mk.injEq, and_true]
      omega
  · rw [if_neg hshort]
    by_cases hneg : y < 0
    · rw [if_pos hneg, List.cons_append]
      unfold readYear
      rw [trimStart_cons (by decide)]
      show (readNumber _ _).map _ = _
      rw [hlong, Option.map_some, Option.some.injEq]
      exact Prod.ext (by dsimp only; omega) rfl
    · rw [if_neg hneg, List.cons_append]
      unfold readYear
      rw [trimStart_cons (by decide)]
      show (readNumber _ _).map _ = _
      rw [hlong, Option.map_some, Option.some.injEq]
      exact Prod.ext (by dsimp only; omega) rfl

/-- The digits of a second behind a point, each standing for so many nanoseconds. -/
theorem readNanos_digits {width n : Nat} (hw : 0 < width) (hw9 : width ≤ 9) (hn : n < 10 ^ width)
    {rest : List Char} (hrest : NoDigit rest) :
    readNanos ('.' :: paddedDecimal width n ++ rest) = some (n * 10 ^ (9 - width), rest) := by
  have hlen : (paddedDecimal width n).length = width := length_paddedDecimal hw hn
  have hd : ∀ c ∈ paddedDecimal width n, c.isDigit = true := fun c => isDigit_of_mem_paddedDecimal
  have hread : readNumber 9 (paddedDecimal width n ++ rest) = some (n, rest) := by
    rw [readNumber_digits (paddedDecimal_ne_nil width n) hd (by omega) (Or.inr hrest),
      digitsValue_paddedDecimal]
  have hdrop : rest.dropWhile Char.isDigit = rest := by
    simpa using dropWhile_digits (List.forall_mem_nil _) hrest
  have hwritten : (paddedDecimal width n ++ rest).length - rest.length = width := by
    rw [List.length_append, hlen]
    omega
  rw [List.cons_append, readNanos, hread]
  simp only [Option.map_some, hdrop, hwritten]
  rfl

/-- The shortest exact digits of a second are those of its nanoseconds. -/
theorem readNanos_fractionDigits {n : Nat} (h : n < nanosPerSecond) {rest : List Char}
    (hrest : NoDigit rest) (hpoint : ∀ cs, rest ≠ '.' :: cs) :
    readNanos (fractionDigits n ++ rest) = some (n, rest) := by
  have hn : n < 1000000000 := h
  unfold fractionDigits
  split
  · next hzero =>
    subst hzero
    rw [List.nil_append]
    unfold readNanos
    split
    · next cs => exact absurd rfl (hpoint cs)
    · rfl
  · split
    · rw [readNanos_digits (by decide) (by decide) (by omega) hrest, Option.some.injEq]
      refine Prod.ext ?_ rfl
      show n / 1000000 * 1000000 = n
      omega
    · split
      · rw [readNanos_digits (by decide) (by decide) (by omega) hrest, Option.some.injEq]
        refine Prod.ext ?_ rfl
        show n / 1000 * 1000 = n
        omega
      · rw [readNanos_digits (by decide) (by decide) hn hrest, Option.some.injEq]
        exact Prod.ext (Nat.mul_one n) rfl

/-! ## Instants -/

theorem Date.lt_of_isValid {d : Date} (h : d.isValid = true) : d.month < 100 ∧ d.day < 100 := by
  have hdays : daysInMonth d.year d.month ≤ 31 := by
    unfold daysInMonth
    split
    · split <;> decide
    · split <;> decide
  simp only [isValid, Bool.and_eq_true, decide_eq_true_eq] at h
  omega

/-- An instant lies in the last second of a minute, prolonged, or in an ordinary second. -/
theorem Instant.isLeap_cases (t : Instant) :
    (t.isLeap = true ∧ nanosPerSecond ≤ t.nano ∧ t.nano < 2 * nanosPerSecond ∧
        t.second % 60 = 59) ∨
      (t.isLeap = false ∧ t.nano < nanosPerSecond) := by
  by_cases h : nanosPerSecond ≤ t.nano
  · exact Or.inl ⟨decide_eq_true h, h, t.nano_lt, t.leap h⟩
  · exact Or.inr ⟨decide_eq_false h, Nat.lt_of_not_le h⟩

/-- The date and the time of day of an instant, the seconds reading 60 in a leap second, are
those of the instant. -/
theorem instantOf_parts (t : Instant) :
    instantOf (Date.ofDays (t.second / 86400)) ((t.second % 86400).toNat / 3600)
      ((t.second % 86400).toNat / 60 % 60)
      ((t.second % 86400).toNat % 60 + (if t.isLeap then 1 else 0))
      (if t.isLeap then t.nano - nanosPerSecond else t.nano) 0 = some t := by
  have hday : 0 ≤ t.second % 86400 ∧ t.second % 86400 < 86400 := by omega
  have hvalid := Date.isValid_ofDays (t.second / 86400)
  have hself := t.ofParts_self
  unfold instantOf
  rw [Date.toDays_ofDays]
  rcases t.isLeap_cases with ⟨hl, hnano, -, h59⟩ | ⟨hl, hnano⟩
  · have hclock : t.second / 86400 * 86400 + ((t.second % 86400).toNat / 3600 : Nat) * 3600 +
        ((t.second % 86400).toNat / 60 % 60 : Nat) * 60 + (59 : Nat) = t.second := by omega
    rw [hl, if_pos rfl, if_pos rfl, if_pos ⟨hvalid, by omega, by omega, by omega⟩,
      if_pos (by omega)]
    dsimp only
    rw [Nat.sub_add_cancel hnano, hclock, hself, Option.bind_some, Int.sub_zero, hself]
  · have hclock : t.second / 86400 * 86400 + ((t.second % 86400).toNat / 3600 : Nat) * 3600 +
        ((t.second % 86400).toNat / 60 % 60 : Nat) * 60 +
        ((t.second % 86400).toNat % 60 + 0 : Nat) = t.second := by omega
    rw [hl, if_neg Bool.false_ne_true, if_neg Bool.false_ne_true,
      if_pos ⟨hvalid, by omega, by omega, by omega⟩, if_neg (by omega)]
    dsimp only
    rw [hclock, hself, Option.bind_some, Int.sub_zero, hself]

/-- A printed instant is read as itself. -/
theorem Instant.parse_print (t : Instant) : parse t.print = some t := by
  obtain ⟨hmonth, hday⟩ := Date.lt_of_isValid (Date.isValid_ofDays (t.second / 86400))
  have hsecond : 0 ≤ t.second % 86400 ∧ t.second % 86400 < 86400 := by omega
  have hnano : (if t.isLeap then t.nano - nanosPerSecond else t.nano) < nanosPerSecond := by
    rcases t.isLeap_cases with ⟨hl, hle, hlt, -⟩ | ⟨hl, hlt⟩
    · rw [hl, if_pos rfl]
      omega
    · rw [hl, if_neg Bool.false_ne_true]
      exact hlt
  unfold parse print
  dsimp only
  simp only [List.append_assoc, List.cons_append]
  -- The date.
  rw [readYear_yearText _ (noDigit_cons (by decide) _)]
  simp only [Option.bind_eq_bind, Option.bind_some]
  rw [trimStart_cons (by decide), expect_cons, Option.bind_some, readPart_paddedDecimal hmonth]
  simp only [Option.bind_some]
  rw [trimStart_cons (by decide), expect_cons, Option.bind_some, readPart_paddedDecimal hday]
  simp only [Option.bind_some]
  -- The time of day.
  rw [readSeparator_cons, Option.bind_some, readPart_paddedDecimal (by omega)]
  simp only [Option.bind_some]
  rw [trimStart_cons (by decide), expect_cons, Option.bind_some,
    readPart_paddedDecimal (by omega)]
  simp only [Option.bind_some]
  rw [trimStart_cons (by decide), expect_cons, Option.bind_some,
    readPart_paddedDecimal (by split <;> omega)]
  simp only [Option.bind_some]
  rw [readNanos_fractionDigits hnano (noDigit_cons (by decide) _) (by simp)]
  simp only [Option.bind_some]
  rw [trimStart_cons (by decide), readZone_utc, Option.bind_some]
  exact (if_pos rfl).trans (instantOf_parts t)

theorem Instant.ofString_render (t : Instant) : ofString? t.render = some t := by
  unfold ofString? render
  rw [String.toList_ofList, parse_print]

end TokenCustody.Time
