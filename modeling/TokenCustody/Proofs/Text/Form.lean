/-
TokenCustody.Proofs.Text.Form — a form is read back as it was written.

The reader of `application/x-www-form-urlencoded` undoes the writer for
every list of names and values, whatever Unicode text they are
(`Form.decode_encode`). It goes back one layer after the other, and each
layer needs that the one below keeps out of its way: a written name or
value holds no ampersand and no equals sign, so the pieces are found
again; and no plus sign but for a space, so that plus signs can be turned
into spaces before percent signs are read (`Form.spaced_encodeChar`).
-/
import TokenCustody.Proofs.Text.Percent
import TokenCustody.Text.Form

namespace TokenCustody.Text

/-! ## Names and values -/

namespace Form

/-- What stands in a name or a value that is written for a form. -/
def IsWritten (c : Char) : Prop := isPlain c = true ∨ c = '%' ∨ c = '+'

theorem ascii_of_isPlain {c : Char} (h : isPlain c = true) : c.toNat < 0x80 := by
  simp only [isPlain, Bool.or_eq_true, beq_iff_eq] at h
  obtain (((h | rfl) | rfl) | rfl) | rfl := h
  · exact ascii_of_isAlphanum h
  all_goals decide

theorem isPlain_digit {n : Nat} (h : n < 16) : isPlain (Percent.digit n) = true := by
  have hall : ∀ n < 16, isPlain (Percent.digit n) = true := by decide
  exact hall n h

theorem isWritten_of_mem {c d : Char} (h : d ∈ encodeChar c) : IsWritten d := by
  unfold encodeChar at h
  split at h
  · exact Or.inr (Or.inr (List.mem_singleton.mp h))
  · obtain ⟨rfl, -, hplain⟩ | rfl | ⟨n, hn, rfl⟩ := Percent.mem_encodeChar h
    · exact Or.inl (by simpa using hplain)
    · exact Or.inr (Or.inl rfl)
    · exact Or.inl (isPlain_digit hn)

theorem isWritten_of_mem_encodeText {s : String} {d : Char} (h : d ∈ encodeText s) :
    IsWritten d := by
  obtain ⟨c, -, hd⟩ := List.mem_flatMap.mp h
  exact isWritten_of_mem hd

theorem IsWritten.ne {c : Char} (h : IsWritten c) : (c == '=') = false ∧ (c == '&') = false := by
  obtain h | rfl | rfl := h
  · constructor <;> refine beq_eq_false_iff_ne.mpr ?_ <;> rintro rfl <;> exact absurd h (by decide)
  · decide
  · decide

/-- Turning plus signs into spaces changes what is written for a space, and nothing else. -/
theorem spaced_encodeChar (c : Char) : (encodeChar c).map (fun d => if d = '+' then ' ' else d) =
    if c = ' ' then [' '] else Percent.encodeChar (fun d => !isPlain d) c := by
  unfold encodeChar
  split
  · rfl
  · refine (List.map_congr_left fun d hd => ?_).trans (List.map_id _)
    have hne : d ≠ '+' := by
      obtain ⟨rfl, -, hplain⟩ | rfl | ⟨n, hn, rfl⟩ := Percent.mem_encodeChar hd
      · rintro rfl
        exact absurd hplain (by decide)
      · decide
      · have hall : ∀ n < 16, Percent.digit n ≠ '+' := by decide
        exact hall n hn
    exact if_neg hne

/-- The bytes of a text are read back from what is written for it. -/
theorem decode_spaced (cs : List Char) :
    Percent.decode ((cs.flatMap encodeChar).map fun d => if d = '+' then ' ' else d) =
      Utf8.encode cs := by
  induction cs with
  | nil => exact Percent.decode_nil
  | cons c cs ih =>
    rw [List.flatMap_cons, List.map_append, spaced_encodeChar, Utf8.encode, List.flatMap_cons]
    split
    · next hspace =>
      rw [hspace, List.singleton_append, Percent.decode_plain (by decide), ih]
      rfl
    · rw [Percent.decode_encodeChar rfl, ih]
      rfl

theorem decodeText_encodeText (s : String) : decodeText (encodeText s) = s := by
  unfold decodeText encodeText
  dsimp only
  rw [decode_spaced, Utf8.decode_encode, String.ofList_toList]

/-! ## Lists of names and values -/

theorem decodePair_encodePair (pair : String × String) : decodePair (encodePair pair) = pair := by
  have hname : ∀ c ∈ encodeText pair.1, (c == '=') = false :=
    fun c hc => (isWritten_of_mem_encodeText hc).ne.1
  unfold decodePair encodePair
  rw [cut_append_cons hname (by decide)]
  simp only [Option.getD_some, decodeText_encodeText]

/-- A written name and its value hold no ampersand. -/
theorem ne_ampersand_of_mem {pair : String × String} {c : Char} (h : c ∈ encodePair pair) :
    (c == '&') = false := by
  rcases List.mem_append.mp h with h | h
  · exact (isWritten_of_mem_encodeText h).ne.2
  · rcases List.mem_cons.mp h with rfl | h
    · decide
    · exact (isWritten_of_mem_encodeText h).ne.2

/-- **A form is read back as it was written.** -/
theorem decode_encode (pairs : List (String × String)) : decode (encode pairs) = pairs := by
  cases pairs with
  | nil => rfl
  | cons pair pairs =>
    have hfree : ∀ piece ∈ (pair :: pairs).map encodePair, ∀ c ∈ piece, (c == '&') = false := by
      intro piece hpiece c hc
      obtain ⟨p, -, rfl⟩ := List.mem_map.mp hpiece
      exact ne_ampersand_of_mem hc
    have hsolid : ∀ piece ∈ (pair :: pairs).map encodePair, decide (piece ≠ []) = true := by
      intro piece hpiece
      obtain ⟨p, -, rfl⟩ := List.mem_map.mp hpiece
      simp [encodePair]
    unfold decode encode
    rw [split_join (by decide) hfree (by simp), List.filter_eq_self.mpr hsolid, List.map_map]
    exact (List.map_congr_left fun p _ => decodePair_encodePair p).trans (List.map_id _)

/-- A form behind another is read behind it. -/
theorem decode_append (front back : List Char) :
    decode (front ++ '&' :: back) = decode front ++ decode back := by
  unfold decode
  rw [split_append (by decide), List.filter_append, List.map_append]

/-- What stands in a form that is written. -/
theorem of_mem_encode {pairs : List (String × String)} {c : Char} (h : c ∈ encode pairs) :
    IsWritten c ∨ c = '&' ∨ c = '=' := by
  rcases of_mem_join h with h | ⟨piece, hpiece, hc⟩
  · exact Or.inr (Or.inl (List.mem_singleton.mp h))
  · obtain ⟨pair, -, rfl⟩ := List.mem_map.mp hpiece
    rcases List.mem_append.mp hc with hc | hc
    · exact Or.inl (isWritten_of_mem_encodeText hc)
    · rcases List.mem_cons.mp hc with rfl | hc
      · exact Or.inr (Or.inr rfl)
      · exact Or.inl (isWritten_of_mem_encodeText hc)

end Form

end TokenCustody.Text
