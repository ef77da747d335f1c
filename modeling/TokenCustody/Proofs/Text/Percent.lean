/-
TokenCustody.Proofs.Text.Percent — percent signs are read back.

Whatever set of characters is written byte by byte, the bytes of a text
are read back if the percent sign is in the set (`Percent.decode_encode`):
a percent sign in the text is then never taken for one of the writer.

The other half is about what is not changed. A written text is in ASCII
and holds nothing of the set, if the writer's own signs are not in it
(`Percent.isEncoded_encode`), and then writing it once more changes nothing.
-/
import TokenCustody.Proofs.Text.Utf8
import TokenCustody.Text.Percent

namespace TokenCustody.Text

/-! ## Characters of ASCII -/

/-- What holds of every character of ASCII can be looked up. -/
theorem of_ascii {p : Char → Prop} (h : ∀ n < 0x80, p (Char.ofNat n)) {c : Char}
    (hc : c.toNat < 0x80) : p c := by
  rw [← Char.ofNat_toNat c]
  exact h _ hc

theorem ascii_of_isAlphanum {c : Char} (h : c.isAlphanum = true) : c.toNat < 0x80 := by
  have hranges : (decide (c.val ≥ 'A'.val ∧ c.val ≤ 'Z'.val) ||
      (c.val ≥ 'a'.val && c.val ≤ 'z'.val) || (c.val ≥ '0'.val && c.val ≤ '9'.val)) = true := h
  simp only [Bool.or_eq_true, Bool.and_eq_true, decide_eq_true_eq, UInt32.le_iff_toNat_le,
    ge_iff_le] at hranges
  simp only [Char.toNat_val, Char.reduceToNat] at hranges
  omega

namespace Percent

/-! ## Reading what was written -/

theorem digitValue_digit {n : Nat} (h : n < 16) : digitValue (digit n) = some n := by
  have hall : ∀ n < 16, digitValue (digit n) = some n := by decide
  exact hall n h

theorem byteOf_digits (b : UInt8) :
    byteOf (digit (b.toNat / 16)) (digit (b.toNat % 16)) = some b := by
  have hb : b.toNat < 256 := b.toNat_lt
  have hsum : 16 * (b.toNat / 16) + b.toNat % 16 = b.toNat := Nat.div_add_mod _ _
  unfold byteOf
  rw [digitValue_digit (by omega), digitValue_digit (Nat.mod_lt _ (by decide))]
  simp only [hsum, UInt8.ofNat_toNat]

theorem decode_nil : decode [] = [] := by rw [decode.eq_def]

theorem decode_encodeByte (b : UInt8) (rest : List Char) :
    decode (encodeByte b ++ rest) = b :: decode rest := by
  show decode ('%' :: digit (b.toNat / 16) :: digit (b.toNat % 16) :: rest) = _
  rw [decode.eq_def]
  simp only [byteOf_digits]

theorem decode_encodeBytes (bytes : List UInt8) (rest : List Char) :
    decode (bytes.flatMap encodeByte ++ rest) = bytes ++ decode rest := by
  induction bytes with
  | nil => rfl
  | cons b bytes ih =>
    rw [List.flatMap_cons, List.append_assoc, decode_encodeByte, ih, List.cons_append]

/-- A character that is no percent sign stands for itself. -/
theorem decode_plain {c : Char} (h : c ≠ '%') (rest : List Char) :
    decode (c :: rest) = Utf8.encodeChar c ++ decode rest := by
  rw [decode.eq_def]
  split
  · next heq => exact absurd (List.cons.inj heq).1 h
  · next heq =>
    obtain ⟨rfl, rfl⟩ := List.cons.inj heq
    rfl
  · next heq => cases heq

/-- A character is read back if percent signs are among those that are written byte by byte. -/
theorem decode_encodeChar {set : Char → Bool} (hset : set '%' = true) (c : Char)
    (rest : List Char) : decode (encodeChar set c ++ rest) = Utf8.encodeChar c ++ decode rest := by
  unfold encodeChar
  split
  · next h =>
    have hne : c ≠ '%' := by
      rintro rfl
      simp [hset] at h
    exact decode_plain hne rest
  · exact decode_encodeBytes _ rest

/-- The bytes of a text are read back from what is written for it, if percent signs are among
the characters that are written byte by byte. -/
theorem decode_encode {set : Char → Bool} (hset : set '%' = true) (cs : List Char) :
    decode (encode set cs) = Utf8.encode cs := by
  induction cs with
  | nil => exact decode_nil
  | cons c cs ih =>
    rw [encode, List.flatMap_cons, decode_encodeChar hset, Utf8.encode, List.flatMap_cons]
    exact congrArg (Utf8.encodeChar c ++ ·) ih

/-! ## What is written -/

/-- What is written for a character: itself, if it is in ASCII and not in the set, and else
percent signs and digits. -/
theorem mem_encodeChar {set : Char → Bool} {c d : Char} (h : d ∈ encodeChar set c) :
    (d = c ∧ c.toNat < 0x80 ∧ set c = false) ∨ d = '%' ∨ ∃ n < 16, d = digit n := by
  unfold encodeChar at h
  split at h
  · next hplain =>
    obtain ⟨hascii, hset⟩ := Bool.and_eq_true _ _ ▸ hplain
    exact Or.inl ⟨List.mem_singleton.mp h, of_decide_eq_true hascii, by simpa using hset⟩
  · obtain ⟨b, -, hd⟩ := List.mem_flatMap.mp h
    have hb : b.toNat < 256 := b.toNat_lt
    simp only [encodeByte, List.mem_cons, List.not_mem_nil, or_false] at hd
    obtain rfl | rfl | rfl := hd
    · exact Or.inr (Or.inl rfl)
    · exact Or.inr (Or.inr ⟨_, by omega, rfl⟩)
    · exact Or.inr (Or.inr ⟨_, Nat.mod_lt _ (by decide), rfl⟩)

/-- What is written for a text: what is in it, in ASCII and not in the set, percent signs, and
digits. -/
theorem mem_encode {set : Char → Bool} {cs : List Char} {d : Char} (h : d ∈ encode set cs) :
    (d ∈ cs ∧ d.toNat < 0x80 ∧ set d = false) ∨ d = '%' ∨ ∃ n < 16, d = digit n := by
  obtain ⟨c, hc, hd⟩ := List.mem_flatMap.mp h
  obtain ⟨rfl, hset⟩ | h := mem_encodeChar hd
  · exact Or.inl ⟨hc, hset⟩
  · exact Or.inr h

theorem ascii_digit {n : Nat} (h : n < 16) : (digit n).toNat < 0x80 := by
  have hall : ∀ n < 16, (digit n).toNat < 0x80 := by decide
  exact hall n h

/-- Whatever holds of the signs and digits, and of what is left as it is, holds of all that is
written. -/
theorem forall_mem_encode {P : Char → Prop} {set : Char → Bool} {cs : List Char}
    (hplain : ∀ c ∈ cs, c.toNat < 0x80 → set c = false → P c) (hpercent : P '%')
    (hdigit : ∀ n < 16, P (digit n)) : ∀ d ∈ encode set cs, P d := by
  intro d hd
  obtain ⟨hmem, hascii, hset⟩ | rfl | ⟨n, hn, rfl⟩ := mem_encode hd
  · exact hplain d hmem hascii hset
  · exact hpercent
  · exact hdigit n hn

theorem encode_append (set : Char → Bool) (cs cs' : List Char) :
    encode set (cs ++ cs') = encode set cs ++ encode set cs' := List.flatMap_append

/-- Something is written for each character. -/
theorem encode_ne_nil {set : Char → Bool} {cs : List Char} (h : cs ≠ []) : encode set cs ≠ [] := by
  cases cs with
  | nil => exact absurd rfl h
  | cons c cs =>
    have hchar : encodeChar set c ≠ [] := by
      unfold encodeChar
      split
      · simp
      · intro hnil
        have hbytes : Utf8.encodeChar c = [] := by
          refine List.eq_nil_iff_forall_not_mem.mpr fun b hb => ?_
          cases List.flatMap_eq_nil_iff.mp hnil b hb
        -- Then no text could be read back that holds the character.
        have hread : Utf8.decode [] = [c] := by
          simpa [Utf8.encode, hbytes] using Utf8.decode_encode [c]
        cases (Utf8.decode_encode []).symm.trans hread
    rw [encode, List.flatMap_cons]
    exact List.append_ne_nil_of_left_ne_nil hchar _

/-- A text in which nothing is left to be written byte by byte. -/
def IsEncoded (set : Char → Bool) (cs : List Char) : Prop :=
  ∀ c ∈ cs, c.toNat < 0x80 ∧ set c = false

theorem isEncoded_encode {set : Char → Bool} (hpercent : set '%' = false)
    (hdigit : ∀ n < 16, set (digit n) = false) (cs : List Char) : IsEncoded set (encode set cs) :=
  forall_mem_encode (fun _ _ hascii hset => ⟨hascii, hset⟩) ⟨by decide, hpercent⟩
    fun n hn => ⟨ascii_digit hn, hdigit n hn⟩

/-- Nothing is changed in a text that is encoded already. -/
theorem encode_eq_self {set : Char → Bool} {cs : List Char} (h : IsEncoded set cs) :
    encode set cs = cs := by
  induction cs with
  | nil => rfl
  | cons c cs ih =>
    have hc := h c List.mem_cons_self
    have hplain : encodeChar set c = [c] := by simp [encodeChar, hc.1, hc.2]
    have hrest : encode set cs = cs := ih fun d hd => h d (List.mem_cons_of_mem c hd)
    rw [encode, List.flatMap_cons, hplain]
    exact congrArg (c :: ·) hrest

end Percent

end TokenCustody.Text
