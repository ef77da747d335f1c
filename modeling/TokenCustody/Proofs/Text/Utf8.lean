/-
TokenCustody.Proofs.Text.Utf8 — text is read back from its bytes.

The reader takes the bytes of one character for that character, whatever
follows them (`decode_encodeChar`). There is a case for each length: what
the first byte carries and what the bytes behind it carry are digits of
the code point to the base 64 (`assemble_tails`), and the bounds on the
second byte are those of the code points that no shorter form has and
that are no surrogates.
-/
import TokenCustody.Text.Utf8

namespace TokenCustody.Text.Utf8

/-! ## Bytes as numbers -/

theorem lt_iff {a b : UInt8} : a < b ↔ a.toNat < b.toNat := Iff.rfl

theorem le_iff {a b : UInt8} : a ≤ b ↔ a.toNat ≤ b.toNat := Iff.rfl

theorem toNat_ofNat {n : Nat} (h : n < 256) : (UInt8.ofNat n).toNat = n := by
  rw [UInt8.toNat_ofNat', Nat.mod_eq_of_lt h]

/-- The bytes behind the first one of a character lie in one range. -/
theorem isTail_iff {b : UInt8} : isTail b = true ↔ 0x80 ≤ b.toNat ∧ b.toNat ≤ 0xBF := by
  simp only [isTail, Bool.and_eq_true, decide_eq_true_eq, le_iff]
  exact Iff.rfl

/-- The second byte of three is in the range of all tails, less what is written with fewer bytes or
is half a character. -/
theorem isSecondOfThree_iff {a b : UInt8} : isSecondOfThree a b = true ↔
    (if a.toNat = 0xE0 then 0xA0 else 0x80) ≤ b.toNat ∧
      b.toNat ≤ (if a.toNat = 0xED then 0x9F else 0xBF) := by
  simp only [isSecondOfThree, Bool.and_eq_true, decide_eq_true_eq, le_iff, apply_ite UInt8.toNat,
    ← UInt8.toNat_inj]
  exact Iff.rfl

/-- The second byte of four is in the range of all tails, less what is written with fewer bytes or
is beyond the characters. -/
theorem isSecondOfFour_iff {a b : UInt8} : isSecondOfFour a b = true ↔
    (if a.toNat = 0xF0 then 0x90 else 0x80) ≤ b.toNat ∧
      b.toNat ≤ (if a.toNat = 0xF4 then 0x8F else 0xBF) := by
  simp only [isSecondOfFour, Bool.and_eq_true, decide_eq_true_eq, le_iff, apply_ite UInt8.toNat,
    ← UInt8.toNat_inj]
  exact Iff.rfl

theorem isTail_ofNat (n : Nat) : isTail (UInt8.ofNat (0x80 + n % 64)) = true := by
  rw [isTail_iff, toNat_ofNat (by omega)]
  omega

/-- The bytes behind the first one carry six bits each. -/
theorem assemble_tails (payload : Nat) (digits : List Nat) :
    assemble payload (digits.map fun d => UInt8.ofNat (0x80 + d % 64)) =
      Char.ofNat (digits.foldl (fun n d => 64 * n + d % 64) payload) := by
  have hdigit (d : Nat) : (UInt8.ofNat (0x80 + d % 64)).toNat - 0x80 = d % 64 := by
    rw [toNat_ofNat (by omega), Nat.add_sub_cancel_left]
  simp only [assemble, List.foldl_map, hdigit]

/-! ## One character -/

section Lengths

variable {a b c d : UInt8} {rest : List UInt8}

/-- A byte below 0x80 is a character of its own. -/
theorem decode_one (ha : a.toNat < 0x80) :
    decode (a :: rest) = Char.ofNat a.toNat :: decode rest := by
  rw [decode.eq_def]
  exact if_pos ha

/-- A first byte from 0xC2 on takes one tail with it. -/
theorem decode_two (ha : 0xC2 ≤ a.toNat ∧ a.toNat < 0xE0) (hb : isTail b = true) :
    decode (a :: b :: rest) = assemble (a.toNat - 0xC0) [b] :: decode rest := by
  have h1 : ¬a < 0x80 := Nat.not_lt_of_le (Nat.le_trans (by decide) ha.1)
  have h2 : ¬a < 0xC2 := Nat.not_lt_of_le ha.1
  rw [decode.eq_def]
  simp only [if_neg h1, if_neg h2, if_pos (show a < 0xE0 from ha.2), if_pos hb]

/-- A first byte from 0xE0 on takes two. -/
theorem decode_three (ha : 0xE0 ≤ a.toNat ∧ a.toNat < 0xF0) (hb : isSecondOfThree a b = true)
    (hc : isTail c = true) :
    decode (a :: b :: c :: rest) = assemble (a.toNat - 0xE0) [b, c] :: decode rest := by
  have h1 : ¬a < 0x80 := Nat.not_lt_of_le (Nat.le_trans (by decide) ha.1)
  have h2 : ¬a < 0xC2 := Nat.not_lt_of_le (Nat.le_trans (by decide) ha.1)
  have h3 : ¬a < 0xE0 := Nat.not_lt_of_le ha.1
  rw [decode.eq_def]
  simp only [if_neg h1, if_neg h2, if_neg h3, if_pos (show a < 0xF0 from ha.2), if_pos hb,
    if_pos hc]

/-- A first byte from 0xF0 on takes three. -/
theorem decode_four (ha : 0xF0 ≤ a.toNat ∧ a.toNat < 0xF5) (hb : isSecondOfFour a b = true)
    (hc : isTail c = true) (hd : isTail d = true) :
    decode (a :: b :: c :: d :: rest) = assemble (a.toNat - 0xF0) [b, c, d] :: decode rest := by
  have h1 : ¬a < 0x80 := Nat.not_lt_of_le (Nat.le_trans (by decide) ha.1)
  have h2 : ¬a < 0xC2 := Nat.not_lt_of_le (Nat.le_trans (by decide) ha.1)
  have h3 : ¬a < 0xE0 := Nat.not_lt_of_le (Nat.le_trans (by decide) ha.1)
  have h4 : ¬a < 0xF0 := Nat.not_lt_of_le ha.1
  rw [decode.eq_def]
  simp only [if_neg h1, if_neg h2, if_neg h3, if_neg h4, if_pos (show a < 0xF5 from ha.2),
    if_pos hb, if_pos hc, if_pos hd]

end Lengths

/-- The code points of characters end below 110000 and leave the surrogates out. -/
theorem toNat_range (c : Char) :
    c.toNat < 0xD800 ∨ 0xDFFF < c.toNat ∧ c.toNat < 0x110000 := c.valid

/-- The bytes of a character are read as that character. -/
theorem decode_encodeChar (c : Char) (rest : List UInt8) :
    decode (encodeChar c ++ rest) = c :: decode rest := by
  have hrange := toNat_range c
  have hback : Char.ofNat c.toNat = c := Char.ofNat_toNat c
  unfold encodeChar
  dsimp only
  generalize c.toNat = n at *
  split
  · have hfirst : (UInt8.ofNat n).toNat = n := toNat_ofNat (by omega)
    rw [List.singleton_append, decode_one (by omega), hfirst, hback]
  split
  · have hfirst : (UInt8.ofNat (0xC0 + n / 64)).toNat = 0xC0 + n / 64 := toNat_ofNat (by omega)
    have hsum : 64 * (n / 64) + n % 64 = n := by omega
    have hchar := assemble_tails (n / 64) [n]
    simp only [List.foldl_cons, List.foldl_nil, hsum, hback] at hchar
    show decode (_ :: _ :: rest) = _
    rw [decode_two (by omega) (isTail_ofNat n), hfirst, Nat.add_sub_cancel_left]
    exact congrArg (· :: decode rest) hchar
  split
  · have hfirst : (UInt8.ofNat (0xE0 + n / 4096)).toNat = 0xE0 + n / 4096 :=
      toNat_ofNat (by omega)
    have hsecond : isSecondOfThree (UInt8.ofNat (0xE0 + n / 4096))
        (UInt8.ofNat (0x80 + n / 64 % 64)) = true := by
      rw [isSecondOfThree_iff, hfirst, toNat_ofNat (by omega)]
      constructor <;> split <;> omega
    have hsum : 64 * (64 * (n / 4096) + n / 64 % 64) + n % 64 = n := by omega
    have hchar := assemble_tails (n / 4096) [n / 64, n]
    simp only [List.foldl_cons, List.foldl_nil, hsum, hback] at hchar
    show decode (_ :: _ :: _ :: rest) = _
    rw [decode_three (by omega) hsecond (isTail_ofNat n), hfirst, Nat.add_sub_cancel_left]
    exact congrArg (· :: decode rest) hchar
  · have hfirst : (UInt8.ofNat (0xF0 + n / 262144)).toNat = 0xF0 + n / 262144 :=
      toNat_ofNat (by omega)
    have hsecond : isSecondOfFour (UInt8.ofNat (0xF0 + n / 262144))
        (UInt8.ofNat (0x80 + n / 4096 % 64)) = true := by
      rw [isSecondOfFour_iff, hfirst, toNat_ofNat (by omega)]
      constructor <;> split <;> omega
    have hsum : 64 * (64 * (64 * (n / 262144) + n / 4096 % 64) + n / 64 % 64) + n % 64 = n := by
      omega
    have hchar := assemble_tails (n / 262144) [n / 4096, n / 64, n]
    simp only [List.foldl_cons, List.foldl_nil, hsum, hback] at hchar
    show decode (_ :: _ :: _ :: _ :: rest) = _
    rw [decode_four (by omega) hsecond (isTail_ofNat _) (isTail_ofNat n), hfirst,
      Nat.add_sub_cancel_left]
    exact congrArg (· :: decode rest) hchar

/-! ## A text -/

/-- **A text is read back from its bytes.** -/
theorem decode_encode (cs : List Char) : decode (encode cs) = cs := by
  induction cs with
  | nil => rw [encode, List.flatMap_nil, decode]
  | cons c cs ih =>
    rw [encode, List.flatMap_cons, decode_encodeChar]
    exact congrArg (c :: ·) ih

/-- Different texts have different bytes. -/
theorem eq_of_encode_eq {cs cs' : List Char} (h : encode cs = encode cs') : cs = cs' := by
  rw [← decode_encode cs, h, decode_encode]

end TokenCustody.Text.Utf8
