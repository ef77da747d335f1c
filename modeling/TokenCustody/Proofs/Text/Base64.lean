/-
TokenCustody.Proofs.Text.Base64 — the texts that bytes become.

In the alphabet for URLs bytes become letters, digits and the two marks
`-` and `_`, and nothing is filled up, so the number of bytes tells the
number of characters.

In the alphabet of HTTP credentials the last group is filled up, and the
bytes are read back (`decode_encode`): equals signs stand for no value,
so dropping them leaves what would have been written without them.
-/
import TokenCustody.Authorization.Session

namespace TokenCustody.Text.Base64

/-- The character stands in a URL as it is. -/
def IsUrlSafe (c : Char) : Prop := c.isAlphanum = true ∨ c = '-' ∨ c = '_'

instance (c : Char) : Decidable (IsUrlSafe c) := inferInstanceAs (Decidable (_ ∨ _))

theorem isUrlSafe_char (n : Nat) : IsUrlSafe (Alphabet.urlSafe.char n) := by
  by_cases hn : n < 62
  · have hall : ∀ n < 62, IsUrlSafe (Alphabet.urlSafe.char n) := by decide +kernel
    exact hall n hn
  · have hlarge : ¬n < 26 ∧ ¬n < 52 := by omega
    unfold Alphabet.char
    rw [if_neg hlarge.1, if_neg hlarge.2, if_neg hn]
    split
    · exact Or.inr (Or.inl rfl)
    · exact Or.inr (Or.inr rfl)

theorem isUrlSafe_encode {bytes : List UInt8} {c : Char} (h : c ∈ encode .urlSafe bytes) :
    IsUrlSafe c := by
  induction bytes using encode.induct with
  | case1 x y z rest ih =>
    simp only [encode, List.mem_cons] at h
    obtain rfl | rfl | rfl | rfl | h := h
    case inr.inr.inr.inr => exact ih h
    all_goals exact isUrlSafe_char _
  | case2 x y =>
    have hfiller : Alphabet.urlSafe.filler 1 = [] := rfl
    simp only [encode, hfiller, List.append_nil, List.mem_cons, List.not_mem_nil, or_false] at h
    obtain rfl | rfl | rfl := h <;> exact isUrlSafe_char _
  | case3 x =>
    have hfiller : Alphabet.urlSafe.filler 2 = [] := rfl
    simp only [encode, hfiller, List.append_nil, List.mem_cons, List.not_mem_nil, or_false] at h
    obtain rfl | rfl := h <;> exact isUrlSafe_char _
  | case4 => simp [encode] at h

/-- Three bytes become four characters, and what is left over as many as it takes. -/
theorem length_encode (bytes : List UInt8) :
    (encode .urlSafe bytes).length = (4 * bytes.length + 2) / 3 := by
  induction bytes using encode.induct with
  | case1 x y z rest ih =>
    simp only [encode, List.length_cons, ih]
    omega
  | case2 x y => simp [encode, Alphabet.filler, Alphabet.urlSafe]
  | case3 x => simp [encode, Alphabet.filler, Alphabet.urlSafe]
  | case4 => simp [encode]

/-! ## Reading back -/

/-- The alphabet of HTTP credentials, with nothing filled up. -/
def Alphabet.bare : Alphabet := { Alphabet.standard with padded := false }

theorem value_char {n : Nat} (h : n < 64) :
    Alphabet.standard.value (Alphabet.standard.char n) = some n := by
  have hall : ∀ n < 64, Alphabet.standard.value (Alphabet.standard.char n) = some n := by
    decide +kernel
  exact hall n h

theorem char_ne_filler (n : Nat) : Alphabet.standard.char n ≠ '=' := by
  by_cases hn : n < 62
  · have hall : ∀ n < 62, Alphabet.standard.char n ≠ '=' := by decide +kernel
    exact hall n hn
  · have hlarge : ¬n < 26 ∧ ¬n < 52 := by omega
    unfold Alphabet.char
    rw [if_neg hlarge.1, if_neg hlarge.2, if_neg hn]
    split <;> decide

/-- Without the equals signs the text is the one that is not filled up. -/
theorem filter_encode (bytes : List UInt8) :
    (encode .standard bytes).filter (· ≠ '=') = encode .bare bytes := by
  have hkeep (n : Nat) (cs : List Char) : (Alphabet.standard.char n :: cs).filter (· ≠ '=') =
      Alphabet.standard.char n :: cs.filter (· ≠ '=') :=
    List.filter_cons_of_pos (decide_eq_true (char_ne_filler n))
  have hchar : Alphabet.bare.char = Alphabet.standard.char := rfl
  induction bytes using encode.induct with
  | case1 x y z rest ih => simp only [encode, hchar, hkeep, ih]
  | case2 x y =>
    simp only [encode, hchar, List.cons_append, List.nil_append, hkeep]
    rfl
  | case3 x =>
    simp only [encode, hchar, List.cons_append, List.nil_append, hkeep]
    rfl
  | case4 => rfl

theorem decodeBare_encode (bytes : List UInt8) :
    decodeBare .standard (encode .bare bytes) = some bytes := by
  have hchar : Alphabet.bare.char = Alphabet.standard.char := rfl
  induction bytes using encode.induct with
  | case1 x y z rest ih =>
    have hx := x.toNat_lt
    have hy := y.toNat_lt
    have hz := z.toNat_lt
    simp only [encode, hchar, decodeBare]
    generalize hn : 65536 * x.toNat + 256 * y.toNat + z.toNat = n
    have hsum : 262144 * (n / 262144) + 4096 * (n / 4096 % 64) + 64 * (n / 64 % 64) + n % 64 = n := by
      omega
    have h1 : n / 65536 = x.toNat := by omega
    have h2 : n / 256 % 256 = y.toNat := by omega
    have h3 : n % 256 = z.toNat := by omega
    rw [value_char (by omega), value_char (by omega), value_char (by omega),
      value_char (by omega), ih]
    simp only [Option.bind_eq_bind, Option.bind_some, hsum, h1, h2, h3, UInt8.ofNat_toNat]
  | case2 x y =>
    have hx := x.toNat_lt
    have hy := y.toNat_lt
    have hfiller : Alphabet.bare.filler 1 = [] := rfl
    simp only [encode, hchar, hfiller, List.append_nil, decodeBare]
    generalize hn : 65536 * x.toNat + 256 * y.toNat = n
    have hsum : 262144 * (n / 262144) + 4096 * (n / 4096 % 64) + 64 * (n / 64 % 64) = n := by omega
    have h1 : n / 65536 = x.toNat := by omega
    have h2 : n / 256 % 256 = y.toNat := by omega
    rw [value_char (by omega), value_char (by omega), value_char (by omega)]
    simp only [Option.bind_eq_bind, Option.bind_some, hsum, h1, h2, UInt8.ofNat_toNat]
  | case3 x =>
    have hx := x.toNat_lt
    have hfiller : Alphabet.bare.filler 2 = [] := rfl
    simp only [encode, hchar, hfiller, List.append_nil, decodeBare]
    generalize hn : 65536 * x.toNat = n
    have hsum : 262144 * (n / 262144) + 4096 * (n / 4096 % 64) = n := by omega
    have h1 : n / 65536 = x.toNat := by omega
    rw [value_char (by omega), value_char (by omega)]
    simp only [Option.bind_eq_bind, Option.bind_some, hsum, h1, UInt8.ofNat_toNat]
  | case4 => rfl

/-- Bytes are read back from the text of HTTP credentials. -/
theorem decode_encode (bytes : List UInt8) :
    decode .standard (encode .standard bytes) = some bytes := by
  have hpadded : Alphabet.standard.padded = true := rfl
  unfold decode
  rw [if_pos hpadded, filter_encode, decodeBare_encode]

/-- Every group of the text of HTTP credentials is filled up. -/
theorem length_encode_standard (bytes : List UInt8) :
    (encode .standard bytes).length = 4 * ((bytes.length + 2) / 3) := by
  induction bytes using encode.induct with
  | case1 x y z rest ih =>
    simp only [encode, List.length_cons, ih]
    omega
  | case2 x y => simp [encode, Alphabet.filler, Alphabet.standard]
  | case3 x => simp [encode, Alphabet.filler, Alphabet.standard]
  | case4 => simp [encode]

end TokenCustody.Text.Base64

namespace TokenCustody

open TokenCustody.Text

/-- As many random bytes as a session is told by become 43 characters. -/
theorem length_nonceOfBytes {bytes : List UInt8} (h : bytes.length = nonceBytes) :
    (nonceOfBytes bytes).length = 43 := by
  rw [nonceOfBytes, String.length_ofList, Base64.length_encode, h]
  rfl

theorem isUrlSafe_nonceOfBytes {bytes : List UInt8} {c : Char}
    (h : c ∈ (nonceOfBytes bytes).toList) : Base64.IsUrlSafe c := by
  rw [nonceOfBytes, String.toList_ofList] at h
  exact Base64.isUrlSafe_encode h

end TokenCustody
