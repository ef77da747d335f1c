/-
TokenCustody.Proofs.Url.Hosts — how hosts are written.

Whatever text a host was read from, it is written with solid characters
only (`Url.solid_readHost`): no blank, and neither of the two marks that end
the place of a URL. So whoever reads the URL finds the same host again.

Each kind of host has a reason of its own. Addresses are numbers. An opaque
name may not hold such characters, and its controls are percent-encoded. A
domain name may not hold them either, and the code of a label is made of
letters, figures and hyphens.
-/
import TokenCustody.Proofs.Text.Decimal
import TokenCustody.Proofs.Text.Percent
import TokenCustody.Proofs.Url.Reading

namespace TokenCustody.Url

open TokenCustody.Text

/-! ## Solid characters -/

/-- No blank, and neither mark that ends a place. -/
def IsSolid (c : Char) : Prop := 0x20 < c.toNat ∧ c ≠ '?' ∧ c ≠ '#'

instance (c : Char) : Decidable (IsSolid c) :=
  inferInstanceAs (Decidable (0x20 < c.toNat ∧ c ≠ '?' ∧ c ≠ '#'))

/-- Letters and figures are solid. -/
theorem isSolid_of_isAlphanum {c : Char} (h : c.isAlphanum = true) : IsSolid c := by
  have hall : ∀ n < 0x80, (Char.ofNat n).isAlphanum = true → IsSolid (Char.ofNat n) := by decide
  exact of_ascii (p := fun c => c.isAlphanum = true → IsSolid c) hall (ascii_of_isAlphanum h) h

theorem isSolid_of_isDigit {c : Char} (h : c.isDigit = true) : IsSolid c :=
  isSolid_of_isAlphanum (by simp [Char.isAlphanum, h])

/-- What is percent-encoded is solid if the characters that are left as they are, are so. -/
theorem isSolid_of_mem_encode {set : Char → Bool} {cs : List Char}
    (hplain : ∀ c ∈ cs, c.toNat < 0x80 → set c = false → IsSolid c) :
    ∀ d ∈ Percent.encode set cs, IsSolid d :=
  Percent.forall_mem_encode hplain (by decide) (by decide)

/-- What stands between solid pieces must be solid, too. -/
theorem isSolid_of_mem_join {sep : Char} {pieces : List (List Char)} (hsep : IsSolid sep)
    (hpieces : ∀ piece ∈ pieces, ∀ c ∈ piece, IsSolid c) {c : Char}
    (h : c ∈ join [sep] pieces) : IsSolid c := by
  rcases of_mem_join h with h | ⟨piece, hpiece, h⟩
  · exact List.mem_singleton.mp h ▸ hsep
  · exact hpieces piece hpiece c h

/-! ## Addresses -/

/-- Hexadecimal numbers are written with solid characters. -/
theorem isSolid_of_mem_toDigits {n : Nat} {c : Char} (h : c ∈ Nat.toDigits 16 n) : IsSolid c := by
  have hdigit : ∀ m < 16, IsSolid (Nat.digitChar m) := by decide
  induction n using Nat.strongRecOn with
  | ind n ih =>
    rw [Nat.toDigits_eq_if (by decide)] at h
    split at h
    · next hlt =>
      rw [List.mem_singleton.mp h]
      exact hdigit n hlt
    · rcases List.mem_append.mp h with h | h
      · exact ih (n / 16) (by omega) h
      · rw [List.mem_singleton.mp h]
        exact hdigit (n % 16) (Nat.mod_lt n (by decide))

/-- An address of four numbers is solid: figures and dots. -/
theorem isSolid_of_mem_printIpv4 {n : Nat} {c : Char} (h : c ∈ printIpv4 n) : IsSolid c := by
  refine isSolid_of_mem_join (by decide) ?_ h
  intro piece hpiece d hd
  obtain ⟨m, -, rfl⟩ := List.mem_map.mp hpiece
  exact isSolid_of_isDigit (isDigit_of_mem_decimal hd)

theorem isSolid_of_mem_printPieces {pieces : List Nat} {c : Char} (h : c ∈ printPieces pieces) :
    IsSolid c := by
  refine isSolid_of_mem_join (by decide) ?_ h
  intro piece hpiece d hd
  obtain ⟨m, -, rfl⟩ := List.mem_map.mp hpiece
  exact isSolid_of_mem_toDigits hd

/-- An address of eight pieces is solid, also where a run of zeros is left out of it. -/
theorem isSolid_of_mem_printIpv6 {pieces : List Nat} {c : Char} (h : c ∈ printIpv6 pieces) :
    IsSolid c := by
  unfold printIpv6 at h
  split at h
  · exact isSolid_of_mem_printPieces h
  · simp only [List.mem_append, List.mem_cons, List.not_mem_nil, or_false] at h
    rcases h with (h | rfl | rfl) | h
    · exact isSolid_of_mem_printPieces h
    · decide
    · decide
    · exact isSolid_of_mem_printPieces h

/-! ## Labels in code -/

/-- A digit of the code of a label is a letter or a figure. -/
theorem isSolid_placeDigit {d : Nat} (h : d < 36) : IsSolid (placeDigit d) := by
  have hall : ∀ d < 36, IsSolid (placeDigit d) := by decide
  exact hall d h

/-- The threshold of a digit is below 36, so each digit of a number in the code has a character. -/
theorem isSolid_of_mem_placeDigits {bias position n : Nat} {c : Char}
    (h : c ∈ placeDigits bias position n) : IsSolid c := by
  have hthreshold : threshold position bias ≤ 26 := by
    unfold threshold
    omega
  induction position, n using placeDigits.induct bias with
  | case1 position n t hlt =>
    rw [placeDigits, if_pos hlt, List.mem_singleton] at h
    rw [h]
    exact isSolid_placeDigit (by omega)
  | case2 position n t hge ih =>
    rw [placeDigits, if_neg hge] at h
    rcases List.mem_cons.mp h with rfl | h
    · have hrest : (n - t) % (36 - t) < 36 - t := Nat.mod_lt _ (by omega)
      exact isSolid_placeDigit (show t + (n - t) % (36 - t) < 36 by omega)
    · refine ih h ?_
      unfold threshold
      omega

/-- One pass over a character adds solid digits only. -/
theorem Placing.isSolid_pass {p : Placing} (n : Nat) (c : Char) (h : ∀ d ∈ p.digits, IsSolid d) :
    ∀ d ∈ (p.pass n c).digits, IsSolid d := by
  intro d hd
  unfold Placing.pass at hd
  split at hd
  · exact h d hd
  · split at hd
    · rcases List.mem_append.mp hd with hd | hd
      · exact h d hd
      · exact isSolid_of_mem_placeDigits hd
    · exact h d hd

/-- So does a pass over the whole label, for one code point. -/
theorem Placing.isSolid_foldl {label : List Char} {p : Placing} (n : Nat)
    (h : ∀ d ∈ p.digits, IsSolid d) : ∀ d ∈ (label.foldl (pass n) p).digits, IsSolid d := by
  induction label generalizing p with
  | nil => exact h
  | cons c label ih => exact ih (isSolid_pass n c h)

theorem Placing.isSolid_place {label : List Char} {p : Placing} (previous n : Nat)
    (h : ∀ d ∈ p.digits, IsSolid d) : ∀ d ∈ (p.place label previous n).digits, IsSolid d :=
  isSolid_foldl (p := { p with delta := p.delta + (n - previous) * (p.count + 1) }) n h

/-- So do the passes for all code points. -/
theorem Placing.isSolid_placeAll {label : List Char} {p : Placing} {previous : Nat}
    {points : List Nat} (h : ∀ d ∈ p.digits, IsSolid d) :
    ∀ d ∈ (p.placeAll label previous points).digits, IsSolid d := by
  induction points generalizing p previous with
  | nil => exact h
  | cons n points ih => exact ih (isSolid_place previous n h)

/-- The code of a label of solid characters is solid. -/
theorem isSolid_of_mem_encodeLabel {label : List Char} (h : ∀ c ∈ label, IsSolid c) {d : Char}
    (hd : d ∈ encodeLabel label) : IsSolid d := by
  unfold encodeLabel at hd
  rcases List.mem_append.mp hd with hd | hd
  · rcases List.mem_append.mp hd with hd | hd
    · exact h d (List.mem_filter.mp hd).1
    · split at hd
      · cases hd
      · rw [List.mem_singleton.mp hd]
        decide
  · refine Placing.isSolid_placeAll (fun c hc => ?_) d hd
    cases hc

/-- A label of solid characters is written as it is, or as its code behind a mark, and is solid
either way. -/
theorem Label.isSolid_written {cs : List Char} {l : Label} (hl : Label.of? cs = some l)
    (h : ∀ c ∈ cs, IsSolid c) : ∀ c ∈ l.written, IsSolid c := by
  unfold Label.of? at hl
  split at hl
  · split at hl
    · split at hl
      · cases hl
        exact h
      · cases hl
    · cases hl
  · split at hl
    · cases hl
      exact h
    · split at hl
      · cases hl
        intro c hc
        rcases List.mem_append.mp hc with hc | hc
        · have hmark : codeMark.all (fun c => decide (IsSolid c)) = true := by decide
          exact of_decide_eq_true (List.all_eq_true.mp hmark c hc)
        · exact isSolid_of_mem_encodeLabel h hc
      · cases hl

/-! ## Domain names -/

/-- What is not forbidden in a domain name is solid. -/
theorem isSolid_of_not_isForbidden {c : Char} (h : isForbidden c = false) : IsSolid c := by
  simp only [isForbidden, Bool.or_eq_false_iff, decide_eq_false_iff_not, Nat.not_le,
    beq_eq_false_iff_ne] at h
  simp only [IsSolid]
  grind

/-- A name in its one spelling is solid, as it was checked for forbidden characters. -/
theorem isSolid_of_canonical {cs name : List Char} (h : canonical? cs = some name) :
    ∀ c ∈ name, IsSolid c := by
  unfold canonical? at h
  dsimp only at h
  split at h
  · split at h
    · cases h
    · next hfree =>
      cases h
      intro c hc
      refine isSolid_of_not_isForbidden (Bool.eq_false_iff.mpr fun hforbidden => ?_)
      exact hfree (List.any_eq_true.mpr ⟨c, hc, hforbidden⟩)
  · cases h

/-- What a partial map makes of a list is what it makes of the members. -/
theorem of_mapM_eq_some {α β : Type} {f : α → Option β} {xs : List α} {ys : List β}
    (h : xs.mapM f = some ys) : ∀ y ∈ ys, ∃ x ∈ xs, f x = some y := by
  induction xs generalizing ys with
  | nil =>
    cases h
    exact nofun
  | cons x xs ih =>
    rw [List.mapM_cons] at h
    obtain ⟨y, hy, hrest⟩ := Option.bind_eq_some_iff.mp h
    obtain ⟨ys', hys, hconcat⟩ := Option.bind_eq_some_iff.mp hrest
    cases hconcat
    intro z hz
    rcases List.mem_cons.mp hz with rfl | hz
    · exact ⟨x, List.mem_cons_self, hy⟩
    · obtain ⟨x', hx', hz⟩ := ih hys z hz
      exact ⟨x', List.mem_cons_of_mem x hx', hz⟩

/-- A domain name in ASCII is solid, label by label. -/
theorem isSolid_of_domainToAscii {cs name : List Char} (h : domainToAscii cs = some name) :
    ∀ c ∈ name, IsSolid c := by
  unfold domainToAscii at h
  split at h
  · next labels hlabels =>
    split at h
    · cases h
      obtain ⟨spelled, hspelled, hmap⟩ := Option.bind_eq_some_iff.mp hlabels
      intro c hc
      refine isSolid_of_mem_join (by decide) ?_ hc
      intro piece hpiece
      obtain ⟨l, hl, rfl⟩ := List.mem_map.mp hpiece
      obtain ⟨label, hlabel, hof⟩ := of_mapM_eq_some hmap l hl
      refine Label.isSolid_written hof fun d hd => ?_
      exact isSolid_of_canonical hspelled d (of_mem_split hlabel hd).2
    · cases h
  · cases h

/-! ## Hosts -/

/-- A host that is written with solid characters only. -/
def Host.Solid (h : Host) : Prop := ∀ c ∈ h.print, IsSolid c

/-- A host in brackets is an address of eight pieces. -/
theorem solid_readBracketed {cs : List Char} {host : Host} (h : readBracketed cs = .ok host) :
    host.Solid := by
  unfold readBracketed at h
  split at h
  · split at h
    · cases h
      intro c hc
      simp only [Host.print, List.mem_append, List.mem_cons, List.not_mem_nil, or_false] at hc
      rcases hc with (rfl | hc) | rfl
      · decide
      · exact isSolid_of_mem_printIpv6 hc
      · decide
    · cases h
  · cases h

/-- What an opaque host may hold without being encoded is solid. -/
theorem isSolid_of_not_isForbiddenOpaque {c : Char} (hascii : c.toNat < 0x80)
    (hset : isControl c = false) (h : isForbiddenOpaque c = false) : IsSolid c := by
  have hall : ∀ n < 0x80, isControl (Char.ofNat n) = false →
      isForbiddenOpaque (Char.ofNat n) = false → IsSolid (Char.ofNat n) := by decide
  exact of_ascii (p := fun c => isControl c = false → isForbiddenOpaque c = false → IsSolid c)
    hall hascii hset h

/-- An opaque host is solid, as its controls are encoded and the rest is checked. -/
theorem solid_readOpaqueHost {cs : List Char} {host : Host} (h : readOpaqueHost cs = .ok host) :
    host.Solid := by
  unfold readOpaqueHost at h
  split at h
  · exact solid_readBracketed h
  · split at h
    · cases h
    · next hfree =>
      cases h
      refine isSolid_of_mem_encode fun c hc hascii hset => ?_
      refine isSolid_of_not_isForbiddenOpaque hascii hset (Bool.eq_false_iff.mpr fun hc' => ?_)
      exact hfree (List.any_eq_true.mpr ⟨c, hc, hc'⟩)

/-- The host of a scheme with domains is an address or a name in ASCII. -/
theorem solid_readDomainHost {cs : List Char} {host : Host} (h : readDomainHost cs = .ok host) :
    host.Solid := by
  unfold readDomainHost at h
  split at h
  · exact solid_readBracketed h
  · split at h
    · cases h
    · cases h
    · next name _ hname =>
      split at h
      · split at h
        · cases h
          exact fun c hc => isSolid_of_mem_printIpv4 hc
        · cases h
      · cases h
        exact isSolid_of_domainToAscii hname

/-- **Hosts are written with solid characters only.** -/
theorem solid_readHost {k : SchemeKind} {cs : List Char} {host : Host}
    (h : readHost k cs = .ok host) : host.Solid := by
  unfold readHost at h
  split at h
  · split at h
    · cases h
    · exact solid_readDomainHost h
  · exact solid_readOpaqueHost h

end TokenCustody.Url
