/-
TokenCustody.Proofs.Token.RoundTrip — the document of a record is read
back as the record.

The document is the only copy of the credential, so nothing of it may be
lost on the way: no character of a text, no leap second, no member that
was left out. What is lost is the version, which belongs to the store,
and it stays lost whatever the document says about versions.

A count of refreshes is read as an unsigned number of 64 bits. Every
record that was read has such a count, so what was read once is read
again.
-/
import TokenCustody.Proofs.Json.Fields
import TokenCustody.Proofs.Time.Rfc3339
import TokenCustody.Token.Document

namespace TokenCustody

open TokenCustody.Json
open TokenCustody.Time

/-! ## Parts -/

/-- An instant is read back as it was written. -/
theorem instantOfJson_toJson (t : Instant) : instantOfJson? (instantToJson t) = some t := by
  rw [instantOfJson?, instantToJson, Value.str, Value.string?, Option.bind_some,
    Instant.ofString_render]

theorem string_str (s : String) : (Value.str s).string? = some s := rfl

theorem plain_str (s : String) : (Value.str s).Plain := rfl

theorem plain_instant (t : Instant) : (instantToJson t).Plain := rfl

theorem plain_count (n : Nat) : (Value.count n).Plain := rfl

theorem FaultKind.ofJson_name (k : FaultKind) : FaultKind.ofJson? (.str k.name) = some k := by
  cases k <;> rfl

/-- A count of 64 bits is read back. -/
theorem word_count {n : Nat} (h : n < Text.wordCount) : (Value.count n).word? = some n := by
  simp [Value.count, Value.word?, Number.ofNat, h]

/-- What is read as a number of 64 bits is one. -/
theorem lt_wordCount_of_word {v : Value} {n : Nat} (h : v.word? = some n) : n < Text.wordCount := by
  unfold Value.word? at h
  split at h
  · split at h
    · next hn =>
      cases h
      exact hn.2.2
    · cases h
  · cases h

/-! ## Faults -/

namespace Fault

theorem toJson_eq (f : Fault) : f.toJson = .object (written f.fields) := rfl

theorem plain_toJson (f : Fault) : f.toJson.Plain := by
  rw [toJson_eq]
  exact plainMembers_written (by simp [fields, plain_str, plain_instant])

/-- A written fault is read back. -/
theorem ofJson_toJson (f : Fault) : ofJson? f.toJson = some f := by
  have hnodup : (f.fields.map Prod.fst).Nodup := by simp [fields]
  obtain ⟨g, hg, hfields⟩ := fields_of_written hnodup (List.forall_mem_nil _)
  have hnames : f.fields.map Prod.fst = names := rfl
  rw [List.append_nil, ← toJson_eq, hnames] at hg
  simp only [fields, List.forall_mem_cons] at hfields
  obtain ⟨hkind, hmessage, hobserved, -⟩ := hfields
  simp only [ofJson?, hg, Fields.need_of_some hkind, Fields.need_of_some hmessage,
    Fields.need_of_some hobserved, FaultKind.ofJson_name, string_str, instantOfJson_toJson,
    Option.bind_eq_bind, Option.bind_some]

end Fault

/-! ## Records -/

namespace Record

theorem toJson_eq (r : Record) : r.toJson = .object (written r.fields) := rfl

/-- The document of a record with one more member behind its own. -/
def documentWith (r : Record) (name : String) (v : Value) : String :=
  (Value.object (written r.fields ++ [(some name, v)])).render

/-- All fields of a record are written in one way only. -/
theorem plain_fields (r : Record) : ∀ m ∈ r.fields, ∀ v ∈ m.2, v.Plain := by
  simp [fields, plain_str, plain_instant, plain_count, Fault.plain_toJson]

/-- The fields of a record are read back, whatever other members stand behind them. -/
theorem ofJson_written {r : Record} (h : r.refreshCount < Text.wordCount)
    {more : List (Text × Value)}
    (hmore : ∀ m ∈ more, ∃ name, m.1 = some name ∧ name ∉ names) :
    ofJson? (.object (written r.fields ++ more)) = some r.bare := by
  have hnodup : (r.fields.map Prod.fst).Nodup := by simp [fields]
  obtain ⟨g, hg, hfields⟩ := fields_of_written hnodup hmore
  have hnames : r.fields.map Prod.fst = names := rfl
  rw [hnames] at hg
  simp only [fields, List.forall_mem_cons] at hfields
  obtain ⟨haccess, hrefresh, htype, hscope, hissued, hexpires, hlifetime, hlast, hcount, hfault,
    -⟩ := hfields
  simp only [ofJson?, hg, Fields.need_of_some haccess, Fields.need_of_some hrefresh,
    Fields.need_of_some htype, Fields.need_of_some hissued, Fields.need_of_some hexpires,
    Fields.need_of_some hlifetime, Fields.orElse_of_some hcount,
    Fields.optional_of_map hscope string_str (fun _ => nofun),
    Fields.optional_of_map hlast instantOfJson_toJson (fun _ => nofun),
    Fields.optional_of_map hfault Fault.ofJson_toJson (fun _ => nofun),
    string_str, instantOfJson_toJson, word_count h, Option.bind_eq_bind, Option.bind_some, bare]

/-- The document of a record is read back without its version. -/
theorem ofDocument_document {r : Record} (h : r.refreshCount < Text.wordCount) :
    ofDocument? r.document = some r.bare := by
  have hplain : r.toJson.Plain := plainMembers_written r.plain_fields
  have hread := ofJson_written h (List.forall_mem_nil _)
  rw [List.append_nil, ← toJson_eq] at hread
  rw [ofDocument?, document, Value.ofString_render hplain, Option.bind_some, hread]

/-- A member that is no field of a record is not believed. -/
theorem ofDocument_documentWith {r : Record} (h : r.refreshCount < Text.wordCount) {name : String}
    (hname : name ∉ names) {v : Value} (hv : v.Plain) :
    ofDocument? (r.documentWith name v) = some r.bare := by
  have hplain : (Value.object (written r.fields ++ [(some name, v)])).Plain :=
    plainMembers_append (plainMembers_written r.plain_fields) ⟨rfl, hv, trivial⟩
  have hmore : ∀ m ∈ [((some name : Text), v)], ∃ name, m.1 = some name ∧ name ∉ names := by
    simpa using hname
  have hread := ofJson_written h hmore
  rw [ofDocument?, documentWith, Value.ofString_render hplain, Option.bind_some, hread]

/-- A record that was read has no version, and its count fits. -/
theorem ofJson_facts {v : Value} {r : Record} (h : ofJson? v = some r) :
    r.version = none ∧ r.refreshCount < Text.wordCount := by
  simp only [ofJson?, Option.bind_eq_bind, Option.bind_eq_some_iff, Option.some.injEq] at h
  obtain ⟨f, -, _, -, _, -, _, -, _, -, _, -, _, -, _, -, _, -, n, hcount, _, -, rfl⟩ := h
  refine ⟨rfl, ?_⟩
  unfold Fields.orElse at hcount
  split at hcount
  · cases hcount
    exact Nat.succ_pos _
  · exact lt_wordCount_of_word hcount

theorem bare_of_version {r : Record} (h : r.version = none) : r.bare = r := by
  cases r
  cases h
  rfl

/-- What was read once is read again from its own document. -/
theorem ofDocument_again {s : String} {r : Record} (h : ofDocument? s = some r) :
    r.version = none ∧ ofDocument? r.document = some r := by
  obtain ⟨v, -, hv⟩ := Option.bind_eq_some_iff.mp h
  obtain ⟨hversion, hcount⟩ := ofJson_facts hv
  rw [ofDocument_document hcount, bare_of_version hversion]
  exact ⟨hversion, rfl⟩

/-! ## The round trip -/

/-- The document of a record is read back as the record without its version, also if
somebody wrote a further member into it. Whatever text is read as a record, the record has
no version, and its own document is read as the same record. -/
theorem document_round_trip :
    (∀ r : Record, r.refreshCount < Text.wordCount → ofDocument? r.document = some r.bare) ∧
    (∀ (s : String) (r : Record), ofDocument? s = some r →
      r.version = none ∧ ofDocument? r.document = some r) ∧
    (∀ (r : Record) (name : String) (v : Value), r.refreshCount < Text.wordCount → name ∉ names →
      v.Plain → ofDocument? (r.documentWith name v) = some r.bare) :=
  ⟨fun _ h => ofDocument_document h, fun _ _ h => ofDocument_again h,
    fun _ _ _ h hname hv => ofDocument_documentWith h hname hv⟩

/-- A record of rare values: a quotation mark, a backslash and control characters, the first
instant of the calendar, a leap second, and the greatest count. -/
def rare : Record where
  accessToken := "a\"\\\n\x01\x7f\u2028😀"
  refreshToken := ""
  tokenType := "Bearer"
  scope := none
  issuedAt := (Instant.ofParts? firstSecond 0).getD .epoch
  expiresAt := (Instant.ofParts? 59 1000000001).getD .epoch
  refreshExpiresAt := (Instant.ofParts? lastSecond 999999999).getD .epoch
  lastRefreshAt := Instant.ofParts? (-1) 120000
  refreshCount := 18446744073709551615
  fault := some ⟨.apiRejected, "HTTP 401", (Instant.ofParts? 0 500000000).getD .epoch⟩
  version := some ⟨"7"⟩

/-- The rare record is read back, and so is its document with a version written into it. -/
theorem document_round_trip_of_rare :
    (rare.refreshCount < Text.wordCount ∧ ofDocument? rare.document = some rare.bare) ∧
    (ofDocument? (rare.documentWith "store_version" (.str "7")) = some rare.bare ∧
      rare.bare.version = none ∧ ofDocument? rare.bare.document = some rare.bare) ∧
    ("store_version" ∉ names ∧ (Value.str "7").Plain ∧
      ofDocument? (rare.documentWith "store_version" (.str "7")) = some rare.bare) := by
  have hcount : rare.refreshCount < Text.wordCount := by decide
  have hname : "store_version" ∉ names := by decide
  have hread := document_round_trip.2.2 rare "store_version" (.str "7") hcount hname rfl
  exact ⟨⟨hcount, document_round_trip.1 rare hcount⟩,
    ⟨hread, document_round_trip.2.1 _ _ hread⟩, hname, rfl, hread⟩

end Record

end TokenCustody
