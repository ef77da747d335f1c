/-
TokenCustody.Proofs.Config.Wiring — stores at places with nothing below.

The place of the store is asked for twice. The configuration asks for a
URL. The store asks for a URL with a path, because it adds the name of its
secret to it. Not every URL has one: behind a scheme that is not special
a path starts with a slash, and without the slash there is only a text,
as in an address for mail.

So a configuration can be accepted and then be of no use. Whether it is
can be told from the text alone (`Variables.wired_iff`).
-/
import TokenCustody.Proofs.Config.Environment
import TokenCustody.Proofs.Url.Segments
import TokenCustody.Store.Remote

namespace TokenCustody

open TokenCustody.Text

/-! ## Paths of URLs -/

namespace Url

/-- A text names a place that others can lie below: its scheme is special, or a slash stands
behind the colon. -/
def Hierarchical (cs : List Char) : Prop :=
  ∃ scheme rest, front cs = scheme ++ ':' :: rest ∧ ':' ∉ scheme ∧
    (SchemeKind.of (scheme.map Char.toLower) ≠ .other ∨ ∃ tail, rest = '/' :: tail)

/-- A place has a path exactly if the scheme is special or a slash comes first. -/
theorem path_of_readPlace {scheme cs : List Char} {authority : Option Authority} {path : Path}
    (h : readPlace scheme cs = .ok (authority, path)) :
    (∃ segs, path = .segments segs) ↔
      SchemeKind.of scheme ≠ .other ∨ ∃ tail, cs = '/' :: tail := by
  unfold readPlace at h
  split at h
  · next hkind =>
    exact iff_of_true (segments_of_readFilePlace h) (Or.inl (by simp [hkind]))
  · next hkind =>
    obtain ⟨_, -, hplace⟩ := exists_ok_of_bind h
    cases hplace
    exact iff_of_true ⟨_, rfl⟩ (Or.inl (by simp [hkind]))
  · next hkind =>
    split at h
    · next cs =>
      obtain ⟨_, -, hplace⟩ := exists_ok_of_bind h
      cases hplace
      exact iff_of_true ⟨_, rfl⟩ (Or.inr ⟨_, rfl⟩)
    · cases h
      exact iff_of_true ⟨_, rfl⟩ (Or.inr ⟨_, rfl⟩)
    · next hslash =>
      cases h
      refine iff_of_false nofun ?_
      rintro (hspecial | ⟨tail, rfl⟩)
      · exact hspecial hkind
      · exact hslash tail rfl

/-- A URL has a path exactly if its text says so. -/
theorem path_iff_hierarchical {cs : List Char} {u : Url} (h : parse cs = .ok u) :
    (∃ segs, u.path = .segments segs) ↔ Hierarchical cs := by
  obtain ⟨⟨rest, hscheme, hplace⟩, -⟩ := parse_ok h
  obtain ⟨written, hcs, hfree, hwritten⟩ := written_of_readScheme hscheme
  rw [hwritten] at hplace
  refine (path_of_readPlace hplace).trans ⟨fun hroot => ⟨written, rest, hcs, hfree, hroot⟩, ?_⟩
  rintro ⟨written', rest', hcs', hfree', hroot⟩
  -- Both stand before the first colon.
  have hcut {w r : List Char} (hw : ':' ∉ w) : cut (· == ':') (w ++ ':' :: r) = (w, some r) :=
    cut_append_cons (fun c hc => beq_false_of_ne fun heq => hw (heq ▸ hc)) rfl
  have hsame := hcut (r := rest) hfree
  rw [← hcs, hcs', hcut hfree'] at hsame
  cases hsame
  exact hroot

/-- A URL has something below it exactly if it has a path. -/
theorem isSome_child_iff {u : Url} (name : String) :
    (u.child name).isSome ↔ ∃ segs, u.path = .segments segs := by
  unfold child
  cases u.path <;> simp

end Url

/-- There is a store at a place exactly if others can lie below it, and otherwise the place
is what is wrong. -/
theorem RemoteStore.ofConfig_iff {c : StoreConfig} {u : Url} (h : Url.ofString c.baseUrl = .ok u) :
    ((∃ store, RemoteStore.ofConfig c = .ok store) ↔ Url.Hierarchical c.baseUrl.toList) ∧
      ∀ e, RemoteStore.ofConfig c = .error e → e = .configuration (.endpoint c.baseUrl) := by
  rw [← Url.path_iff_hierarchical h, ← Url.isSome_child_iff c.secretName]
  unfold RemoteStore.ofConfig
  rw [h]
  cases hchild : u.child c.secretName with
  | none => simp [Except.toOption, hchild, eq_comm]
  | some u' => simp [Except.toOption, hchild]

namespace Variables

variable {v : Variables} {job : JobConfig}

/-- **Stores at places with nothing below.** With an accepted configuration the store is at the
place that its variable names, and that is a URL. There is a store exactly if other places can
lie below it, which its text says. Otherwise the error names the place. -/
theorem wired_iff (h : v.jobConfig = some (.ok job)) :
    v.value "STORE_URL" = some job.store.baseUrl ∧
      (∃ u, Url.ofString job.store.baseUrl = .ok u) ∧
      ((∃ store, RemoteStore.ofConfig job.store = .ok store) ↔
        Url.Hierarchical job.store.baseUrl.toList) ∧
      ∀ e, RemoteStore.ofConfig job.store = .error e →
        e = .configuration (.endpoint job.store.baseUrl) := by
  obtain ⟨hvalue, u, hu⟩ := (gives_parts h).result.2
  exact ⟨hvalue, ⟨u, hu⟩, RemoteStore.ofConfig_iff hu⟩

namespace Sample

/-- All that is needed, with a store at some place. -/
def storedAt (place : String) : Variables := fun name =>
  if name = "TOKEN_KEEPER_STORE_URL" then some place else given "300" name

theorem exists_job_storedAt (place : String)
    (h : threshold (storedAt place) = some (.ofSeconds 300)) (hplace : place ≠ "") :
    ∃ job, (storedAt place).jobConfig = some (.ok job) ∧ job.store.baseUrl = place := by
  obtain ⟨job, hjob, -⟩ := exists_job h
  have htold : (storedAt place).value "STORE_URL" = some place :=
    value_eq_some_iff.mpr ⟨rfl, hplace⟩
  have hvalue := (gives_parts hjob).result.2.1
  rw [htold] at hvalue
  exact ⟨job, hjob, (Option.some.inj hvalue).symm⟩

end Sample

open Sample

theorem wired_iff_of_sample : ∃ job, (storedAt "https://[::1]/store").jobConfig = some (.ok job) ∧
    ∃ store, RemoteStore.ofConfig job.store = .ok store := by
  obtain ⟨job, hjob, hplace⟩ := exists_job_storedAt "https://[::1]/store"
    (by decide +kernel) (by decide)
  refine ⟨job, hjob, (wired_iff hjob).2.2.1.mpr ?_⟩
  rw [hplace]
  exact ⟨"https".toList, "//[::1]/store".toList, by decide +kernel, by decide, Or.inl (by decide)⟩

/-- An address for mail is accepted for the place of the store, and there is no store. -/
theorem accepted_and_unwired : ∃ job,
    (storedAt "mailto:store@example.com").jobConfig = some (.ok job) ∧
      RemoteStore.ofConfig job.store =
        .error (.configuration (.endpoint "mailto:store@example.com")) := by
  obtain ⟨job, hjob, hplace⟩ := exists_job_storedAt "mailto:store@example.com"
    (by decide +kernel) (by decide)
  refine ⟨job, hjob, ?_⟩
  unfold RemoteStore.ofConfig
  rw [hplace]
  rfl

end Variables

end TokenCustody
