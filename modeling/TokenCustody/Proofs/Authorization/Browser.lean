/-
TokenCustody.Proofs.Authorization.Browser — what the browser carries.

An authorization goes through a browser twice. On its way out it carries
what the provider is told, behind whatever query the endpoint has already;
on its way back the answer, behind the redirect address. Both are names and
values in the query of a URL, in any Unicode text.

Nothing of them is lost, and nothing else is changed
(`Authorization.parameters_kept`). What a form writes is in no set of
characters that a URL encodes, so a form put into a query stays as it is;
and an ampersand between two forms makes one form of them.
-/
import TokenCustody.Authorization.Callback
import TokenCustody.Proofs.Url.Printed
import TokenCustody.Provider.Client

namespace TokenCustody

open TokenCustody.Text

/-! ## Forms in queries -/

namespace Url

/-- What a form writes is not encoded in a query. -/
theorem isEncoded_form (special : Bool) (pairs : List (String × String)) :
    Percent.IsEncoded (inQuerySet special) (Form.encode pairs) := by
  have hall : ∀ n < 0x80, Form.isPlain (Char.ofNat n) = true →
      inQuerySet special (Char.ofNat n) = false := by
    cases special <;> decide
  intro c hc
  obtain (hplain | rfl | rfl) | rfl | rfl := Form.of_mem_encode hc
  · have hascii := Form.ascii_of_isPlain hplain
    exact ⟨hascii, of_ascii (p := fun c => Form.isPlain c = true → inQuerySet special c = false)
      hall hascii hplain⟩
  all_goals cases special <;> decide

/-- What is added to a query is read behind what was there. -/
theorem pairs_addPairs (u : Url) (added : List (String × String)) :
    (u.addPairs added).pairs = u.pairs ++ added := by
  unfold pairs addPairs
  dsimp only [Option.getD_some]
  split
  · next hone =>
    rcases hone with hquery | rfl
    · rw [hquery, List.nil_append, Form.decode_encode]
      rfl
    · rw [List.append_nil]
      exact congrArg Form.decode (List.append_nil _)
  · rw [Form.decode_append, Form.decode_encode]

/-- A form can stand behind the query of a legible URL, or be its query. -/
theorem Legible.addPairs {u : Url} (h : u.Legible) (added : List (String × String)) :
    ∃ q, u.addPairs added = { u with query := some q } ∧
      Percent.IsEncoded (inQuerySet u.kind.isSpecial) q := by
  have hquery : Percent.IsEncoded (inQuerySet u.kind.isSpecial) (u.query.getD []) := by
    cases hq : u.query with
    | none => exact nofun
    | some q => exact h.query q hq
  have hform := isEncoded_form u.kind.isSpecial added
  have hampersand : ('&').toNat < 0x80 ∧ inQuerySet u.kind.isSpecial '&' = false := by
    cases u.kind.isSpecial <;> decide
  refine ⟨_, rfl, ?_⟩
  split
  · exact List.forall_mem_append.mpr ⟨hquery, hform⟩
  · exact List.forall_mem_append.mpr ⟨hquery, List.forall_mem_cons.mpr ⟨hampersand, hform⟩⟩

/-- A text that URLs are written as. -/
def IsWritten (text : String) : Prop := ∃ source u, Url.ofString source = .ok u ∧ text = u.render

/-- Behind a written URL without query and fragment a form is read as its query. -/
theorem IsWritten.read_form {text : String} {v : Url} (h : IsWritten text)
    (hv : Url.ofString text = .ok v) (hquery : v.query = none) (hfragment : v.fragment = none)
    (pairs : List (String × String)) :
    Url.ofString (text ++ "?" ++ String.ofList (Form.encode pairs)) =
      .ok { v with query := some (Form.encode pairs) } := by
  obtain ⟨source, u, hu, rfl⟩ := h
  have hlegible := legible_of_parse hu
  have hread : parse u.print = .ok v := by simpa [Url.ofString, render] using hv
  obtain ⟨hnoQuery, hnoFragment⟩ : u.query = none ∧ u.fragment = none := by
    rw [hlegible.parse_print] at hread
    cases hfront : parseFront u.place with
    | error e =>
      rw [hfront] at hread
      cases hread
    | ok w =>
      rw [hfront] at hread
      cases hread
      exact ⟨hquery, hfragment⟩
  have htext : (u.render ++ "?" ++ String.ofList (Form.encode pairs)).toList =
      ({ u with query := some (Form.encode pairs) } : Url).print := by
    simp [render, print, printPart, printFront, hnoQuery, hnoFragment]
  unfold Url.ofString
  rw [htext, hlegible.parse_replaced (isEncoded_form _ pairs), hread]
  rfl

end Url

/-! ## Answers -/

namespace Callback

/-- The value of the last pair with a name, if there is one. -/
def LastOf (pairs : List (String × String)) (name : String) : Option String → Prop
  | some value => ∃ before after, pairs = before ++ (name, value) :: after ∧
      ∀ pair ∈ after, pair.1 ≠ name
  | none => ∀ pair ∈ pairs, pair.1 ≠ name

theorem lastValue_eq_iff {pairs : List (String × String)} {name : String} {o : Option String} :
    lastValue pairs name = o ↔ LastOf pairs name o := by
  unfold lastValue
  cases o with
  | none =>
    rw [List.lookup_eq_none_iff]
    constructor
    · intro h pair hpair heq
      exact absurd heq.symm (bne_iff_ne.mp (h pair (List.mem_reverse.mpr hpair)))
    · intro h pair hpair
      exact bne_iff_ne.mpr (h pair (List.mem_reverse.mp hpair)).symm
  | some value =>
    rw [List.lookup_eq_some_iff]
    constructor
    · rintro ⟨after, before, hpairs, hfree⟩
      refine ⟨before.reverse, after.reverse, ?_, fun pair hpair heq => ?_⟩
      · rw [← List.reverse_reverse pairs, hpairs]
        simp
      · exact absurd heq.symm (bne_iff_ne.mp (hfree pair (List.mem_reverse.mp hpair)))
    · rintro ⟨before, after, rfl, hfree⟩
      refine ⟨after.reverse, before.reverse, by simp, fun pair hpair => ?_⟩
      exact bne_iff_ne.mpr (hfree pair (List.mem_reverse.mp hpair)).symm

/-- An answer holds the last value of each name that means something. -/
structure Answers (c : Callback) (pairs : List (String × String)) : Prop where
  code : LastOf pairs "code" c.code
  state : LastOf pairs "state" c.state
  error : LastOf pairs "error" c.error
  error_description : LastOf pairs "error_description" c.errorDescription
  error_uri : LastOf pairs "error_uri" c.errorUri

theorem answers_ofPairs (pairs : List (String × String)) : (ofPairs pairs).Answers pairs where
  code := lastValue_eq_iff.mp rfl
  state := lastValue_eq_iff.mp rfl
  error := lastValue_eq_iff.mp rfl
  error_description := lastValue_eq_iff.mp rfl
  error_uri := lastValue_eq_iff.mp rfl

end Callback

/-! ## Both ways -/

namespace Authorization

/-- **Parameters go both ways unchanged.** If the authorization endpoint is a URL, the address
for the browser is that URL with another query, and that is read as the names and values of the
endpoint and behind them what the provider is told. Its marks cut the written address into these
parts, and reading it is reading the written endpoint, but for the query. Behind a redirect
address that is a URL as URLs are written, without query and fragment, any names and values can
be brought back, and the last value of each name that means something is the answer. -/
theorem parameters_kept :
    (∀ (c : ClientConfig) (nonce : String) (u : Url),
      Url.ofString c.endpoints.authorization = .ok u →
      ∃ w : Url, c.authorizationUrl nonce = .ok w.render ∧
        w = { u with query := w.query } ∧
        w.pairs = u.pairs ++ ([("response_type", "code"), ("client_id", c.credentials.clientId),
            ("redirect_uri", c.redirectUri), ("state", nonce)] ++
          if c.scopes = [] then [] else [("scope", " ".intercalate c.scopes)]) ∧
        (Url.placeText w.render.toList = u.place ∧ Url.queryText w.render.toList = w.query ∧
          Url.fragmentText w.render.toList = u.fragment) ∧
        Url.ofString w.render = (Url.ofString u.render).map fun v => { v with query := w.query }) ∧
    ∀ (uri : String) (v : Url), Url.IsWritten uri → Url.ofString uri = .ok v →
      v.query = none → v.fragment = none → ∀ pairs : List (String × String),
        ∃ answer, Callback.ofAddress (uri ++ "?" ++ String.ofList (Form.encode pairs)) =
          .ok answer ∧ answer.Answers pairs := by
  constructor
  · intro c nonce u hu
    have hlegible := Url.legible_of_parse hu
    obtain ⟨q, hadded, hplain⟩ := hlegible.addPairs (c.authorizationPairs nonce)
    have hurl : c.authorizationUrl nonce =
        .ok (u.addPairs (c.authorizationPairs nonce)).render := by
      unfold ClientConfig.authorizationUrl
      rw [hu]
    have hpairs := Url.pairs_addPairs u (c.authorizationPairs nonce)
    rw [hadded] at hurl hpairs
    refine ⟨{ u with query := some q }, hurl, rfl, hpairs, ?_, ?_⟩
    · rw [Url.render, String.toList_ofList]
      exact (hlegible.replaced hplain).parts
    · simpa [Url.ofString, Url.render] using hlegible.parse_replaced hplain
  · intro uri v hwritten hv hquery hfragment pairs
    refine ⟨Callback.ofPairs pairs, ?_, Callback.answers_ofPairs pairs⟩
    unfold Callback.ofAddress
    rw [hwritten.read_form hv hquery hfragment pairs]
    show Except.ok (Callback.ofPairs (Form.decode (Form.encode pairs))) = _
    rw [Form.decode_encode]

namespace Sample

/-- A client of an endpoint that has a query and a fragment. -/
def visitor : ClientConfig :=
  { endpoints := ⟨"https://[::1]/authorize?x=1#top", "https://[::1]/token"⟩
    credentials := ⟨"visitor & söhne", none, .post⟩
    redirectUri := "https://[::1]/back"
    scopes := ["read", "write"]
    timeout := .ofSeconds 30 }

end Sample

open Sample

theorem parameters_kept_of_sample :
    (∃ w : Url, visitor.authorizationUrl "a+b=1&2" = .ok w.render ∧
      w.fragment = some "top".toList ∧
      w.pairs = [("x", "1"), ("response_type", "code"), ("client_id", "visitor & söhne"),
        ("redirect_uri", "https://[::1]/back"), ("state", "a+b=1&2"), ("scope", "read write")] ∧
      Url.ofString w.render = .ok w) ∧
    ∃ answer, Callback.ofAddress
        "https://[::1]/back?code=1&state=a%2Bb%3D1%262&code=C0.%E2%82%AC%40&more=" = .ok answer ∧
      answer.code = some "C0.€@" ∧ answer.state = some "a+b=1&2" ∧ answer.error = none := by
  constructor
  · obtain ⟨u, hu, hpairs, hfragment, hread⟩ :
        ∃ u, Url.ofString visitor.endpoints.authorization = .ok u ∧ u.pairs = [("x", "1")] ∧
          u.fragment = some "top".toList ∧ Url.ofString u.render = .ok u :=
      ⟨_, rfl, by decide +kernel, rfl, rfl⟩
    obtain ⟨w, hurl, hw, hnames, -, hback⟩ := parameters_kept.1 visitor "a+b=1&2" u hu
    refine ⟨w, hurl, ?_, ?_, ?_⟩
    · rw [hw]
      exact hfragment
    · rw [hnames, hpairs]
      rfl
    · rw [hback, hread, hw]
      rfl
  · obtain ⟨v, hv, hquery, hfragment, hrender⟩ :
        ∃ v, Url.ofString "https://[::1]/back" = .ok v ∧ v.query = none ∧ v.fragment = none ∧
          "https://[::1]/back" = v.render := ⟨_, rfl, rfl, rfl, rfl⟩
    obtain ⟨answer, hanswer, hkept⟩ := parameters_kept.2 "https://[::1]/back" v ⟨_, v, hv, hrender⟩
      hv hquery hfragment
      [("code", "1"), ("state", "a+b=1&2"), ("code", "C0.€@"), ("more", "")]
    refine ⟨answer, hanswer, ?_, ?_, ?_⟩
    · exact (Callback.lastValue_eq_iff.mpr hkept.code).symm
    · exact (Callback.lastValue_eq_iff.mpr hkept.state).symm
    · exact (Callback.lastValue_eq_iff.mpr hkept.error).symm

end Authorization

end TokenCustody
