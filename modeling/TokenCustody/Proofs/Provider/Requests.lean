/-
TokenCustody.Proofs.Provider.Requests — what the token endpoint reads.

A token request carries a form, and the secret either in the form or in a
header. Both go through encodings: the form through percent signs and
plus signs, the header through Base64. What is asked here is that the
other side gets out what was put in, for every Unicode text, by the
readers that the formats have: `Form.decode`, and `readCredentials?` for
the header.

A user name with a colon in it cannot be told from the password in a
header, because the first colon divides them. That is how the header is
defined, and the only condition there is.
-/
import TokenCustody.Proofs.Http.Calls
import TokenCustody.Proofs.Text.Base64
import TokenCustody.Proofs.Text.Form

namespace TokenCustody

open TokenCustody.Text

/-! ## Programs that make one call -/

namespace Program

variable {S : Service} {α β : Type}

/-- The program makes no more calls. -/
def Silent : Program S α → Prop
  | done _ | halt => True
  | ask _ next => ∀ a, Silent (next a)
  | call _ _ => False

/-- The program makes a call, and no other one after it. -/
def CallsOnce (p : Program S α) (r : S.Request) : Prop :=
  ∃ next, p = call r next ∧ ∀ a, (next a).Silent

/-- Silence goes on if what follows is silent. -/
theorem Silent.bind {p : Program S α} {f : α → Program S β} (hp : p.Silent)
    (hf : ∀ a, (f a).Silent) : (p.bind f).Silent := by
  induction p with
  | done a => exact hf a
  | halt => trivial
  | ask q next ih => exact fun a => ih a (hp a)
  | call r next => exact hp.elim

/-- One call stays the only one if what follows is silent. -/
theorem CallsOnce.bind {p : Program S α} {r : S.Request} {f : α → Program S β}
    (hp : p.CallsOnce r) (hf : ∀ a, (f a).Silent) : (p.bind f).CallsOnce r := by
  obtain ⟨next, rfl, hnext⟩ := hp
  exact ⟨_, rfl, fun a => (hnext a).bind hf⟩

end Program

/-! ## Credentials in a header -/

/-- What a server reads as user name and password: the scheme ends at the first space, and the
name at the first colon. The groups in between are all filled up. -/
def readCredentials? (header : String) : Option (String × String) :=
  match cut (· == ' ') header.toList with
  | (scheme, some text) =>
    if scheme = "Basic".toList ∧ text.length % 4 = 0 then
      (Base64.decode .standard text).bind fun bytes =>
        match cut (· == ':') (Utf8.decode bytes) with
        | (user, some password) => some (String.ofList user, String.ofList password)
        | (_, none) => none
    else none
  | (_, none) => none

/-- The scheme ends where the encoded text begins. -/
theorem cut_basic (text : List Char) :
    cut (· == ' ') ("Basic " ++ String.ofList text).toList = ("Basic".toList, some text) := by
  have hscheme : ∀ d ∈ "Basic".toList, (d == ' ') = false := by
    intro d hd
    have hmem : d = 'B' ∨ d = 'a' ∨ d = 's' ∨ d = 'i' ∨ d = 'c' := by simpa using hd
    obtain rfl | rfl | rfl | rfl | rfl := hmem <;> rfl
  have hspace : (' ' == ' ') = true := rfl
  have hparts : ("Basic " ++ String.ofList text).toList = "Basic".toList ++ ' ' :: text := by
    simp only [String.toList_append, String.toList_ofList]
    rfl
  rw [hparts]
  exact cut_append_cons hscheme hspace

namespace ClientConfig

variable {c : ClientConfig} {secret : String}

/-- The name and the password are read back if the name has no colon. -/
theorem readCredentials_basic {header : String}
    (hsecret : c.credentials.clientSecret = some secret)
    (hcolon : ':' ∉ c.credentials.clientId.toList) (h : c.basicCredentials = some header) :
    readCredentials? header = some (c.credentials.clientId, secret) := by
  have hname : ∀ d ∈ c.credentials.clientId.toList, (d == ':') = false := by
    intro d hd
    exact beq_eq_false_iff_ne.mpr fun heq => hcolon (heq ▸ hd)
  have hpair : cut (· == ':') (c.credentials.clientId ++ ":" ++ secret).toList =
      (c.credentials.clientId.toList, some secret.toList) := by
    rw [String.toList_append, String.toList_append, List.append_assoc]
    exact cut_append_cons hname (by decide)
  unfold basicCredentials at h
  rw [hsecret] at h
  cases hauth : c.credentials.auth with
  | post => simp [hauth] at h
  | basic =>
    simp only [hauth, Option.some.injEq] at h
    subst h
    -- the encoder fills the last group up, so the length tells that nothing was cut off
    have hfull (bytes : List UInt8) : (Base64.encode .standard bytes).length % 4 = 0 := by
      rw [Base64.length_encode_standard, Nat.mul_mod_right]
    unfold readCredentials?
    rw [cut_basic]
    dsimp only
    rw [if_pos ⟨rfl, hfull _⟩, Base64.decode_encode, Option.bind_some, Utf8.decode_encode, hpair]
    simp only [String.ofList_toList]

theorem get_authorization : c.tokenHeaders.get? "authorization" = c.basicCredentials := by
  unfold tokenHeaders Http.Headers.get?
  cases c.basicCredentials with
  | none => rfl
  | some text => rfl

/-- Credentials stand in a header exactly if the configuration says so. -/
theorem isSome_basicCredentials (hsecret : c.credentials.clientSecret = some secret) :
    c.basicCredentials.isSome ↔ c.credentials.auth = .basic := by
  unfold basicCredentials
  rw [hsecret]
  cases c.credentials.auth <;> simp

/-! ## Token requests -/

/-- The token endpoint reads some pairs from a request, and the credentials in one of the two
places, as the configuration says. -/
structure Shows (c : ClientConfig) (secret : String) (pairs : List (String × String))
    (r : Http.Request) : Prop where
  form : ∃ body, r.body = some body ∧ Form.decode body.toList = pairs ++
    if c.credentials.auth = .post then
      [("client_id", c.credentials.clientId), ("client_secret", secret)]
    else []
  header : (r.headers.get? "authorization").isSome ↔ c.credentials.auth = .basic
  credentials : c.credentials.auth = .basic → ':' ∉ c.credentials.clientId.toList →
    (r.headers.get? "authorization").bind readCredentials? =
      some (c.credentials.clientId, secret)

/-- A token request shows its parameters, and the credentials in the place for them. -/
theorem shows_tokenRequest (hsecret : c.credentials.clientSecret = some secret) (g : GrantType)
    (params : List (String × String)) :
    c.Shows secret (("grant_type", g.name) :: params) (c.tokenRequest g params) := by
  have hheader : (c.tokenRequest g params).headers.get? "authorization" = c.basicCredentials :=
    get_authorization
  refine ⟨⟨_, rfl, ?_⟩, ?_, fun hauth hcolon => ?_⟩
  · rw [String.toList_ofList, Form.decode_encode]
    unfold tokenForm postedCredentials
    rw [hsecret]
    cases c.credentials.auth <;> simp
  · rw [hheader, isSome_basicCredentials hsecret]
  · obtain ⟨header, hsome⟩ :=
      Option.isSome_iff_exists.mp ((isSome_basicCredentials hsecret).mpr hauth)
    rw [hheader, hsome]
    exact readCredentials_basic hsecret hcolon hsome

/-- A grant is asked for once, whatever the answer. -/
theorem callsOnce_requestGrant (c : ClientConfig) (g : GrantType)
    (params : List (String × String)) :
    (c.requestGrant g params).CallsOnce (c.tokenRequest g params) := by
  refine ⟨_, requestGrant_eq g params, fun a => ?_⟩
  cases a with
  | error e => trivial
  | ok response =>
    unfold afterAnswer
    dsimp only
    split
    · split
      · exact fun now => trivial
      · trivial
    · trivial

/-- **The token endpoint recovers what was sent.** A refresh and an exchange make one request
each. Its form, decoded, is the grant type and the texts of the call, and then the credentials,
if they are shown in the form. There is an authorization header exactly if they are shown there,
and a server that reads it gets the client and its secret, unless the client has a colon in its
name. -/
theorem token_requests (c : ClientConfig) (secret : String)
    (hsecret : c.credentials.clientSecret = some secret) :
    (∀ token, ∃ r, (c.refresh token).CallsOnce r ∧
      c.Shows secret [("grant_type", "refresh_token"), ("refresh_token", token)] r) ∧
    ∀ code uri, ∃ r, (c.exchange code uri).CallsOnce r ∧
      c.Shows secret [("grant_type", "authorization_code"), ("code", code),
        ("redirect_uri", uri)] r := by
  refine ⟨fun token => ⟨_, callsOnce_requestGrant c .refreshToken [("refresh_token", token)],
    shows_tokenRequest hsecret .refreshToken [("refresh_token", token)]⟩, fun code uri => ?_⟩
  have hcall := callsOnce_requestGrant c .authorizationCode
    [("code", code), ("redirect_uri", uri)]
  exact ⟨_, hcall.bind fun a => trivial, shows_tokenRequest hsecret .authorizationCode
    [("code", code), ("redirect_uri", uri)]⟩

namespace Sample

/-- A client whose name and secret hold what encodings escape. -/
def teller (auth : ClientAuth) : ClientConfig :=
  { endpoints := ⟨"https://bank.example/authorize", "https://bank.example/token"⟩
    credentials := ⟨"teller & söhne", some "50% + €:", auth⟩
    redirectUri := "https://teller.example/back"
    scopes := []
    timeout := .ofSeconds 30 }

end Sample

open Sample

/-- A client shows in the form what its sibling shows in the header. -/
theorem token_requests_of_sample :
    (∃ r, ((teller .post).refresh "r=1&2").CallsOnce r ∧
      (teller .post).Shows "50% + €:" [("grant_type", "refresh_token"), ("refresh_token", "r=1&2")]
        r) ∧
    ∃ r, ((teller .basic).refresh "r=1&2").CallsOnce r ∧
      (r.headers.get? "authorization").bind readCredentials? =
        some ("teller & söhne", "50% + €:") := by
  refine ⟨((teller .post).token_requests "50% + €:" rfl).1 "r=1&2", ?_⟩
  obtain ⟨r, hcall, hshows⟩ := ((teller .basic).token_requests "50% + €:" rfl).1 "r=1&2"
  exact ⟨r, hcall, hshows.credentials rfl (by decide)⟩

end ClientConfig

end TokenCustody
