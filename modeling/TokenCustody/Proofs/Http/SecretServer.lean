/-
TokenCustody.Proofs.Http.SecretServer — a server that keeps one secret.

The server keeps at most one text, under a tag that it has never given
before. What it answers is left open as far as nobody depends on it: any
granting status will do for a write, and any tag that is fresh. So
`Answers` is a relation, and what is known of a call to a remote store is
known of all its runs over such a server: a read tells what is kept, and
a write is made exactly if the condition meets what is kept.
-/
import TokenCustody.Proofs.Http.Calls

namespace TokenCustody

open TokenCustody.Http

/-- A server that keeps a secret. -/
structure SecretServer where
  /-- The text that is kept, and its tag. -/
  held : Option (String × String)
  /-- The tags that were given so far. -/
  given : List String

namespace SecretServer

/-! ## The server -/

/-- Whether the conditions in the headers of a request hold. -/
def Admits (s : SecretServer) (req : Request) : Prop :=
  (∀ tag, req.headers.get? "if-match" = some tag → s.held.map Prod.snd = some tag) ∧
    (req.headers.get? "if-none-match" = some "*" → s.held = none)

/-- The server that stores a text under a new tag. -/
def store (s : SecretServer) (body tag : String) : SecretServer :=
  ⟨some (body, tag), tag :: s.given⟩

/-- Requests for the secret at `url` arrive unchanged, and so do the answers of the server. -/
inductive Answers (url : String) : SecretServer → Entry Network → SecretServer → Prop where
  /-- Nothing is kept. -/
  | missing {s : SecretServer} {req : Request} {resp : Response} (hurl : req.url = url)
      (hget : req.method = .get) (hs : s.held = none) (hstatus : resp.status = 404) :
      Answers url s (.called (S := Network) req (.ok resp)) s
  /-- What is kept, with its tag. -/
  | found {s : SecretServer} {req : Request} {resp : Response} (body tag : String)
      (hurl : req.url = url) (hget : req.method = .get) (hs : s.held = some (body, tag))
      (hstatus : resp.status = 200) (hbody : resp.body = body)
      (htag : resp.headers.get? "etag" = some tag) :
      Answers url s (.called (S := Network) req (.ok resp)) s
  /-- A condition does not hold. -/
  | refused {s : SecretServer} {req : Request} {resp : Response} (hurl : req.url = url)
      (hput : req.method = .put) (hs : ¬s.Admits req) (hstatus : resp.status = 412) :
      Answers url s (.called (S := Network) req (.ok resp)) s
  /-- The text is stored under a fresh tag. -/
  | stored {s : SecretServer} {req : Request} {resp : Response} (body tag : String)
      (hurl : req.url = url) (hput : req.method = .put) (hs : s.Admits req)
      (hbody : req.body = some body) (hne : tag ≠ "") (hfresh : tag ∉ s.given)
      (hsuccess : resp.isSuccess = true) (htag : resp.headers.get? "etag" = some tag) :
      Answers url s (.called (S := Network) req (.ok resp)) (s.store body tag)

theorem exists_length_le (texts : List String) : ∃ n, ∀ s ∈ texts, s.length ≤ n := by
  induction texts with
  | nil => exact ⟨0, nofun⟩
  | cons s texts ih =>
    obtain ⟨n, hn⟩ := ih
    refine ⟨max s.length n, fun t ht => ?_⟩
    rcases List.mem_cons.mp ht with rfl | ht
    · exact Nat.le_max_left ..
    · exact Nat.le_trans (hn t ht) (Nat.le_max_right ..)

/-- There is always another tag. -/
theorem exists_fresh (given : List String) : ∃ tag, tag ≠ "" ∧ tag ∉ given := by
  obtain ⟨n, hn⟩ := exists_length_le given
  have hlength : (String.ofList (List.replicate (n + 1) 'x')).length = n + 1 := by
    simp
  refine ⟨String.ofList (List.replicate (n + 1) 'x'), ?_, fun hmem => ?_⟩
  · intro heq
    rw [heq] at hlength
    cases hlength
  · have := hn _ hmem
    omega

/-- A read is always answered. -/
theorem exists_answer_get {url : String} {req : Request} (hurl : req.url = url)
    (hget : req.method = .get) (s : SecretServer) :
    ∃ resp s', Answers url s (.called (S := Network) req (.ok resp)) s' := by
  cases hs : s.held with
  | none => exact ⟨⟨404, [], ""⟩, s, .missing hurl hget hs rfl⟩
  | some p => exact ⟨⟨200, [("etag", p.2)], p.1⟩, s, .found p.1 p.2 hurl hget hs rfl rfl rfl⟩

/-- So is a write. -/
theorem exists_answer_put {url : String} {req : Request} {body : String} (hurl : req.url = url)
    (hput : req.method = .put) (hbody : req.body = some body) (s : SecretServer) :
    ∃ resp s', Answers url s (.called (S := Network) req (.ok resp)) s' := by
  by_cases hs : s.Admits req
  · obtain ⟨tag, hne, hfresh⟩ := exists_fresh s.given
    exact ⟨⟨204, [("etag", tag)], ""⟩, _, .stored body tag hurl hput hs hbody hne hfresh rfl rfl⟩
  · exact ⟨⟨412, [], ""⟩, s, .refused hurl hput hs rfl⟩

/-! ## Conditions -/

/-- Whether what is kept meets a condition. -/
def Meets (s : SecretServer) : WriteCondition → Prop
  | .holds v => s.held.map Prod.snd = some v.tag
  | .empty => s.held = none
  | .always => True

/-- The headers of a write say its condition and nothing else about what is kept. -/
theorem admits_writeRequest {s : SecretServer} {store : RemoteStore} {r : Record}
    {c : WriteCondition} : s.Admits (store.writeRequest r c) ↔ s.Meets c := by
  have hheaders (name : String) (hname : name ≠ "accept" ∧ name ≠ "authorization" ∧
      name ≠ "content-type") : (store.writeRequest r c).headers.get? name =
        Headers.get? (RemoteStore.conditionHeader c) name := by
    have h1 : (name == "accept") = false := by simpa using hname.1
    have h2 : (name == "authorization") = false := by simpa using hname.2.1
    have h3 : (name == "content-type") = false := by simpa using hname.2.2
    cases htoken : store.config.authToken <;>
      simp [RemoteStore.writeRequest, RemoteStore.headers, Headers.get?, htoken,
        List.lookup_cons, h1, h2, h3]
  rw [Admits, hheaders "if-match" (by decide), hheaders "if-none-match" (by decide)]
  cases c <;> simp [RemoteStore.conditionHeader, Headers.get?, Meets]

end SecretServer

/-! ## Calls to a store over the server -/

namespace RemoteStore

open SecretServer

variable {store : RemoteStore} {w w' : SecretServer}

/-- The answer to a read tells what is kept. -/
theorem readAnswer_of_answers {resp : Response}
    (h : Answers store.secretUrl w (.called (S := Network) store.readRequest (.ok resp)) w') :
    w' = w ∧ (w.held = none → readAnswer resp = .ok none) ∧
      ∀ body tag r, w.held = some (body, tag) → tag ≠ "" → Record.ofDocument? body = some r →
        readAnswer resp = .ok (some (r.withVersion ⟨tag⟩)) := by
  cases h with
  | missing _ _ hs hstatus =>
    refine ⟨rfl, fun _ => by simp [readAnswer, hstatus], ?_⟩
    intro body tag r hheld
    rw [hs] at hheld
    cases hheld
  | found body tag _ _ hs hstatus hbody htag =>
    refine ⟨rfl, fun hheld => ?_, ?_⟩
    · rw [hs] at hheld
      cases hheld
    · intro body' tag' r hheld hne hread
      obtain ⟨rfl, rfl⟩ := Prod.mk.inj (Option.some.inj (hs.symm.trans hheld))
      have hversion : versionOf resp = .ok ⟨tag⟩ := by
        simp [versionOf, htag, Option.filter, hne]
      have hsuccess : resp.isSuccess = true := by simp [Response.isSuccess, hstatus]
      simp [readAnswer, hstatus, hsuccess, hversion, hbody, hread]
  | refused _ hput => cases hput
  | stored _ _ _ hput => cases hput

/-- The answer to a write tells whether it was made: exactly if what is kept met the
condition. -/
theorem writeAnswer_of_answers {r : Record} {c : WriteCondition} {resp : Response}
    (h : Answers store.secretUrl w
      (.called (S := Network) (store.writeRequest r c) (.ok resp)) w') :
    (¬w.Meets c ∧ w' = w ∧ writeAnswer c resp = .error c.failed) ∨
      (w.Meets c ∧ ∃ tag, tag ≠ "" ∧ tag ∉ w.given ∧ w' = w.store r.document tag ∧
        writeAnswer c resp = .ok ⟨tag⟩) := by
  cases h with
  | missing _ hget => cases hget
  | found _ _ _ hget => cases hget
  | refused _ _ hs hstatus =>
    rw [admits_writeRequest] at hs
    exact Or.inl ⟨hs, rfl, by simp [writeAnswer, hstatus]⟩
  | stored body tag _ _ hs hbody hne hfresh hsuccess htag =>
    rw [admits_writeRequest] at hs
    cases hbody
    have hversion : versionOf resp = .ok ⟨tag⟩ := by
      simp [versionOf, htag, Option.filter, hne]
    have hgranted : ¬(resp.status = 409 ∨ resp.status = 412) := by
      have hlt : 200 ≤ resp.status ∧ resp.status < 300 := by
        simpa [Response.isSuccess] using hsuccess
      omega
    refine Or.inr ⟨hs, tag, hne, hfresh, rfl, ?_⟩
    rw [writeAnswer, if_neg hgranted, if_pos hsuccess, hversion]

end RemoteStore

end TokenCustody
