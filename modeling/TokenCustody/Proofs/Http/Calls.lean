/-
TokenCustody.Proofs.Http.Calls — what calls to the store and the provider
are over HTTP.

A read is one GET, a write one PUT or nothing, and a call for a grant one
POST, after which the clock is looked at if the answer grants something.
The answers to these requests decide what the call is answered, and only
two things about them matter to whoever would call a human: what a store
has told (`RemoteStore.Tells`), and that a token endpoint has refused
(`Http.Response.Refuses`). Nothing else reads as a refusal, whatever its
body says.
-/
import TokenCustody.Job
import TokenCustody.Proofs.Program.Handling

namespace TokenCustody

open TokenCustody.Time

/-! ## The network -/

namespace Http

instance : DecidableEq Network.Request := inferInstanceAs (DecidableEq Request)

/-- The network may bring any response, or fail in a way of its own. -/
def Delivers : Entry Network → Prop
  | .called _ (.error e) => (∃ n, e = .network n) ∨ ∃ p, e = .protocol p
  | _ => True

/-- A network that brings whatever it may bring at any time. -/
def delivering : Unit → Entry Network → Unit → Prop := fun _ e _ => Delivers e

theorem Delivers.needsHuman {r : Request} {e : Error}
    (h : Delivers (.called (S := Network) r (.error e))) : e.needsHuman = false := by
  obtain ⟨n, rfl⟩ | ⟨p, rfl⟩ := h
  · cases n <;> rfl
  · rfl

end Http

/-! ## Answers of the token endpoint -/

/-- The answer of a token endpoint that refuses the refresh token: it is neither a grant nor
that of a server which is busy or broken, and it names one of two errors. -/
structure Http.Response.Refuses (resp : Http.Response) (refusal : Refusal) : Prop where
  notSuccess : resp.isSuccess = false
  notRateLimited : resp.status ≠ 429
  notBroken : ¬(500 ≤ resp.status ∧ resp.status < 600)
  body : Refusal.ofString? resp.body = some refusal
  error : refusal.error = "invalid_grant" ∨ refusal.error = "invalid_token"

theorem Refusal.error_of_needsHuman {refusal : Refusal}
    (h : (Error.provider refusal.meaning).needsHuman = true) :
    refusal.error = "invalid_grant" ∨ refusal.error = "invalid_token" := by
  unfold Refusal.meaning at h
  dsimp only at h
  split at h
  · cases h
  · next he => exact Or.inl he
  · next he => exact Or.inr he
  all_goals cases h

/-- Only the body of an answer whose status leaves it open can call a human. -/
theorem Http.Response.refuses_of_needsHuman {resp : Http.Response}
    (hs : resp.isSuccess = false) (h : resp.refusal.needsHuman = true) :
    ∃ refusal, resp.Refuses refusal ∧ resp.refusal = .provider refusal.meaning := by
  unfold Http.Response.refusal at h ⊢
  split at h
  · cases h
  · next h429 =>
    split at h
    · cases h
    · next h5xx =>
      rw [if_neg h429, if_neg h5xx]
      cases hbody : Refusal.ofString? resp.body with
      | some refusal =>
        rw [hbody] at h
        exact ⟨refusal, ⟨hs, h429, h5xx, hbody, Refusal.error_of_needsHuman h⟩, rfl⟩
      | none =>
        rw [hbody] at h
        dsimp only [Refusal.ofStatus] at h
        split at h <;> cases h

/-! ## Answers of the store -/

/-- The answer of a store that holds a record and says at which version. -/
structure RemoteStore.Tells (resp : Http.Response) (r : Record) : Prop where
  success : resp.isSuccess = true
  record : ∃ tag r₀, resp.headers.get? "etag" = some tag ∧ tag ≠ "" ∧
    Record.ofDocument? resp.body = some r₀ ∧ r = r₀.withVersion ⟨tag⟩

namespace RemoteStore

theorem tag_of_versionOf {resp : Http.Response} {v : Version} (h : versionOf resp = .ok v) :
    ∃ tag, resp.headers.get? "etag" = some tag ∧ tag ≠ "" ∧ v = ⟨tag⟩ := by
  unfold versionOf at h
  split at h
  · next tag htag =>
    obtain ⟨hget, hne⟩ := Option.filter_eq_some_iff.mp htag
    cases h
    exact ⟨tag, hget, of_decide_eq_true hne, rfl⟩
  · cases h

theorem status_of_readAnswer {resp : Http.Response} (h : readAnswer resp = .ok none) :
    resp.status = 404 := by
  unfold readAnswer at h
  split at h
  · next hs => exact hs
  · split at h
    · cases h
    · split at h <;> cases h

theorem tells_of_readAnswer {resp : Http.Response} {r : Record}
    (h : readAnswer resp = .ok (some r)) : Tells resp r := by
  unfold readAnswer at h
  split at h
  · cases h
  · split at h
    · cases h
    · next hs =>
      split at h
      · cases h
      · cases h
      · next v record hv hdoc =>
        cases h
        obtain ⟨tag, hget, hne, rfl⟩ := tag_of_versionOf hv
        exact ⟨by simpa using hs, tag, record, hget, hne, hdoc, rfl⟩

end RemoteStore

/-! ## Calls -/

section Calls

variable {World α : Type} {Answers : World → Entry Http.Network → World → Prop} {w w' : World}
variable {t : List (Entry Http.Network)} {store : RemoteStore} {client : ClientConfig}

/-- A read that is answered. -/
theorem RemoteStore.read_answered {resp : Http.Response}
    (h : Answers w (.called (S := Http.Network) store.readRequest (.ok resp)) w') :
    Course Answers w store.read [.called (S := Http.Network) store.readRequest (.ok resp)] w'
      (.done (RemoteStore.readAnswer resp)) :=
  .step .start h (.call ..)

/-- A read is one GET. -/
theorem RemoteStore.read_inv {q : Program Http.Network (Except Error (Option Record))}
    (h : Course Answers w store.read t w' q) : (t = [] ∧ ∀ a, q ≠ .done a) ∨
      ∃ x, t = [.called (S := Http.Network) store.readRequest x] ∧
        q = .done (x.bind RemoteStore.readAnswer) := by
  have hread : store.read = .call (S := Http.Network) store.readRequest fun x =>
      .done (x.bind RemoteStore.readAnswer) := rfl
  rw [hread] at h
  obtain h | ⟨x, hx, -, hq⟩ := h.single_inv
  · exact Or.inl h
  · exact Or.inr ⟨x, hx, hq⟩

/-- A write of a sound record that is answered. -/
theorem RemoteStore.write_answered {r : Record} {c : WriteCondition} {resp : Http.Response}
    (hr : r.checked = .ok r)
    (h : Answers w (.called (S := Http.Network) (store.writeRequest r c) (.ok resp)) w') :
    Course Answers w (store.write r c)
      [.called (S := Http.Network) (store.writeRequest r c) (.ok resp)] w'
      (.done (RemoteStore.writeAnswer c resp)) := by
  unfold RemoteStore.write
  rw [hr]
  exact .step .start h (.call ..)

/-- A write is one PUT, or nothing if the record is not sound. -/
theorem RemoteStore.write_inv {r : Record} {c : WriteCondition}
    {q : Program Http.Network (Except Error Version)}
    (h : Course Answers w (store.write r c) t w' q) :
    t = [] ∨ ∃ x, t = [.called (S := Http.Network) (store.writeRequest r c) x] := by
  unfold RemoteStore.write at h
  split at h
  · exact Or.inl h.done_inv.1
  · obtain h | ⟨x, hx, -, -⟩ := Course.single_inv h
    · exact Or.inl h.1
    · exact Or.inr ⟨x, hx⟩

/-- What follows the answer to a call for a grant. -/
def ClientConfig.afterAnswer : Except Error Http.Response →
    Program Http.Network (Except Error Grant)
  | .error e => .done (.error e)
  | .ok response =>
    if response.isSuccess then
      match TokenResponse.ofString? response.body with
      | some granted => .ask .now fun now => .done (Grant.ofResponse granted now)
      | none => .done (.error (.protocol (.invalidJson "the body is no token response")))
    else .done (.error response.refusal)

theorem ClientConfig.requestGrant_eq (g : GrantType) (params : List (String × String)) :
    client.requestGrant g params =
      .call (S := Http.Network) (client.tokenRequest g params) afterAnswer := by
  refine congrArg (Program.call (S := Http.Network) (client.tokenRequest g params)) (funext ?_)
  rintro (e | response)
  · rfl
  · rfl

/-- A call for a grant that is answered with anything but a grant. -/
theorem ClientConfig.requestGrant_refused {g : GrantType} {params : List (String × String)}
    {resp : Http.Response} (hs : resp.isSuccess = false)
    (h : Answers w (.called (S := Http.Network) (client.tokenRequest g params) (.ok resp)) w') :
    Course Answers w (client.requestGrant g params)
      [.called (S := Http.Network) (client.tokenRequest g params) (.ok resp)] w'
      (.done (.error resp.refusal)) := by
  have hafter : afterAnswer (.ok resp) = .done (.error resp.refusal) := by
    simp [afterAnswer, hs]
  rw [requestGrant_eq, ← hafter]
  exact .step .start h (.call ..)

theorem Grant.needsHuman_of_ofResponse {resp : TokenResponse} {now : Instant} {e : Error}
    (h : Grant.ofResponse resp now = .error e) : e.needsHuman = false := by
  unfold Grant.ofResponse at h
  split at h
  · cases h
    rfl
  · cases h
    rfl
  · cases h

/-- After the answer the clock is looked at, or nothing. Of all answers only a refusal, and a
failure that the network reports as one, call a human. -/
theorem ClientConfig.afterAnswer_inv {x : Except Error Http.Response}
    {q : Program Http.Network (Except Error Grant)}
    (h : Course Answers w (afterAnswer x) t w' q) :
    (∀ e ∈ t, ∃ now, e = .asked .now now) ∧
      ∀ e, q = .done (.error e) → e.needsHuman = true → x = .error e ∨
        ∃ resp refusal, x = .ok resp ∧ resp.Refuses refusal ∧ e = .provider refusal.meaning := by
  cases x with
  | error e =>
    obtain ⟨rfl, -, rfl⟩ := h.done_inv
    refine ⟨List.forall_mem_nil _, fun e' he _ => ?_⟩
    rw [Except.error.inj (Program.done.inj he)]
    exact Or.inl rfl
  | ok response =>
    unfold afterAnswer at h
    dsimp only at h
    split at h
    · split at h
      · obtain ⟨rfl, -, rfl⟩ | ⟨now, m, t', rfl, -, hc⟩ := h.ask_inv
        · exact ⟨List.forall_mem_nil _, nofun⟩
        · obtain ⟨rfl, -, rfl⟩ := hc.done_inv
          refine ⟨fun e he => ⟨now, List.mem_singleton.mp he⟩, fun e he hn => ?_⟩
          rw [Grant.needsHuman_of_ofResponse (Program.done.inj he)] at hn
          cases hn
      · obtain ⟨rfl, -, rfl⟩ := h.done_inv
        refine ⟨List.forall_mem_nil _, fun e he hn => ?_⟩
        obtain rfl := Except.error.inj (Program.done.inj he)
        cases hn
    · next hs =>
      obtain ⟨rfl, -, rfl⟩ := h.done_inv
      refine ⟨List.forall_mem_nil _, fun e he hn => ?_⟩
      obtain rfl := Except.error.inj (Program.done.inj he)
      obtain ⟨refusal, hrefuses, hmeaning⟩ :=
        Http.Response.refuses_of_needsHuman (Bool.not_eq_true _ ▸ hs) hn
      exact Or.inr ⟨response, refusal, rfl, hrefuses, hmeaning⟩

/-- A call for a grant is one POST, and a look at the clock if something was granted. -/
theorem ClientConfig.requestGrant_inv {g : GrantType} {params : List (String × String)}
    {q : Program Http.Network (Except Error Grant)}
    (h : Course Answers w (client.requestGrant g params) t w' q) :
    (t = [] ∧ ∀ a, q ≠ .done a) ∨
      ∃ x m later, t = .called (S := Http.Network) (client.tokenRequest g params) x :: later ∧
        Answers w (.called (S := Http.Network) (client.tokenRequest g params) x) m ∧
        Course Answers m (afterAnswer x) later w' q := by
  rw [requestGrant_eq] at h
  obtain ⟨rfl, -, rfl⟩ | ⟨x, m, later, rfl, ha, hc⟩ := h.call_inv
  · exact Or.inl ⟨rfl, fun _ hq => by cases hq⟩
  · exact Or.inr ⟨x, m, later, rfl, ha, hc⟩

end Calls

end TokenCustody
