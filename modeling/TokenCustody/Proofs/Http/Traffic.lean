/-
TokenCustody.Proofs.Http.Traffic — what passes between a run and its
servers.

All that a run sees over HTTP, oldest first, is its traffic. Of the
answers of the token endpoint the last one counts, and of what is sent to
the store a PUT of a faulted record: nobody takes that back. So it
matters when it is sent, and what is asked here is that the last answer
before it was a refusal (`Traffic.FaultsRefused`).

What a call adds to the traffic is known from what the call is
(`Proofs.Http.Calls`). Only a write can add such a PUT, because it shows
in a document whether its record is faulted (`Record.document_ends`).
-/
import TokenCustody.Proofs.Http.Calls
import TokenCustody.Proofs.Token.Document

namespace TokenCustody.Http

/-! ## Entries -/

/-- What a run sees over HTTP. -/
abbrev Traffic := List (Entry Network)

/-- The answer to a POST. -/
def posted? : Entry Network → Option (Except Error Response)
  | .called r a => if r.method = .post then some a else none
  | .asked _ _ => none

/-- A PUT of the document of a faulted record. -/
def PutsFault : Entry Network → Prop
  | .called r _ =>
    r.method = .put ∧ ∃ record : Record, r.body = some record.document ∧ record.fault.isSome
  | .asked _ _ => False

/-- An answer that may say something about the credential: not that to a write, and not that of
a server which is busy or broken. -/
def Telling : Entry Network → Prop
  | .called r (.ok resp) =>
    r.method ≠ .put ∧ resp.status ≠ 429 ∧ ¬(500 ≤ resp.status ∧ resp.status < 600)
  | _ => False

namespace Traffic

variable {t s : Traffic} {e : Entry Network} {refusal : Refusal}

/-- The last that the token endpoint has answered. -/
def lastPosted (t : Traffic) : Option (Except Error Response) := (t.filterMap posted?).getLast?

/-- The last that the token endpoint has answered is a refusal. -/
def Refused (t : Traffic) (refusal : Refusal) : Prop :=
  ∃ resp, t.lastPosted = some (.ok resp) ∧ resp.Refuses refusal

/-- Whenever a fault was put, the token endpoint had just refused the refresh token. -/
def FaultsRefused (t : Traffic) : Prop :=
  ∀ before e after, t = before ++ e :: after → PutsFault e → ∃ refusal, Refused before refusal

/-- The last that the token endpoint has answered is a refusal, which the error reports. -/
def RefusedWith (t : Traffic) (e : Error) : Prop :=
  ∃ refusal, t.Refused refusal ∧ e = .provider refusal.meaning

theorem Refused.append (h : Refused t refusal) (hs : ∀ e ∈ s, posted? e = none) :
    Refused (t ++ s) refusal := by
  obtain ⟨resp, hlast, hrefuses⟩ := h
  refine ⟨resp, ?_, hrefuses⟩
  unfold lastPosted at hlast ⊢
  rw [List.filterMap_append, List.filterMap_eq_nil_iff.mpr hs, List.append_nil]
  exact hlast

theorem RefusedWith.append {err : Error} (h : RefusedWith t err)
    (hs : ∀ e ∈ s, posted? e = none) : RefusedWith (t ++ s) err := by
  obtain ⟨refusal, hrefused, herr⟩ := h
  exact ⟨refusal, hrefused.append hs, herr⟩

/-- A fault may be put after a refusal, with nothing in between. -/
theorem FaultsRefused.append (h : FaultsRefused t)
    (hs : ∀ e ∈ s, PutsFault e → s = [e] ∧ ∃ refusal, Refused t refusal) :
    FaultsRefused (t ++ s) := by
  intro before e after heq he
  obtain ⟨rest, rfl, hrest⟩ | ⟨rest, rfl, hrest⟩ := List.append_eq_append_iff.mp heq
  · obtain ⟨hone, hrefused⟩ := hs e (by simp [hrest]) he
    obtain rfl : rest = [] := by
      have hlength := congrArg List.length (hrest.symm.trans hone)
      rw [List.length_append, List.length_cons, List.length_singleton] at hlength
      exact List.eq_nil_of_length_eq_zero (by omega)
    rwa [List.append_nil]
  · cases rest with
    | nil =>
      rw [List.append_nil] at hs
      obtain rfl : s = e :: after := hrest.symm
      exact (hs e List.mem_cons_self he).2
    | cons e' rest =>
      obtain ⟨rfl, -⟩ := List.cons_eq_cons.mp hrest
      exact h before e rest rfl he

/-! ## What calls add -/

section Calls

variable {World : Type} {Answers : World → Entry Network → World → Prop} {w w' : World}
variable {store : RemoteStore} {client : ClientConfig} {u u' : Unit}

/-- A call to the provider that calls a human was refused by the last answer to a POST. -/
theorem refusedWith_of_refresh {token : String} {err : Error}
    (h : Course delivering u (client.refresh token) s u' (.done (.error err)))
    (hn : err.needsHuman = true) : RefusedWith (t ++ s) err := by
  obtain ⟨-, hdone⟩ | ⟨x, m, later, rfl, hx, hc⟩ := ClientConfig.requestGrant_inv h
  · exact absurd rfl (hdone _)
  · obtain ⟨hlater, hrefuses⟩ := ClientConfig.afterAnswer_inv hc
    obtain rfl | ⟨resp, refusal, rfl, hresp, rfl⟩ := hrefuses err rfl hn
    · have hdelivers : Delivers (.called (S := Network) _ (.error err)) := hx
      rw [hdelivers.needsHuman] at hn
      cases hn
    · refine ⟨refusal, ⟨resp, ?_, hresp⟩, rfl⟩
      have hnone : later.filterMap posted? = [] := by
        refine List.filterMap_eq_nil_iff.mpr fun e he => ?_
        obtain ⟨now, rfl⟩ := hlater e he
        rfl
      have hpost : posted? (.called (S := Network) (client.tokenRequest .refreshToken
          [("refresh_token", token)]) (.ok resp)) = some (.ok resp) := rfl
      simp [lastPosted, List.filterMap_append, hpost, hnone]

/-- Asking for a grant puts nothing. -/
theorem not_putsFault_of_requestGrant {g : GrantType} {params : List (String × String)}
    {q : Program Network (Except Error Grant)}
    (h : Course Answers w (client.requestGrant g params) s w' q) : ∀ e ∈ s, ¬PutsFault e := by
  obtain ⟨rfl, -⟩ | ⟨x, m, later, rfl, -, hc⟩ := ClientConfig.requestGrant_inv h
  · exact List.forall_mem_nil _
  · refine List.forall_mem_cons.mpr ⟨fun hputs => absurd hputs.1 nofun, fun e he => ?_⟩
    obtain ⟨now, rfl⟩ := (ClientConfig.afterAnswer_inv hc).1 e he
    exact id

/-- Of all that is sent for a call only a PUT for a write has a faulted record in it, if the
record that is written is faulted, and nothing else is sent for that call. -/
theorem putsFault_inv {c : CustodyCall} {q : Program Network c.Reply}
    (h : Course Answers w (answerOverHttp client store c) s w' q) (he : e ∈ s)
    (hputs : PutsFault e) :
    s = [e] ∧ ∃ r cond, c = .write r cond ∧ r.fault.isSome = true := by
  cases c with
  | read =>
    obtain ⟨rfl, -⟩ | ⟨x, rfl, -⟩ := RemoteStore.read_inv h
    · cases he
    · rw [List.mem_singleton.mp he] at hputs
      exact absurd hputs.1 nofun
  | write r cond =>
    obtain rfl | ⟨x, rfl⟩ := RemoteStore.write_inv h
    · cases he
    · obtain rfl := List.mem_singleton.mp he
      obtain ⟨-, record, hbody, hfault⟩ := hputs
      have hdocument : record.document = r.document := (Option.some.inj hbody).symm
      exact ⟨rfl, r, cond, rfl, Record.isSome_fault_of_document_eq hdocument hfault⟩
  | refresh token => exact absurd hputs (not_putsFault_of_requestGrant h e he)
  | exchange code uri =>
    obtain ⟨q', hq, -⟩ | ⟨s', m, a, s'', hq, hdone, rfl⟩ := Course.bind_inv h
    · exact absurd hputs (not_putsFault_of_requestGrant hq e he)
    · obtain ⟨rfl, -⟩ := hdone.done_inv
      rw [List.append_nil] at he
      exact absurd hputs (not_putsFault_of_requestGrant hq e he)

end Calls

end Traffic

end TokenCustody.Http
