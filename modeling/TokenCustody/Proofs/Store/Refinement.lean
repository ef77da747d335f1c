/-
TokenCustody.Proofs.Store.Refinement — the remote store does what the
store in memory does.

Two stores are called side by side, one in memory and one over a server
that keeps a secret. The calls correspond: the same records up to their
versions, and the same conditions up to the names that the two stores
have for a version. What is to be seen is that the answers correspond in
the same way, however long this goes on.

A version has a name in each store, and the pairs of names that were told
are all that the two sides have in common (`told`). `Corresponds` is what
holds between calls: the stores hold the same record, a name that was
told is the present one in both stores or in neither, and the pairs are
one-to-one. The new name of a write was told by neither store before,
in memory because the counter went up and over the server because the tag
is fresh.
-/
import TokenCustody.Proofs.Http.SecretServer
import TokenCustody.Proofs.Store.Calls
import TokenCustody.Proofs.Token.RoundTrip

namespace TokenCustody

/-! ## Calls and answers -/

/-- The answer to a call to a store. -/
inductive StoreReply where
  | found (x : Except Error (Option Record))
  | written (x : Except Error Version)

/-- The version in an answer. -/
def StoreReply.version : StoreReply → Option Version
  | found (.ok r) => r.bind Record.version
  | written (.ok v) => some v
  | _ => none

/-- The answer of a store in memory. -/
def MemoryStore.reply (s : MemoryStore) : StoreCall → StoreReply
  | .get => .found (.ok s.current)
  | .put r c => .written (s.put r c).1

/-- A call to a remote store. -/
def RemoteStore.perform (store : RemoteStore) : StoreCall → Program Http.Network StoreReply
  | .get => store.read.bind fun x => .done (.found x)
  | .put r c => (store.write r c).bind fun x => .done (.written x)

/-- A call to the store in memory and one to the remote store, with their answers, and what
went over the network. -/
structure Exchange where
  call : StoreCall
  reply : StoreReply
  remoteCall : StoreCall
  remoteReply : StoreReply
  seen : List (Entry Http.Network)

/-- The two names of the version in the answers. -/
def Exchange.told (x : Exchange) : Option (Version × Version) :=
  x.reply.version.bind fun v => x.remoteReply.version.map fun v' => (v, v')

/-- The pairs of names that were told. -/
def told (log : List Exchange) : List (Version × Version) := log.filterMap Exchange.told

/-- The same condition, with the names of versions that were told. -/
inductive WriteCondition.Matches (pairs : List (Version × Version)) :
    WriteCondition → WriteCondition → Prop where
  | holds {v v' : Version} (h : (v, v') ∈ pairs) : Matches pairs (.holds v) (.holds v')
  | empty : Matches pairs .empty .empty
  | always : Matches pairs .always .always

/-- The same call. A record has a count that is a word of 64 bits. -/
inductive StoreCall.Matches (pairs : List (Version × Version)) : StoreCall → StoreCall → Prop where
  | get : Matches pairs .get .get
  | put {r r' : Record} {c c' : WriteCondition} (hr : r.bare = r'.bare)
      (hcount : r.refreshCount < Text.wordCount) (hc : c.Matches pairs c') :
      Matches pairs (.put r c) (.put r' c')

/-- The two answers say the same: that nothing is held, the same record in every field, that
the record was written, that the condition did not hold, or what is wrong with the record.
The names of a version are a pair that was told. -/
inductive Exchange.Agrees (pairs : List (Version × Version)) : Exchange → Prop where
  | nothing {seen : List (Entry Http.Network)} :
      Agrees pairs ⟨.get, .found (.ok none), .get, .found (.ok none), seen⟩
  | record {r : Record} {v v' : Version} {seen : List (Entry Http.Network)}
      (hpair : (v, v') ∈ pairs) :
      Agrees pairs ⟨.get, .found (.ok (some (r.withVersion v))), .get,
        .found (.ok (some (r.withVersion v'))), seen⟩
  | written {r r' : Record} {c c' : WriteCondition} {v v' : Version}
      {seen : List (Entry Http.Network)} (hr : r.defect? = none) (hpair : (v, v') ∈ pairs) :
      Agrees pairs ⟨.put r c, .written (.ok v), .put r' c', .written (.ok v'), seen⟩
  | conflict {r r' : Record} {c c' : WriteCondition} {seen : List (Entry Http.Network)}
      (hr : r.defect? = none) (hc : c.Matches pairs c') :
      Agrees pairs
        ⟨.put r c, .written (.error c.failed), .put r' c', .written (.error c'.failed), seen⟩
  | invalid {r r' : Record} {c c' : WriteCondition} {why : String} (hr : r.defect? = some why) :
      Agrees pairs ⟨.put r c, .written (.error (.protocol (.invalidRecord why))), .put r' c',
        .written (.error (.protocol (.invalidRecord why))), []⟩

/-- Corresponding calls to both stores, one after the other, each of them answered. -/
inductive SideBySide (store : RemoteStore) (s₀ : MemoryStore) (w₀ : SecretServer) :
    List Exchange → MemoryStore → SecretServer → Prop where
  | start : SideBySide store s₀ w₀ [] s₀ w₀
  | call {log : List Exchange} {s : MemoryStore} {w w' : SecretServer} {call call' : StoreCall}
      {reply' : StoreReply} {seen : List (Entry Http.Network)}
      (h : SideBySide store s₀ w₀ log s w) (hcalls : call.Matches (told log) call')
      (hc : Course (SecretServer.Answers store.secretUrl) w (store.perform call') seen w'
        (.done reply')) :
      SideBySide store s₀ w₀ (log ++ [⟨call, s.reply call, call', reply', seen⟩]) (s.after call) w'

/-! ## The same contents -/

/-- The server keeps the document of the record that the store in memory holds. -/
inductive SameContents (s : MemoryStore) (w : SecretServer) : Prop where
  | nothing (hs : s.slot = none) (hw : w.held = none)
  | record (r : Record) (body tag : String) (hs : s.slot = some r) (hw : w.held = some (body, tag))
      (hread : Record.ofDocument? body = some r) (hne : tag ≠ "") (hgiven : tag ∈ w.given)

/-- What holds between calls. -/
structure Corresponds (pairs : List (Version × Version)) (s : MemoryStore) (w : SecretServer) :
    Prop where
  contents : SameContents s w
  /-- Names that were told are names that were given. -/
  known : ∀ p ∈ pairs, (∃ n ≤ s.counter, p.1 = MemoryStore.versionOf n) ∧ p.2.tag ∈ w.given
  /-- A name is the present one in both stores or in neither. -/
  present : ∀ p ∈ pairs, p.1 = s.version ↔ w.held.map Prod.snd = some p.2.tag
  /-- Something is held once a name was told. -/
  held : pairs ≠ [] → s.slot.isSome = true
  oneToOne : ∀ p ∈ pairs, ∀ q ∈ pairs, p.1 = q.1 ↔ p.2 = q.2

/-! ## Names of versions -/

/-- An exchange tells the name of one version at most. -/
theorem told_concat (log : List Exchange) (x : Exchange) :
    told (log ++ [x]) = told log ++ x.told.toList := by
  rw [told, List.filterMap_append]
  cases hx : x.told <;> simp [told, hx]

/-- Conditions that correspond still do so when more names have been told. -/
theorem WriteCondition.Matches.mono {pairs more : List (Version × Version)} {c c' : WriteCondition}
    (h : c.Matches pairs c') : c.Matches (pairs ++ more) c' := by
  cases h with
  | holds h => exact .holds (List.mem_append_left more h)
  | empty => exact .empty
  | always => exact .always

/-- Answers that say the same still do so when more names have been told. -/
theorem Exchange.Agrees.mono {pairs more : List (Version × Version)} {x : Exchange}
    (h : x.Agrees pairs) : x.Agrees (pairs ++ more) := by
  cases h with
  | nothing => exact .nothing
  | record hpair => exact .record (List.mem_append_left more hpair)
  | written hr hpair => exact .written hr (List.mem_append_left more hpair)
  | conflict hr hc => exact .conflict hr hc.mono
  | invalid hr => exact .invalid hr

namespace Corresponds

variable {pairs : List (Version × Version)} {s : MemoryStore} {w : SecretServer}

/-- Stores with the same contents correspond before any name was told. -/
theorem start (h : SameContents s w) : Corresponds [] s w where
  contents := h
  known := nofun
  present := nofun
  held := fun hne => absurd rfl hne
  oneToOne := nofun

/-- The present names may be told at any time. -/
theorem tell (h : Corresponds pairs s w) {r : Record} {body tag : String} (hs : s.slot = some r)
    (hw : w.held = some (body, tag)) (hgiven : tag ∈ w.given) :
    Corresponds (pairs ++ [(s.version, ⟨tag⟩)]) s w := by
  have htag : w.held.map Prod.snd = some tag := by rw [hw]; rfl
  have hnew : ∀ p ∈ pairs, p.1 = s.version ↔ p.2 = ⟨tag⟩ := by
    intro p hp
    rw [h.present p hp, htag, Option.some.injEq]
    constructor
    · rintro rfl
      rfl
    · intro heq
      rw [heq]
  refine
    { contents := h.contents
      known := fun p hp => ?_
      present := fun p hp => ?_
      held := fun _ => by rw [hs]; rfl
      oneToOne := fun p hp q hq => ?_ }
  · rcases List.mem_append.mp hp with hp | hp
    · exact h.known p hp
    · obtain rfl := List.mem_singleton.mp hp
      exact ⟨⟨s.counter, Nat.le_refl _, rfl⟩, hgiven⟩
  · rcases List.mem_append.mp hp with hp | hp
    · exact h.present p hp
    · obtain rfl := List.mem_singleton.mp hp
      exact iff_of_true rfl htag
  · rcases List.mem_append.mp hp with hp | hp <;> rcases List.mem_append.mp hq with hq | hq
    · exact h.oneToOne p hp q hq
    · obtain rfl := List.mem_singleton.mp hq
      exact hnew p hp
    · obtain rfl := List.mem_singleton.mp hp
      rw [eq_comm, hnew q hq, eq_comm]
    · obtain rfl := List.mem_singleton.mp hp
      obtain rfl := List.mem_singleton.mp hq
      exact iff_of_true rfl rfl

/-- A write to both stores makes names that were not told. -/
theorem write (h : Corresponds pairs s w) {r : Record} {body tag : String}
    (hread : Record.ofDocument? body = some r.bare) (hne : tag ≠ "") (hfresh : tag ∉ w.given) :
    Corresponds pairs (s.write r) (w.store body tag) where
  contents := .record r.bare body tag rfl rfl hread hne List.mem_cons_self
  known := fun p hp => by
    obtain ⟨⟨n, hn, hv⟩, hgiven⟩ := h.known p hp
    exact ⟨⟨n, Nat.le_succ_of_le hn, hv⟩, List.mem_cons_of_mem _ hgiven⟩
  present := fun p hp => by
    obtain ⟨⟨n, hn, hv⟩, hgiven⟩ := h.known p hp
    refine iff_of_false (fun heq => ?_) (fun heq => ?_)
    · have hcount : n = s.counter + 1 := MemoryStore.versionOf_inj.mp (hv.symm.trans heq)
      omega
    · obtain rfl : tag = p.2.tag := Option.some.inj heq
      exact hfresh hgiven
  held := fun _ => rfl
  oneToOne := h.oneToOne

/-- Conditions that correspond hold in both stores or in neither. -/
theorem meets_iff (h : Corresponds pairs s w) {c c' : WriteCondition} (hc : c.Matches pairs c') :
    s.meets c = true ↔ w.Meets c' := by
  cases hc with
  | @holds v v' hp =>
    have hsome := h.held (List.ne_nil_of_mem hp)
    rw [SecretServer.Meets, ← h.present _ hp]
    simp [MemoryStore.meets, hsome, eq_comm]
  | empty =>
    rw [SecretServer.Meets, MemoryStore.meets, Option.isNone_iff_eq_none]
    cases h.contents with
    | nothing hs hw => exact iff_of_true hs hw
    | record r body tag hs hw => simp [hs, hw]
  | always => exact iff_of_true rfl trivial

end Corresponds

/-! ## One call to both stores -/

namespace RemoteStore

variable {store : RemoteStore} {r : Record} {c : WriteCondition}

theorem perform_get : store.perform .get = .call (S := Http.Network) store.readRequest fun x =>
    .done (.found (x.bind readAnswer)) := rfl

/-- A sound record is sent, and the answer is read. -/
theorem perform_put (hr : r.defect? = none) : store.perform (.put r c) =
    .call (S := Http.Network) (store.writeRequest r c) fun x =>
      .done (.written (x.bind (writeAnswer c))) := by
  have hchecked : r.checked = .ok r := by simp [Record.checked, hr]
  show (store.write r c).bind _ = _
  unfold write
  rw [hchecked]
  rfl

/-- A record that is not sound is not sent. -/
theorem perform_unsound {why : String} (hr : r.defect? = some why) : store.perform (.put r c) =
    .done (.written (.error (.protocol (.invalidRecord why)))) := by
  have hchecked : r.checked = .error (.protocol (.invalidRecord why)) := by
    simp [Record.checked, hr]
  show (store.write r c).bind _ = _
  unfold write
  rw [hchecked]
  rfl

end RemoteStore

theorem Record.defect_bare (r : Record) : r.bare.defect? = r.defect? := rfl

/-- The server of the secret is always within reach. -/
theorem SecretServer.Answers.ok {url : String} {w w' : SecretServer} {req : Http.Request}
    {x : Except Error Http.Response}
    (h : Answers url w (.called (S := Http.Network) req x) w') : ∃ resp, x = .ok resp := by
  cases h <;> exact ⟨_, rfl⟩

section Exchange

variable {store : RemoteStore} {pairs : List (Version × Version)} {s : MemoryStore}
variable {w w' : SecretServer} {reply' : StoreReply} {seen : List (Entry Http.Network)}

/-- What one exchange adds to what was known. -/
structure Exchanged (pairs : List (Version × Version)) (s : MemoryStore) (w : SecretServer)
    (x : Exchange) : Prop where
  agrees : x.Agrees (pairs ++ x.told.toList)
  corresponds : Corresponds (pairs ++ x.told.toList) s w
  once : x.seen.length ≤ 1
  /-- A record that is not sound is not sent. -/
  silent : ∀ r c, x.remoteCall = .put r c → r.defect? ≠ none → x.seen = []

/-- Both stores give the same record, at versions that are told together. -/
theorem Corresponds.get (h : Corresponds pairs s w)
    (hc : Course (SecretServer.Answers store.secretUrl) w (store.perform .get) seen w'
      (.done reply')) : Exchanged pairs s w' ⟨.get, s.reply .get, .get, reply', seen⟩ := by
  rw [RemoteStore.perform_get] at hc
  obtain ⟨-, hdone⟩ | ⟨x, rfl, ha, hreply⟩ := hc.single_inv
  · exact absurd rfl (hdone reply')
  obtain ⟨resp, rfl⟩ := ha.ok
  obtain ⟨rfl, hnone, hsome⟩ := RemoteStore.readAnswer_of_answers ha
  have hreply' : reply' = .found (RemoteStore.readAnswer resp) := Program.done.inj hreply
  cases h.contents with
  | nothing hs hw =>
    have hmemory : s.reply .get = .found (.ok none) := by
      simp [MemoryStore.reply, MemoryStore.current, hs]
    rw [hreply', hmemory, hnone hw]
    exact ⟨.nothing, by simpa [Exchange.told, StoreReply.version] using h, Nat.le_refl 1,
      fun _ _ heq => by cases heq⟩
  | record r body tag hs hw hread hne hgiven =>
    have hmemory : s.reply .get = .found (.ok (some (r.withVersion s.version))) := by
      simp [MemoryStore.reply, MemoryStore.current, hs]
    rw [hreply', hmemory, hsome body tag r hw hne hread]
    exact ⟨.record (List.mem_append_right _ List.mem_cons_self), h.tell hs hw hgiven,
      Nat.le_refl 1, fun _ _ heq => by cases heq⟩

/-- Both stores make the write or both refuse it, for the same reason. -/
theorem Corresponds.put (h : Corresponds pairs s w) {r r' : Record} {c c' : WriteCondition}
    (hr : r.bare = r'.bare) (hcount : r.refreshCount < Text.wordCount) (hm : c.Matches pairs c')
    (hc : Course (SecretServer.Answers store.secretUrl) w (store.perform (.put r' c')) seen w'
      (.done reply')) :
    Exchanged pairs (s.put r c).2 w' ⟨.put r c, s.reply (.put r c), .put r' c', reply', seen⟩ := by
  have hdefect : r'.defect? = r.defect? := by
    rw [← Record.defect_bare r', ← hr, Record.defect_bare]
  cases hd : r.defect? with
  | some why =>
    have hchecked : r.checked = .error (.protocol (.invalidRecord why)) := by
      simp [Record.checked, hd]
    rw [RemoteStore.perform_unsound (hdefect.trans hd)] at hc
    obtain ⟨rfl, rfl, hreply⟩ := hc.done_inv
    obtain rfl := Program.done.inj hreply
    have hput : s.put r c = (.error (.protocol (.invalidRecord why)), s) := by
      simp [MemoryStore.put, hchecked]
    rw [MemoryStore.reply, hput]
    exact ⟨.invalid hd, by simpa [Exchange.told, StoreReply.version] using h, Nat.zero_le 1,
      fun _ _ _ _ => rfl⟩
  | none =>
    rw [RemoteStore.perform_put (hdefect.trans hd)] at hc
    obtain ⟨-, hdone⟩ | ⟨x, rfl, ha, hreply⟩ := hc.single_inv
    · exact absurd rfl (hdone reply')
    obtain ⟨resp, rfl⟩ := ha.ok
    have hreply' : reply' = .written (RemoteStore.writeAnswer c' resp) := Program.done.inj hreply
    have hsound : ∀ r₁ c₁, StoreCall.put r' c' = .put r₁ c₁ → r₁.defect? = none := by
      rintro r₁ c₁ heq
      obtain ⟨rfl, -⟩ := StoreCall.put.inj heq
      exact hdefect.trans hd
    obtain ⟨hmeets, rfl, hanswer⟩ | ⟨hmeets, tag, hne, hfresh, rfl, hanswer⟩ :=
      RemoteStore.writeAnswer_of_answers ha
    · have hnot : s.meets c = false :=
        Bool.eq_false_iff.mpr fun hs => hmeets ((h.meets_iff hm).mp hs)
      have hput : s.put r c = (.error c.failed, s) := MemoryStore.put_of_not_meets hd hnot
      rw [hreply', hanswer, MemoryStore.reply, hput]
      exact ⟨.conflict hd hm.mono, by simpa [Exchange.told, StoreReply.version] using h,
        Nat.le_refl 1, fun r₁ c₁ heq hne => absurd (hsound r₁ c₁ heq) hne⟩
    · have hput := MemoryStore.put_of_meets hd ((h.meets_iff hm).mpr hmeets)
      have hread : Record.ofDocument? r'.document = some r.bare := by
        have hcount' : r'.refreshCount < Text.wordCount := by
          have hsame := congrArg Record.refreshCount hr
          exact hsame ▸ hcount
        rw [Record.ofDocument_document hcount', hr]
      have hnext := (h.write (r := r) hread hne hfresh).tell rfl rfl List.mem_cons_self
      rw [hreply', hanswer, MemoryStore.reply, hput]
      exact ⟨.written hd (List.mem_append_right _ List.mem_cons_self), hnext, Nat.le_refl 1,
        fun r₁ c₁ heq hne => absurd (hsound r₁ c₁ heq) hne⟩

end Exchange

/-- One call to both stores keeps them together. -/
theorem StoreCall.Matches.exchange {store : RemoteStore} {pairs : List (Version × Version)}
    {s : MemoryStore} {w w' : SecretServer} {call call' : StoreCall} {reply' : StoreReply}
    {seen : List (Entry Http.Network)} (hm : call.Matches pairs call') (h : Corresponds pairs s w)
    (hc : Course (SecretServer.Answers store.secretUrl) w (store.perform call') seen w'
      (.done reply')) :
    Exchanged pairs (s.after call) w' ⟨call, s.reply call, call', reply', seen⟩ := by
  cases hm with
  | get => exact h.get hc
  | put hr hcount hcond => exact h.put hr hcount hcond hc

/-- A call to a remote store is answered, or the server has an answer to its request. -/
theorem RemoteStore.perform_goes_on {store : RemoteStore} {w w' : SecretServer} {call : StoreCall}
    {seen : List (Entry Http.Network)} {q : Program Http.Network StoreReply}
    (h : Course (SecretServer.Answers store.secretUrl) w (store.perform call) seen w' q) :
    (∃ reply, q = .done reply) ∨
      ∃ e w'' q', SecretServer.Answers store.secretUrl w' e w'' ∧ q.Step e q' := by
  cases call with
  | get =>
    rw [perform_get] at h
    obtain ⟨-, rfl, rfl⟩ | ⟨x, m, t, rfl, -, hc⟩ := h.call_inv
    · have hurl : store.readRequest.url = store.secretUrl := rfl
      obtain ⟨resp, w'', ha⟩ := SecretServer.exists_answer_get hurl rfl w'
      exact Or.inr ⟨_, w'', _, ha, .call ..⟩
    · exact Or.inl ⟨_, hc.done_inv.2.2⟩
  | put r c =>
    cases hd : r.defect? with
    | some why =>
      rw [perform_unsound hd] at h
      exact Or.inl ⟨_, h.done_inv.2.2⟩
    | none =>
      rw [perform_put hd] at h
      obtain ⟨-, rfl, rfl⟩ | ⟨x, m, t, rfl, -, hc⟩ := h.call_inv
      · have hurl : (store.writeRequest r c).url = store.secretUrl := rfl
        obtain ⟨resp, w'', ha⟩ := SecretServer.exists_answer_put hurl rfl rfl w'
        exact Or.inr ⟨_, w'', _, ha, .call ..⟩
      · exact Or.inl ⟨_, hc.done_inv.2.2⟩

/-! ## Any number of calls -/

section Run

variable {store : RemoteStore} {s₀ s : MemoryStore} {w₀ w : SecretServer} {log : List Exchange}

/-- What is known of two stores that were called side by side. -/
structure Refines (store : RemoteStore) (log : List Exchange) (s : MemoryStore)
    (w : SecretServer) : Prop where
  /-- Both hold the same. -/
  contents : SameContents s w
  /-- All answers agree, up to the names of versions. -/
  replies : ∀ x ∈ log, x.Agrees (told log)
  /-- The names in the one store stand for those in the other one by one. -/
  oneToOne : ∀ p ∈ told log, ∀ q ∈ told log, p.1 = q.1 ↔ p.2 = q.2
  /-- A call makes one request at most, and none for a record that is not sound. -/
  requests : ∀ x ∈ log, x.seen.length ≤ 1 ∧
    ∀ r c, x.remoteCall = .put r c → r.defect? ≠ none → x.seen = []
  /-- Whatever is called next, the remote store answers as soon as the server has. -/
  goesOn : ∀ call seen w' q, Course (SecretServer.Answers store.secretUrl) w (store.perform call)
    seen w' q → (∃ reply, q = .done reply) ∨
      ∃ e w'' q', SecretServer.Answers store.secretUrl w' e w'' ∧ q.Step e q'

/-- The induction is on the calls; each adds its answers and, if it tells one, a pair of
names. -/
theorem SideBySide.corresponds (h₀ : SameContents s₀ w₀) (h : SideBySide store s₀ w₀ log s w) :
    Corresponds (told log) s w ∧ ∀ x ∈ log, x.Agrees (told log) ∧ x.seen.length ≤ 1 ∧
      ∀ r c, x.remoteCall = .put r c → r.defect? ≠ none → x.seen = [] := by
  induction h with
  | start => exact ⟨.start h₀, List.forall_mem_nil _⟩
  | call _ hcalls hc ih =>
    obtain ⟨hcorresponds, hlog⟩ := ih
    have hx := hcalls.exchange hcorresponds hc
    rw [told_concat]
    refine ⟨hx.corresponds, fun x hmem => ?_⟩
    rcases List.mem_append.mp hmem with hmem | hmem
    · obtain ⟨hagrees, hrequests⟩ := hlog x hmem
      exact ⟨hagrees.mono, hrequests⟩
    · obtain rfl := List.mem_singleton.mp hmem
      exact ⟨hx.agrees, hx.once, hx.silent⟩

/-- A remote store over a server that keeps a secret refines a store in memory that started
with the same contents. -/
theorem remote_refines_memory (h₀ : SameContents s₀ w₀) (h : SideBySide store s₀ w₀ log s w) :
    Refines store log s w := by
  obtain ⟨hcorresponds, hlog⟩ := h.corresponds h₀
  exact
    { contents := hcorresponds.contents
      replies := fun x hx => (hlog x hx).1
      oneToOne := hcorresponds.oneToOne
      requests := fun x hx => (hlog x hx).2
      goesOn := fun _ _ _ _ => RemoteStore.perform_goes_on }

end Run

/-! ### Three calls to look at

A first record is written, read, and replaced under the version that was read. -/

namespace Exchange.Sample

def store : RemoteStore :=
  ⟨⟨"https://store.example", "token", some "secret", .ofSeconds 5⟩, "https://store.example/token"⟩

def record : Record :=
  { accessToken := "access \"1\"", refreshToken := "refresh 1", tokenType := "Bearer", scope := none
    issuedAt := .epoch, expiresAt := .epoch, refreshExpiresAt := .epoch, lastRefreshAt := none
    refreshCount := 0, fault := none, version := none }

theorem sound : record.defect? = none := by decide

theorem writes {w : SecretServer} {c : WriteCondition} {tag : String} (hc : w.Meets c)
    (hne : tag ≠ "") (hfresh : tag ∉ w.given) :
    Course (SecretServer.Answers store.secretUrl) w (store.perform (.put record c))
      [.called (S := Http.Network) (store.writeRequest record c) (.ok ⟨204, [("etag", tag)], ""⟩)]
      (w.store record.document tag) (.done (.written (.ok ⟨tag⟩))) := by
  have hanswer : RemoteStore.writeAnswer c ⟨204, [("etag", tag)], ""⟩ = .ok ⟨tag⟩ := by
    simp [RemoteStore.writeAnswer, RemoteStore.versionOf, Http.Response.isSuccess,
      Http.Headers.get?, Option.filter, hne]
  rw [RemoteStore.perform_put sound, ← hanswer]
  exact .step .start (.stored record.document tag rfl rfl
    (SecretServer.admits_writeRequest.mpr hc) rfl hne hfresh rfl rfl) (.call ..)

theorem reads {w : SecretServer} {tag : String} (hw : w.held = some (record.document, tag))
    (hne : tag ≠ "") :
    Course (SecretServer.Answers store.secretUrl) w (store.perform .get)
      [.called (S := Http.Network) store.readRequest (.ok ⟨200, [("etag", tag)], record.document⟩)]
      w (.done (.found (.ok (some (record.withVersion ⟨tag⟩))))) := by
  have hanswered : SecretServer.Answers store.secretUrl w (.called (S := Http.Network)
      store.readRequest (.ok ⟨200, [("etag", tag)], record.document⟩)) w :=
    .found record.document tag rfl rfl hw rfl rfl rfl
  have hread : Record.ofDocument? record.document = some record :=
    Record.ofDocument_document (r := record) (by decide)
  rw [RemoteStore.perform_get,
    ← (RemoteStore.readAnswer_of_answers hanswered).2.2 _ _ _ hw hne hread]
  exact .step .start hanswered (.call ..)

end Exchange.Sample

/-- The remote store has given the tags a and b for what are the versions 1 and 2 in
memory. -/
theorem remote_refines_memory_of_sample : ∃ log s w,
    SideBySide Exchange.Sample.store .empty ⟨none, []⟩ log s w ∧
    told log = [(⟨"1"⟩, ⟨"a"⟩), (⟨"1"⟩, ⟨"a"⟩), (⟨"2"⟩, ⟨"b"⟩)] ∧
    Refines Exchange.Sample.store log s w := by
  have ha : "a" ≠ "" := by decide
  have hb : "b" ≠ "" := by decide
  have hstart : SideBySide Exchange.Sample.store .empty ⟨none, []⟩ [] .empty ⟨none, []⟩ := .start
  have h₁ := hstart.call (.put (r := Exchange.Sample.record) rfl (by decide) .empty)
    (Exchange.Sample.writes rfl ha (by decide))
  have h₂ := h₁.call .get (Exchange.Sample.reads rfl ha)
  have h₃ := h₂.call (.put (r := Exchange.Sample.record) rfl (by decide)
    (.holds (by decide +kernel) : WriteCondition.Matches _ (.holds ⟨"1"⟩) (.holds ⟨"a"⟩)))
    (Exchange.Sample.writes rfl hb (by decide))
  exact ⟨_, _, _, h₃, by decide +kernel, remote_refines_memory (.nothing rfl rfl) h₃⟩

end TokenCustody
