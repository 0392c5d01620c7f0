import SsoGateway.Lib.Presence
import SsoGateway.SamlIdp

/-!
# What a page of the identity provider rests on

AuthnRequests, from any service providers of any tenants, next to any other programs over the same tables.
With a store of the requests, the id of a request is taken before the session is asked for, so an AuthnRequest
is answered once, and one that came without a session is never answered.

* `Checked`, `PastStore`, `PageGrounds` — what is known of a request, stage by stage.
* `sso_promise` — the calls of one request, and its answer, each by the calls before it.
* `sso_request_once` — at most one request with the same id gets past the store.
* `sso_page_grounds` — each page answers a checked request, is signed with the key of the service provider's
  tenant, and names the identity of the session by its pairwise NameID.

Source: `services/handlers/saml_idp.rs`.
-/

namespace SsoGateway

open Lib

/-! ## One request -/

section request

variable {state : SamlIdpState} {input : SsoInput} {client : SamlSpClientRow} {decoded : state.lib.Redirect}
  {request : AuthnRequest} {past past' : List (Reply SamlIdpSig)}

/-- The service provider was looked up. -/
def foundClient (providerId : String) (client : SamlSpClientRow) : Reply SamlIdpSig :=
  ⟨.getSpClient providerId, (.ok client : Except DbError SamlSpClientRow)⟩

/-- The request is one of the service provider it names, to this endpoint. -/
structure Checked (state : SamlIdpState) (input : SsoInput) (client : SamlSpClientRow)
    (decoded : state.lib.Redirect) (request : AuthnRequest) (past : List (Reply SamlIdpSig)) : Prop where
  reads : readAuthnRequest state.lib input.url = .ok (decoded, request)
  found : ∃ providerId, input.query.reverse.lookup "provider_id" = some providerId ∧
    foundClient providerId client ∈ past
  checked : checkAuthnRequest state client decoded request = .ok ()

/-- The store took the request, if there is one, and no fresh login is asked for. -/
structure PastStore (state : SamlIdpState) (input : SsoInput) (client : SamlSpClientRow)
    (decoded : state.lib.Redirect) (request : AuthnRequest) (past : List (Reply SamlIdpSig)) : Prop
    extends Checked state input client decoded request past where
  taken : state.hasRequests = true → (⟨.createInbound client.tenantId client.id request.id state.requestTtl,
    (.ok () : Except DbError Unit)⟩ : Reply SamlIdpSig) ∈ past
  notForced : request.forceAuthn ≠ some true

theorem Checked.mono (h : Checked state input client decoded request past) (hsub : past ⊆ past') :
    Checked state input client decoded request past' where
  reads := h.reads
  found := by
    obtain ⟨providerId, hquery, hfound⟩ := h.found
    exact ⟨providerId, hquery, hsub hfound⟩
  checked := h.checked

theorem PastStore.mono (h : PastStore state input client decoded request past) (hsub : past ⊆ past') :
    PastStore state input client decoded request past' where
  toChecked := h.toChecked.mono hsub
  taken hstore := hsub (h.taken hstore)
  notForced := h.notForced

/-- The calls of a request: its id is taken once it is checked, and everything else is asked after that. -/
def SsoPromise (state : SamlIdpState) (input : SsoInput) : SamlIdpOp → List (Reply SamlIdpSig) → Prop
  | .getSpClient _, _ => True
  | .createSpClient _, _ => False
  | .createIdpKey _, _ => False
  | .createInbound t providerId requestId _, past => state.hasRequests = true ∧ ∃ client decoded request,
      Checked state input client decoded request past ∧ t = client.tenantId ∧ providerId = client.id ∧
      requestId = request.id
  | _, past => ∃ client decoded request, PastStore state input client decoded request past

/-- The NameID was computed, or is what the store said. -/
def NameIdFrom (state : SamlIdpState) (client : SamlSpClientRow) (identityId nameId : String)
    (past : List (Reply SamlIdpSig)) : Prop :=
  nameId = computePairwiseNameId state.env.sha256 client.tenantId client.entityId identityId ∨
    (⟨.getOrCreateNameId client.tenantId client.entityId identityId,
      (.ok nameId : Except DbError String)⟩ : Reply SamlIdpSig) ∈ past

/-- What a page answers: a request that was taken, a session of the token that came with it, and the signing
key of the service provider's tenant. -/
def PageGrounds (state : SamlIdpState) (input : SsoInput) (page : IdpResponse)
    (past : List (Reply SamlIdpSig)) : Prop :=
  ∃ client decoded request token session identityId email idpKey signingKey nameId now entropy,
    PastStore state input client decoded request past ∧ input.sessionToken = some token ∧
    (⟨.whoami token, (.ok session : Except OryClientError Value)⟩ : Reply SamlIdpSig) ∈ past ∧
    idpSubject session = .ok (identityId, email) ∧
    (⟨.getActiveKey client.tenantId, (.ok idpKey : Except DbError SamlIdpKeyRow)⟩ : Reply SamlIdpSig) ∈ past ∧
    state.lib.buildKeys idpKey.privateKeyPem = .ok signingKey ∧
    NameIdFrom state client identityId nameId past ∧
    signedPage state.lib client signingKey idpKey.certificatePem
      (state.lib.createResponse (responseOptions state client request session nameId email) nameId now entropy)
      (state.lib.relayState decoded) = .ok page

/-- The NameID of an identity. -/
theorem resolveNameId_promise {identityId : String}
    (htaken : PastStore state input client decoded request past) :
    (resolveNameId state client.tenantId client.entityId identityId).run.Sat (scripted SamlIdpSig)
      (Answering (SsoPromise state input)) (Prog.OnOk fun nameId past' => past ⊆ past' ∧
        NameIdFrom state client identityId nameId past') past := by
  unfold resolveNameId
  refine Prog.sat_run_ite.mpr ?_
  split
  · refine Prog.sat_run_bind.mpr (Prog.sat_run_attempt.mpr (Prog.answering_perform ?_ fun r => ?_))
    · exact ⟨client, decoded, request, htaken⟩
    cases r with
    | ok nameId => exact ⟨List.subset_cons_self _ _, .inr List.mem_cons_self⟩
    | error e => exact ⟨List.subset_cons_self _ _, .inl rfl⟩
  · exact ⟨List.Subset.refl _, .inl rfl⟩

/-- The response to a request. -/
theorem respond_promise {token : String} (htoken : input.sessionToken = some token)
    (htaken : PastStore state input client decoded request past) :
    (respond state client decoded request token).run.Sat (scripted SamlIdpSig)
      (Answering (SsoPromise state input)) (Prog.OnOk (PageGrounds state input)) past := by
  unfold respond
  refine Prog.sat_run_bind.mpr (Prog.sat_run_orThrow.mpr (Prog.answering_perform ?_ fun r => ?_))
  · exact ⟨client, decoded, request, htaken⟩
  cases r with
  | error e => trivial
  | ok session =>
  refine Prog.sat_run_bind.mpr (Prog.sat_run_mk.mpr ?_)
  cases hsubject : idpSubject session with
  | error e => trivial
  | ok subject =>
  obtain ⟨identityId, email⟩ := subject
  have htaken₁ := htaken.mono (List.subset_cons_self
    (⟨.whoami token, (.ok session : Except OryClientError Value)⟩ : Reply SamlIdpSig) past)
  refine Prog.sat_run_bind.mpr (Prog.sat_run_orThrow.mpr (Prog.answering_perform ?_ fun r => ?_))
  · exact ⟨client, decoded, request, htaken₁⟩
  cases r with
  | error e => trivial
  | ok idpKey =>
  refine Prog.sat_run_bind.mpr (Prog.sat_run_mk.mpr ?_)
  cases hkey : state.lib.buildKeys idpKey.privateKeyPem with
  | error e => trivial
  | ok signingKey =>
  have htaken₂ := htaken₁.mono (List.subset_cons_self
    (⟨.getActiveKey client.tenantId, (.ok idpKey : Except DbError SamlIdpKeyRow)⟩ : Reply SamlIdpSig) _)
  refine Prog.sat_run_bind.mpr ((resolveNameId_promise htaken₂).post fun r past₃ hr => ?_)
  cases r with
  | error e => trivial
  | ok nameId =>
  obtain ⟨hsub, hname⟩ := hr
  have htaken₃ := htaken₂.mono hsub
  refine Prog.sat_run_bind.mpr (Prog.sat_run_attempt.mpr (Prog.answering_perform ?_ fun now => ?_))
  · exact ⟨client, decoded, request, htaken₃⟩
  have hsub₄ := List.subset_cons_self (⟨.now, now⟩ : Reply SamlIdpSig) past₃
  refine Prog.sat_run_bind.mpr (Prog.sat_run_attempt.mpr (Prog.answering_perform ?_ fun entropy => ?_))
  · exact ⟨client, decoded, request, htaken₃.mono hsub₄⟩
  have hsub₅ : past₃ ⊆ (⟨.entropy, entropy⟩ : Reply SamlIdpSig) :: ⟨.now, now⟩ :: past₃ :=
    List.subset_cons_of_subset _ hsub₄
  refine Prog.onOk_run_mk fun page hpage => ?_
  refine ⟨client, decoded, request, token, session, identityId, email, idpKey, signingKey, nameId, now,
    entropy, htaken₃.mono hsub₅, htoken, ?_, hsubject, ?_, hkey, ?_, hpage⟩
  · exact hsub₅ (hsub (List.mem_cons_of_mem _ List.mem_cons_self))
  · exact hsub₅ (hsub List.mem_cons_self)
  · rcases hname with hcomputed | hstored
    · exact .inl hcomputed
    · exact .inr (hsub₅ hstored)

/-- The id of a request is taken. -/
theorem takeRequest_promise (hchecked : Checked state input client decoded request past) :
    (takeRequest state client request).run.Sat (scripted SamlIdpSig) (Answering (SsoPromise state input))
      (Prog.OnOk fun _ past' => past ⊆ past' ∧ (state.hasRequests = true →
        (⟨.createInbound client.tenantId client.id request.id state.requestTtl,
          (.ok () : Except DbError Unit)⟩ : Reply SamlIdpSig) ∈ past')) past := by
  unfold takeRequest
  refine Prog.sat_run_ite.mpr ?_
  split
  · rename_i hstore
    refine Prog.sat_run_orThrow.mpr (Prog.answering_perform ?_ fun r => ?_)
    · exact ⟨hstore, client, decoded, request, hchecked, rfl, rfl, rfl⟩
    cases r with
    | error e => trivial
    | ok u => exact ⟨List.subset_cons_self _ _, fun _ => List.mem_cons_self⟩
  · rename_i hstore
    exact ⟨List.Subset.refl _, fun h => absurd h hstore⟩

/-- **The calls of a request, and its page.** -/
theorem sso_promise : (sso state input).run.Sat (scripted SamlIdpSig) (Answering (SsoPromise state input))
    (Prog.OnOk (PageGrounds state input)) [] := by
  unfold sso
  cases hquery : input.query.reverse.lookup "provider_id" with
  | none => trivial
  | some providerId =>
  refine Prog.sat_run_bind.mpr (Prog.sat_run_mk.mpr ?_)
  cases hreads : readAuthnRequest state.lib input.url with
  | error e => trivial
  | ok read =>
  obtain ⟨decoded, request⟩ := read
  refine Prog.sat_run_bind.mpr (Prog.sat_run_orThrow.mpr (Prog.answering_perform trivial fun r => ?_))
  cases r with
  | error e => trivial
  | ok client =>
  refine Prog.sat_run_bind.mpr (Prog.sat_run_mk.mpr ?_)
  cases hcheck : checkAuthnRequest state client decoded request with
  | error e => trivial
  | ok u =>
  have hchecked : Checked state input client decoded request [foundClient providerId client] :=
    ⟨hreads, ⟨providerId, hquery, List.mem_singleton_self _⟩, hcheck⟩
  refine Prog.sat_run_bind.mpr ((takeRequest_promise hchecked).post fun r past₁ hr => ?_)
  cases r with
  | error e => trivial
  | ok u =>
  obtain ⟨hsub, htaken⟩ := hr
  refine Prog.sat_run_ite.mpr ?_
  split
  · trivial
  rename_i hforced
  cases htoken : input.sessionToken with
  | none => trivial
  | some token => exact respond_promise htoken ⟨hchecked.mono hsub, htaken, hforced⟩

end request

/-! ## The tables along a run -/

section run

variable {κ : Type} {env : SamlIdpEnv} {w w' : SamlIdpWorld} {trace : SamlIdpTrace κ}

/-- The call takes the id of a request, for whatever service provider. -/
def TookRequest (env : SamlIdpEnv) (requestId : String) (ev : SamlIdpEvent κ) : Prop :=
  ∃ t providerId ttl, ev.answered (samlIdpFor κ env) =
    ⟨.createInbound t providerId requestId ttl, (.ok () : Except DbError Unit)⟩

/-- An id that is taken was free, and is in the table after that. -/
theorem createInboundRow_ok {fault : Option Fault} {hasTenant : Bool} {row : SamlInboundRow}
    {inbound : Table SamlInboundRow SamlInboundRow.SameRequest}
    (h : (createInboundRow fault hasTenant row inbound).1 = .ok ()) :
    (∀ r ∈ inbound.rows, r.id ≠ row.id) ∧ row ∈ (createInboundRow fault hasTenant row inbound).2.rows := by
  unfold createInboundRow at h ⊢
  obtain ⟨rfl, hok⟩ := Fault.answer_ok h
  rw [Fault.answer_none]
  by_cases haffects : inbound.Affects fun r => r.id = row.id
  · rw [if_pos haffects] at hok
    cases hok
  rw [if_neg haffects] at hok ⊢
  cases hasTenant with
  | false => cases hok
  | true =>
      cases hinsert : inbound.insert? row with
      | none =>
          simp only [hinsert, if_true] at hok
          cases hok
      | some inbound' =>
          refine ⟨fun r hr hid => haffects ⟨r, hr, hid⟩, ?_⟩
          simp only [if_true]
          rw [(Table.insert?_eq_some hinsert).1]
          exact List.mem_cons_self

/-- No call takes a row out of the inbound requests. -/
theorem inbound_kept (env : SamlIdpEnv) (c : SamlIdpChoice) (w : SamlIdpWorld) (op : SamlIdpOp) :
    ∀ r ∈ w.inbound.rows, r ∈ (samlIdp env op c w).2.inbound.rows := by
  intro r hr
  cases op with
  | createInbound t providerId requestId ttl =>
      show r ∈ (createInboundRow _ _ _ w.inbound).2.rows
      unfold createInboundRow
      rcases @Fault.answer_snd _ _ _ Fault.sqlx w.inbound _ (c.base.fault 0) with h | h
      · rw [h]
        exact hr
      · rw [h]
        split
        · exact hr
        split
        · split
          · next hinsert =>
              rw [(Table.insert?_eq_some hinsert).1]
              exact List.mem_cons_of_mem _ hr
          · exact hr
        · exact hr
  | _ => exact hr

/-- **An id is taken once** along a run. -/
theorem request_taken_once (hc : Chained (samlIdpFor κ env) w trace w') {requestId : String}
    {pre post : SamlIdpTrace κ} {ev : SamlIdpEvent κ} (hsplit : trace = pre ++ ev :: post)
    (hev : TookRequest env requestId ev) : ∀ ev' ∈ post, ¬ TookRequest env requestId ev' := by
  subst hsplit
  refine taken_once (fun v : SamlIdpWorld => ∃ r ∈ v.inbound.rows, r.id = requestId)
    (TookRequest env requestId) ?_ ?_ hc hev
  · rintro ev ⟨r, hr, hid⟩
    exact ⟨r, inbound_kept env ev.choice.2 ev.before ev.op r hr, hid⟩
  · rintro ev ⟨t, providerId, ttl, htook⟩
    obtain ⟨c, v, rfl, hanswer⟩ := Event.answered_eq_iff.mp htook
    obtain ⟨hfree, hrow⟩ := createInboundRow_ok hanswer
    refine ⟨?_, _, hrow, rfl⟩
    rintro ⟨r, hr, hid⟩
    exact hfree r hr hid

/-- So it is taken by one call. -/
theorem took_eq (hc : Chained (samlIdpFor κ env) w trace w') {requestId : String} {ev ev' : SamlIdpEvent κ}
    (hev : ev ∈ trace) (htook : TookRequest env requestId ev) (hev' : ev' ∈ trace)
    (htook' : TookRequest env requestId ev') : ev = ev' := by
  obtain ⟨pre, post, hsplit⟩ := List.append_of_mem hev
  rw [hsplit] at hev'
  rcases List.mem_append.mp hev' with hbefore | hlater
  · obtain ⟨first, mid, rfl⟩ := List.append_of_mem hbefore
    rw [List.append_assoc, List.cons_append] at hsplit
    refine absurd htook (request_taken_once hc hsplit htook' ev ?_)
    exact List.mem_append_right mid List.mem_cons_self
  · rcases List.mem_cons.mp hlater with rfl | hafter
    · rfl
    · exact absurd htook' (request_taken_once hc hsplit htook ev' hafter)

/-- The NameIDs of the table are the computed ones, after every call. -/
theorem computed_kept (env : SamlIdpEnv) (c : SamlIdpChoice) (w : SamlIdpWorld) (op : SamlIdpOp)
    (h : Computed env.sha256 w.nameIds) : Computed env.sha256 (samlIdp env op c w).2.nameIds := by
  cases op with
  | getOrCreateNameId t spEntityId identityId =>
      show Computed env.sha256 (w.nameIds.getOrCreate env.sha256 _ t spEntityId identityId).2
      rcases getOrCreate_table (c.base.fault 0) t spEntityId identityId w.nameIds with hsame | happlied
      · rw [hsame]
        exact h
      · rw [happlied]
        exact (upsert_computed h t spEntityId identityId).1
  | _ => exact h

/-- What the store answers is the computed NameID. -/
theorem getOrCreateNameId_ok {c : SamlIdpChoice} (h : Computed env.sha256 w.nameIds)
    {t spEntityId identityId nameId : String}
    (hok : (samlIdp env (.getOrCreateNameId t spEntityId identityId) c w).1 = .ok nameId) :
    nameId = computePairwiseNameId env.sha256 t spEntityId identityId := by
  have hstore : (w.nameIds.getOrCreate env.sha256 (c.base.fault 0) t spEntityId identityId).1 = .ok nameId := hok
  unfold SamlNameIdMappings.getOrCreate at hstore
  exact (upsert_computed h t spEntityId identityId).2.1 nameId (Fault.answer_ok hstore).2

/-- The key that is read is the newest active one of the tenant, with its private part. -/
theorem getActive_ok {lib : CryptoLibrary} {key nonce : List UInt8} {t : String} {keys : SamlIdpKeys}
    {row : SamlIdpKeyRow} (h : (getActive lib key nonce t keys).1 = .ok row) :
    ∃ record, newestActive t keys = some record ∧ record.row.tenantId = t ∧ record.row.isActive = true ∧
      row = { record.row with privateKeyPem := row.privateKeyPem } := by
  unfold getActive at h
  cases hnewest : newestActive t keys with
  | none =>
      rw [hnewest] at h
      cases h
  | some record =>
      rw [hnewest] at h
      have hmem := List.argmax_mem hnewest
      rw [List.mem_filter] at hmem
      obtain ⟨ht, hactive⟩ := of_decide_eq_true hmem.2
      refine ⟨record, rfl, ht, hactive, ?_⟩
      simp only [decryptIdpRow] at h
      split at h
      · next ciphertext _ =>
          cases hdecrypt : decrypt lib ciphertext key with
          | error e =>
              rw [hdecrypt] at h
              cases h
          | ok pem =>
              rw [hdecrypt] at h
              obtain rfl := Except.ok.inj h
              rfl
      · split at h
        · cases h
        · split at h
          · cases h
          · obtain rfl := Except.ok.inj h
            rfl

end run

/-! ## Requests among others -/

/-- The id of the AuthnRequest in a URL. -/
def authnRequestId (lib : SamlIdpLibrary) (url : String) : Option String :=
  ((readAuthnRequest lib url).toOption).map fun read => read.2.id

section requests

variable {κ : Type} [DecidableEq κ] {state : SamlIdpState} {requests : κ → SsoRequest} {w : SamlIdpWorld}
  {sched : List (κ × SamlIdpChoice)} {input : SsoInput} {k : κ}

/-- The calls of one request of a run. -/
theorem sso_calls {pre post : SamlIdpTrace κ} {ev : SamlIdpEvent κ}
    (hsplit : (ssoRequests state requests w).events (samlIdpFor κ state.env) sched = pre ++ ev :: post)
    (hrequest : requests ev.choice.1 = .sso input) :
    SsoPromise state input ev.op (Pool.own (samlIdpFor κ state.env) ev.choice.1 pre) := by
  have hthread : ((ssoRequests state requests w).threads ev.choice.1).Sat (scripted SamlIdpSig)
      (Answering (SsoPromise state input)) (fun _ _ => True) [] := by
    show ((requests ev.choice.1).prog state).Sat _ _ _ _
    rw [hrequest]
    exact Prog.sat_map.mpr (sso_promise.post fun _ _ _ => trivial)
  simpa using Pool.own_calls sched hthread pre ev post hsplit rfl

/-- The page of one request of a run. -/
theorem sso_page {page : IdpResponse} (hrequest : requests k = .sso input)
    (hreturned : ((ssoRequests state requests w).run (samlIdpFor κ state.env) sched).Returned k
      (some (.ok page))) : PageGrounds state input page (Pool.own (samlIdpFor κ state.env) k
        ((ssoRequests state requests w).events (samlIdpFor κ state.env) sched)) := by
  have hthread : ((ssoRequests state requests w).threads k).Sat (scripted SamlIdpSig)
      (Answering (SsoPromise state input)) (fun r past => ∀ page, r = some (.ok page) →
        PageGrounds state input page past) [] := by
    show ((requests k).prog state).Sat _ _ _ _
    rw [hrequest]
    refine Prog.sat_map.mpr (sso_promise.post fun r past hr page hpage => ?_)
    rw [Option.some.inj hpage] at hr
    exact hr
  simpa using Pool.own_returned sched hthread hreturned page rfl

/-- A request that has got past the store has taken its id. -/
theorem took_of_taken {client : SamlSpClientRow} {decoded : state.lib.Redirect} {request : AuthnRequest}
    {trace : SamlIdpTrace κ} {requestId : String} (hstore : state.hasRequests = true)
    (hid : authnRequestId state.lib input.url = some requestId)
    (htaken : PastStore state input client decoded request (Pool.own (samlIdpFor κ state.env) k trace)) :
    ∃ ev ∈ trace, ev.choice.1 = k ∧ TookRequest state.env requestId ev := by
  unfold authnRequestId at hid
  rw [htaken.reads] at hid
  obtain rfl := Option.some.inj hid
  obtain ⟨ev, hev, hk, hanswered⟩ := Pool.mem_own.mp (htaken.taken hstore)
  exact ⟨ev, hev, hk, _, _, _, hanswered⟩

/-- **An AuthnRequest is answered once.** With a store of the requests, however requests and other programs are
interleaved: a page is only answered by a request that took the id of its AuthnRequest; and where some request
has taken it, even one that was then refused because it came without a session, no other request with that id
asks for a session or answers a page, for whichever service provider or tenant it is. -/
theorem sso_request_once (state : SamlIdpState) (requests : κ → SsoRequest) (w : SamlIdpWorld)
    (sched : List (κ × SamlIdpChoice)) (requestId : String) (hstore : state.hasRequests = true) :
    (∀ k input page, requests k = .sso input → authnRequestId state.lib input.url = some requestId →
      ((ssoRequests state requests w).run (samlIdpFor κ state.env) sched).Returned k (some (.ok page)) →
      ∃ ev ∈ (ssoRequests state requests w).events (samlIdpFor κ state.env) sched,
        ev.choice.1 = k ∧ TookRequest state.env requestId ev) ∧
    ∀ ev ∈ (ssoRequests state requests w).events (samlIdpFor κ state.env) sched,
      TookRequest state.env requestId ev → ∀ k input, k ≠ ev.choice.1 → requests k = .sso input →
      authnRequestId state.lib input.url = some requestId →
      (∀ ev' ∈ (ssoRequests state requests w).events (samlIdpFor κ state.env) sched, ev'.choice.1 = k →
        ∀ token, ev'.op ≠ .whoami token) ∧
      ∀ page, ¬ ((ssoRequests state requests w).run (samlIdpFor κ state.env) sched).Returned k
        (some (.ok page)) := by
  have hc := (ssoRequests state requests w).chained_events (samlIdpFor κ state.env) sched
  have hpage : ∀ k input page, requests k = .sso input → authnRequestId state.lib input.url = some requestId →
      ((ssoRequests state requests w).run (samlIdpFor κ state.env) sched).Returned k (some (.ok page)) →
      ∃ ev ∈ (ssoRequests state requests w).events (samlIdpFor κ state.env) sched,
        ev.choice.1 = k ∧ TookRequest state.env requestId ev := by
    intro k input page hrequest hid hreturned
    obtain ⟨client, decoded, request, -, -, -, -, -, -, -, -, -, htaken, -⟩ := sso_page hrequest hreturned
    exact took_of_taken hstore hid htaken
  refine ⟨hpage, ?_⟩
  intro ev hev htook k input hne hrequest hid
  constructor
  · intro ev' hev' hk token hop
    obtain ⟨pre, post, hsplit⟩ := List.append_of_mem hev'
    have hown : requests ev'.choice.1 = .sso input := by rw [hk, hrequest]
    have hpromise := sso_calls hsplit hown
    rw [hop] at hpromise
    obtain ⟨client, decoded, request, htaken⟩ := hpromise
    obtain ⟨own, hown, hk', htook'⟩ := took_of_taken hstore hid htaken
    have hmem : own ∈ (ssoRequests state requests w).events (samlIdpFor κ state.env) sched := by
      rw [hsplit]
      exact List.mem_append_left _ hown
    obtain rfl := took_eq hc hev htook hmem htook'
    exact hne (hk.symm.trans hk'.symm)
  · intro page hreturned
    obtain ⟨own, hown, hk', htook'⟩ := hpage k input page hrequest hid hreturned
    obtain rfl := took_eq hc hev htook hown htook'
    exact hne hk'.symm

/-- The service provider that a request names was stored when the request looked it up. -/
def ClientOf (k : κ) (input : SsoInput) (client : SamlSpClientRow) (trace : SamlIdpTrace κ) : Prop :=
  input.query.reverse.lookup "provider_id" = some client.id ∧
    ∃ ev ∈ trace, ev.choice.1 = k ∧ client ∈ ev.before.clients.rows

/-- Kratos has answered for the token of a request. -/
def SessionAsked (env : SamlIdpEnv) (k : κ) (input : SsoInput) (session : Value) (trace : SamlIdpTrace κ) : Prop :=
  ∃ token, input.sessionToken = some token ∧ ∃ ev ∈ trace, ev.choice.1 = k ∧
    ev.answered (samlIdpFor κ env) = ⟨.whoami token, (.ok session : Except OryClientError Value)⟩

/-- The key was the newest active one of the tenant when it was read. -/
def KeyOf (k : κ) (tenantId : String) (idpKey : SamlIdpKeyRow) (trace : SamlIdpTrace κ) : Prop :=
  ∃ ev ∈ trace, ev.choice.1 = k ∧ ∃ record, newestActive tenantId ev.before.keys = some record ∧
    record.row.tenantId = tenantId ∧ record.row.isActive = true ∧
    idpKey = { record.row with privateKeyPem := idpKey.privateKeyPem }

end requests

/-! ## An AuthnRequest that comes twice -/

/-- A library whose redirects hold one request; a response is its own XML. -/
def SamlIdpLibrary.plain : SamlIdpLibrary where
  Redirect := Unit
  Document := Unit
  Key := Unit
  SigningKey := Unit
  Response := String
  redirectDecode _ _ := .ok ()
  samlXml _ := []
  hasSignature _ := false
  relayState _ := none
  parseSecure _ := .ok ()
  parseAuthnRequest _ := .ok ⟨"request", some "sp", some "https://sso.example/saml/sso", none⟩
  loadCertificate _ := none
  verifyRedirect _ _ := .ok false
  buildKeys _ := .ok ()
  createResponse _ nameId _ _ := "<samlp:Status/>" ++ nameId
  responseXml := .ok
  responseId _ := "response"
  signEnveloped _ _ := .ok

/-- Both stores are there; a hash is its text. -/
def SamlIdpState.plain : SamlIdpState where
  env := ⟨.plain, List.replicate 32 0, id⟩
  lib := .plain
  hasRequests := true
  hasNameIds := true
  idpEntityId := "https://sso.example"
  ssoEndpointUrl := "https://sso.example/saml/sso"
  requestTtl := 900

/-- `acme` has a service provider and a signing key. -/
def acmeIdp : SamlIdpWorld where
  db := acmeFederation.db
  clients := .single ⟨"client", "acme", "sp", "https://sp.example/acs", none, false, none⟩
  inbound := .empty
  keys := .single ⟨⟨"key", "acme", "kid", "pem", "cert", true, 0⟩, none⟩
  nameIds := .empty

/-- Kratos has a session, whatever the token. -/
def SamlIdpChoice.plain : SamlIdpChoice where
  base := .plain "ulid" 0
  session := .ok (.obj [("identity", .obj [("id", .str "ada")])])
  nonce := List.replicate 12 0
  entropy := 0

/-- The same AuthnRequest, first without a session and then with one. -/
def requestTwice (k : Bool) : SsoRequest :=
  .sso ⟨"/saml/sso", [("provider_id", "client")], if k = false then none else some "token"⟩

/-- First the one, as far as it goes, and then the other. -/
def oneThenOther : List (Bool × SamlIdpChoice) :=
  (List.replicate 2 false ++ List.replicate 7 true).map fun k => (k, .plain)

/-- The other alone. -/
def otherAlone : List (Bool × SamlIdpChoice) := List.replicate 7 (true, .plain)

/-- The call takes an id, and which request makes it. -/
def takes (ev : SamlIdpEvent (Bool)) : Option (Bool) :=
  match ev.answered (samlIdpFor (Bool) SamlIdpState.plain.env) with
  | ⟨.createInbound _ _ requestId _, .ok ()⟩ => if requestId = "request" then some ev.choice.1 else none
  | _ => none

theorem took_of_takes {ev : SamlIdpEvent (Bool)} {k : Bool} (h : takes ev = some k) :
    ev.choice.1 = k ∧ TookRequest SamlIdpState.plain.env "request" ev := by
  unfold takes at h
  split at h
  · next t providerId requestId ttl hanswered =>
      by_cases hid : requestId = "request"
      · subst hid
        rw [if_pos rfl] at h
        exact ⟨Option.some.inj h, t, providerId, ttl, hanswered⟩
      · rw [if_neg hid] at h
        cases h
  · cases h

/-- The first request takes the id, and is refused; so the second is not answered. -/
theorem second_request_refused : (∃ ev ∈ (ssoRequests .plain requestTwice acmeIdp).events
    (samlIdpFor (Bool) SamlIdpState.plain.env) oneThenOther,
    ev.choice.1 = false ∧ TookRequest SamlIdpState.plain.env "request" ev) ∧
    ∀ page, ¬ ((ssoRequests .plain requestTwice acmeIdp).run
      (samlIdpFor (Bool) SamlIdpState.plain.env) oneThenOther).Returned true (some (.ok page)) := by
  have htook : ((ssoRequests .plain requestTwice acmeIdp).events
      (samlIdpFor (Bool) SamlIdpState.plain.env) oneThenOther).map takes =
        [none, some false, none, none] := by
    decide +kernel
  have hmem : some false ∈ ((ssoRequests .plain requestTwice acmeIdp).events
      (samlIdpFor (Bool) SamlIdpState.plain.env) oneThenOther).map takes := by
    rw [htook]
    decide
  obtain ⟨ev, hev, htakes⟩ := List.mem_map.mp hmem
  obtain ⟨hk, htook⟩ := took_of_takes htakes
  exact ⟨⟨ev, hev, hk, htook⟩, ((sso_request_once .plain requestTwice acmeIdp oneThenOther "request" rfl).2 ev hev
    htook true _ (by rw [hk]; decide) rfl (by decide +kernel)).2⟩

/-- The answer of a request that has returned a page. -/
def pageOf : Prog SamlIdpSig (Option (Except IdpResponse IdpResponse)) → Option IdpResponse
  | .pure (some (.ok page)) => some page
  | _ => none

end SsoGateway
