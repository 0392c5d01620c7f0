import SsoGateway.SelfServiceFlows

/-!
# The names of a flow

What a request about flows calls, and what its steps make of the flow: a name of the gateway's stands in the
place of everything that Kratos calls its own, and the rest is as it was.

* `NamedIn`, `UrlNamed`, `FlowNamed` — a token, a URL and a flow under their names.
* `FlowPromise` — the calls of a request: Kratos is asked about a flow that the presented id was resolved to.
* `adds_scrubFlowIdInUrl`, `adds_flowResponse` — the URL and the flow that come out of the steps.

Source: `services/identity_self_service.rs`.
-/

namespace SsoGateway

open Lib

/-! ## Names among the calls -/

/-- A call with its answer. -/
abbrev FlowOp.reply (op : FlowOp) (r : op.Res) : Reply FlowSig := ⟨op, r⟩

/-- The gateway named a token. -/
def NamedIn (past : List (Reply FlowSig)) (K : TransientKey) (p : String) : Prop :=
  ∃ e, FlowOp.reply (.transient (.create K e)) (.ok p) ∈ past

/-- The public id of a mapping was looked up. -/
def MappedIn (past : List (Reply FlowSig)) (t : String) (backend : Backend) (oryId publicId : String) : Prop :=
  FlowOp.reply (.gateway (.mapping (.getPublicId t backend oryId))) (.ok publicId) ∈ past

/-- A field that names something of a backend; the empty one names nothing. -/
def FieldNamed (named : String → String → Prop) (field field' : String) : Prop :=
  if field = "" then field' = "" else named field field'

/-- A parameter of a URL: under its key, and with a name where it names a flow. -/
def PairNamed (past : List (Reply FlowSig)) (t : String) (pair pair' : String × String) : Prop :=
  pair'.1 = pair.1 ∧ if isFlowPair pair then NamedIn past (flowKeyOf t pair.2) pair'.2 else pair'.2 = pair.2

/-- A URL with the names of its flows. One without flows stays, and of one with flows nothing but its
parameters changes. -/
structure UrlNamed (urls : UrlLibrary) (past : List (Reply FlowSig)) (t value value' : String) : Prop where
  pairs : ∀ url, urls.parse value = some url →
    List.Forall₂ (PairNamed past t) (textPairs value) (textPairs value')
  form : value' = value ∨
    ∃ url pairs, urls.parse value = some url ∧ value' = urls.text (urls.replacePairs url pairs)
  untouched : (∀ pair ∈ textPairs value, isFlowPair pair = false) → value' = value

/-- A node whose URL is changed. -/
def NodeNamed (named : String → String → Prop) : Option UiNodeAttributes → Option UiNodeAttributes → Prop
  | some (.input src), some (.input src') => named src src'
  | some .text, some .text => True
  | some (.anchor href), some (.anchor href') => named href href'
  | some (.image src), some (.image src') => named src src'
  | some (.script src), some (.script src') => named src src'
  | none, none => True
  | _, _ => False

/-- A form whose URLs are changed. -/
structure UiNamed (named : String → String → Prop) (ui ui' : UiContainer) : Prop where
  action : named ui.action ui'.action
  nodes : List.Forall₂ (NodeNamed named) ui.nodes ui'.nodes

/-- A client under its public id. -/
def ClientNamed (past : List (Reply FlowSig)) (t : String) (client client' : FlowClient) : Prop :=
  FieldNamed (MappedIn past t .hydra) client.clientId client'.clientId ∧
    client' = { client with clientId := client'.clientId }

/-- A login request with the gateway's names. The URLs of its client are an application's: no flow in them is
renamed. -/
structure OAuth2Named (move : FlowClient → FlowClient) (past : List (Reply FlowSig)) (t : String)
    (oauth2 oauth2' : OAuth2LoginRequest) : Prop where
  challenge : FieldNamed (fun ory p => NamedIn past (challengeKeyOf t ory) p) oauth2.challenge oauth2'.challenge
  clientId : FieldNamed (MappedIn past t .hydra) oauth2.clientId oauth2'.clientId
  subject : FieldNamed (MappedIn past t .kratos) oauth2.subject oauth2'.subject
  client : Option.Rel (fun client client' => ClientNamed past t (move client) client') oauth2.client oauth2'.client

/-- The schema that is shown: the default one of the tenant, or none. -/
def SchemaShown (past : List (Reply FlowSig)) (t schemaId : String) : Prop :=
  schemaId = "" ∨ ∃ schema, schemaId = schema.schemaId ∧
    FlowOp.reply (.gateway (.directory (.getDefaultSchema t))) (.ok schema) ∈ past

/-- A flow with the gateway's names and URLs. -/
structure FlowNamed (state : IdentitySelfService) (past : List (Reply FlowSig)) (t : String)
    (flow flow' : FlowAnswer) : Prop where
  id : FieldNamed (fun ory p => NamedIn past (flowKeyOf t ory) p) flow.id flow'.id
  requestUrl : UrlNamed state.urls past t (rewriteGatewayFacingUrl state flow.requestUrl) flow'.requestUrl
  ui : Option.Rel (UiNamed fun url => UrlNamed state.urls past t (rewriteGatewayFacingUrl state url))
    flow.ui flow'.ui
  returnTo : flow'.returnTo = rewriteAppUrl state flow.returnTo
  redirectBrowserTo : flow'.redirectBrowserTo = flow.redirectBrowserTo
  oauth2 : Option.Rel (OAuth2Named (rewriteClient state) past t) flow.oauth2LoginRequest flow'.oauth2LoginRequest
  schema : SchemaShown past t flow'.identitySchemaId

section mono

variable {past past' : List (Reply FlowSig)} {t : String}

theorem NamedIn.mono {K : TransientKey} {p : String} (hsub : past ⊆ past') (h : NamedIn past K p) :
    NamedIn past' K p := by
  obtain ⟨e, he⟩ := h
  exact ⟨e, hsub he⟩

theorem FieldNamed.mono {named named' : String → String → Prop} {field field' : String}
    (hnamed : named field field' → named' field field') (h : FieldNamed named field field') :
    FieldNamed named' field field' := by
  unfold FieldNamed at h ⊢
  split
  · simpa [*] using h
  · simp only [*, if_false] at h
    exact hnamed h

theorem PairNamed.mono {pair pair' : String × String} (hsub : past ⊆ past') (h : PairNamed past t pair pair') :
    PairNamed past' t pair pair' := by
  obtain ⟨hkey, hvalue⟩ := h
  refine ⟨hkey, ?_⟩
  split
  · simp only [*, if_true] at hvalue
    exact hvalue.mono hsub
  · simpa [*] using hvalue

theorem UrlNamed.mono {urls : UrlLibrary} {value value' : String} (hsub : past ⊆ past')
    (h : UrlNamed urls past t value value') : UrlNamed urls past' t value value' where
  pairs url hurl := (h.pairs url hurl).imp fun _ _ => PairNamed.mono hsub
  form := h.form
  untouched := h.untouched

theorem NodeNamed.mono {named named' : String → String → Prop}
    (hnamed : ∀ u u', named u u' → named' u u') :
    ∀ {node node' : Option UiNodeAttributes}, NodeNamed named node node' → NodeNamed named' node node'
  | some (.input _), some (.input _), h => hnamed _ _ h
  | some .text, some .text, h => h
  | some (.anchor _), some (.anchor _), h => hnamed _ _ h
  | some (.image _), some (.image _), h => hnamed _ _ h
  | some (.script _), some (.script _), h => hnamed _ _ h
  | none, none, h => h

theorem UiNamed.mono {named named' : String → String → Prop} (hnamed : ∀ u u', named u u' → named' u u')
    {ui ui' : UiContainer} (h : UiNamed named ui ui') : UiNamed named' ui ui' :=
  ⟨hnamed _ _ h.action, h.nodes.imp fun _ _ => NodeNamed.mono hnamed⟩

theorem option_rel_imp {α β : Type} {r r' : α → β → Prop} (hr : ∀ a b, r a b → r' a b) {a : Option α}
    {b : Option β} (h : Option.Rel r a b) : Option.Rel r' a b := by
  cases h with
  | some h => exact .some (hr _ _ h)
  | none => exact .none

theorem option_rel_map {α β γ : Type} {r : α → β → Prop} {r' : α → γ → Prop} {g : β → γ}
    (hr : ∀ a b, r a b → r' a (g b)) {a : Option α} {b : Option β} (h : Option.Rel r a b) :
    Option.Rel r' a (b.map g) := by
  cases h with
  | some h => exact .some (hr _ _ h)
  | none => exact .none

theorem ClientNamed.mono {client client' : FlowClient} (hsub : past ⊆ past')
    (h : ClientNamed past t client client') : ClientNamed past' t client client' :=
  ⟨h.1.mono fun hmapped => hsub hmapped, h.2⟩

theorem OAuth2Named.mono {move : FlowClient → FlowClient} {oauth2 oauth2' : OAuth2LoginRequest}
    (hsub : past ⊆ past') (h : OAuth2Named move past t oauth2 oauth2') :
    OAuth2Named move past' t oauth2 oauth2' where
  challenge := h.challenge.mono (NamedIn.mono hsub)
  clientId := h.clientId.mono fun hmapped => hsub hmapped
  subject := h.subject.mono fun hmapped => hsub hmapped
  client := option_rel_imp (fun _ _ => ClientNamed.mono hsub) h.client

theorem SchemaShown.mono {schemaId : String} (hsub : past ⊆ past') (h : SchemaShown past t schemaId) :
    SchemaShown past' t schemaId :=
  h.imp id fun ⟨schema, hid, hmem⟩ => ⟨schema, hid, hsub hmem⟩

end mono

/-! ## One request -/

/-- The public id a request presents, and its tenant. -/
def FlowRequest.presented : FlowRequest → Option (String × String)
  | .getFlow ctx _ id => some (ctx.tenantId, id)
  | .submitFlow ctx _ id _ => some (ctx.tenantId, id)
  | .submitToken ctx _ _ flow => some (ctx.tenantId, flow)
  | .getFlowError ctx id => some (ctx.tenantId, id)
  | _ => none

/-- A public id was resolved. -/
def ResolvedIn (past : List (Reply FlowSig)) (t p oryFlowId : String) : Prop :=
  FlowOp.reply (.gateway (.getOryToken t .kratos "flow" p)) (.ok oryFlowId) ∈ past ∨
  FlowOp.reply (.transient (.getOryToken t .kratos "flow" p)) (.ok oryFlowId) ∈ past ∨
  ∃ t', FlowOp.reply (.gateway (.getOryTokenGlobal .kratos "flow" p)) (.ok (t', oryFlowId)) ∈ past

/-- The call submits a flow. -/
def FlowCall.submits : FlowCall → Bool
  | .submitFlow _ _ _ _ => true
  | _ => false

/-- Nothing was submitted. -/
def Unsubmitted (past : List (Reply FlowSig)) : Prop :=
  ∀ r ∈ past, ∀ call, r.1 = .kratos call → call.submits = false

/-- The calls of a request: Kratos is asked about a flow that the presented id was resolved to, a submission is
made once, and no name is taken away. -/
def FlowPromise (request : FlowRequest) : FlowOp → List (Reply FlowSig) → Prop
  | .kratos call, past => (call.submits = true → Unsubmitted past) ∧
      ∀ oryFlowId, call.flowId = some oryFlowId →
        ∃ t p, request.presented = some (t, p) ∧ ResolvedIn past t p oryFlowId
  | .transient (.delete _ _), _ => False
  | _, _ => True

section request

variable {state : IdentitySelfService} {request : FlowRequest} {past : List (Reply FlowSig)} {t : String}

/-- A reply of the gateway's other services. -/
def gatewayReply (r : Reply Gateway) : Reply FlowSig := ⟨.gateway r.1, r.2⟩

/-- A step of the gateway's other services. -/
theorem adds_onGateway {α : Type} {x : Service α} {R : α → List (Reply Gateway) → Prop}
    (hx : x.run.Sat (scripted Gateway) (Answering fun _ _ => True) (Prog.OnOk R) []) :
    Prog.Adds (FlowPromise request)
      (fun a past' => ∃ replies, R a replies ∧ replies.map gatewayReply ⊆ past') (onGateway x) past := by
  refine (Prog.answering_translate gatewayReply ?_ hx).post fun r past' hr => ?_
  · intro op Q past hQ past' hsame answers _
    subst hsame
    exact ⟨trivial, hQ fun op => answers (.gateway op)⟩
  · obtain ⟨replies, rfl, hR⟩ := hr
    cases r with
    | error e => trivial
    | ok a =>
        rw [List.append_nil] at hR
        exact ⟨List.subset_append_right _ _, replies, hR, List.subset_append_left _ _⟩

/-- It submits nothing. -/
theorem unsubmitted_onGateway {α : Type} (x : Service α) (hpast : Unsubmitted past) :
    (onGateway x).run.Sat (scripted FlowSig) (Answering (FlowPromise request)) (fun _ past' => Unsubmitted past')
      past := by
  have hany : x.run.Sat (scripted Gateway) (Answering fun _ _ => True) (fun _ _ => True) [] :=
    Prog.sat_true fun _ _ _ => trivial
  refine (Prog.answering_translate gatewayReply ?_ hany).post fun r past' hr => ?_
  · intro op Q past hQ past' hsame answers _
    subst hsame
    exact ⟨trivial, hQ fun op => answers (.gateway op)⟩
  · obtain ⟨replies, rfl, -⟩ := hr
    intro reply hreply call hcall
    rcases List.mem_append.mp hreply with hlifted | hearlier
    · obtain ⟨own, -, rfl⟩ := List.mem_map.mp hlifted
      cases hcall
    · exact hpast reply hearlier call hcall

/-- A step of which nothing is known. -/
theorem adds_onGateway_true {α : Type} (x : Service α) :
    Prog.Adds (FlowPromise request) (fun _ _ => True) (onGateway x) past :=
  (adds_onGateway (Prog.onOk_true fun _ _ _ => trivial)).mono fun _ _ _ _ => trivial

/-- The flow of a name. -/
theorem adds_resolveFlow (p : String) : Prog.Adds (FlowPromise request)
    (fun oryFlowId past' => ResolvedIn past' t p oryFlowId) (onGateway (resolveFlow t p)) past := by
  have hresolve : (resolveFlow t p).run.Sat (scripted Gateway) (Answering fun _ _ => True)
      (Prog.OnOk fun oryFlowId replies =>
        (⟨.getOryToken t .kratos "flow" p, (.ok oryFlowId : Except DbError String)⟩ : Reply Gateway) ∈
          replies ∨
        ∃ t', (⟨.getOryTokenGlobal .kratos "flow" p,
          (.ok (t', oryFlowId) : Except DbError (String × String))⟩ : Reply Gateway) ∈ replies) [] := by
    unfold resolveFlow
    refine Prog.sat_run_bind.mpr (Prog.sat_run_mk.mpr ?_)
    cases refuseIf (p = "") (.invalidArgument "flow id is required") with
    | error e => trivial
    | ok u =>
    refine Prog.sat_run_bind.mpr (Prog.sat_run_attempt.mpr (Prog.answering_perform trivial fun r => ?_))
    cases r with
    | ok oryFlowId => exact .inl List.mem_cons_self
    | error err =>
        cases err with
        | mappingNotFound =>
            refine Prog.sat_run_bind.mpr (Prog.sat_run_orThrow.mpr (Prog.answering_perform trivial fun r => ?_))
            cases r with
            | error e => trivial
            | ok found => exact .inr ⟨found.1, List.mem_cons_self⟩
        | _ => trivial
  refine (adds_onGateway hresolve).mono fun oryFlowId past' _ h => ?_
  obtain ⟨replies, hlookup | ⟨t', hglobal⟩, hsub⟩ := h
  · exact .inl (hsub (List.mem_map.mpr ⟨_, hlookup, rfl⟩))
  · exact .inr (.inr ⟨t', hsub (List.mem_map.mpr ⟨_, hglobal, rfl⟩)⟩)

/-- The name of a token. -/
theorem adds_publicToken (K : TransientKey) : Prog.Adds (FlowPromise request)
    (fun p past' => NamedIn past' K p) (publicToken K) past := by
  unfold publicToken transientExpiry
  refine Prog.adds_bind (R := fun _ _ => True) (Prog.adds_attempt ?_) fun e past' _ _ => ?_
  · refine Prog.sat_bind.mpr (Prog.answering_perform trivial fun now => ?_)
    exact ⟨List.subset_cons_self _ _, trivial⟩
  · refine Prog.adds_orThrow (Prog.answering_perform trivial fun r => ?_)
    cases r with
    | error e => trivial
    | ok p => exact ⟨List.subset_cons_self _ _, e, List.mem_cons_self⟩

/-- A public id. -/
theorem adds_mappedId (backend : Backend) (oryId : String) : Prog.Adds (FlowPromise request)
    (fun p past' => MappedIn past' t backend oryId p) (mappedId t backend oryId) past := by
  refine Prog.adds_orThrow (Prog.answering_perform trivial fun r => ?_)
  cases r with
  | error e => trivial
  | ok p => exact ⟨List.subset_cons_self _ _, List.mem_cons_self⟩

/-- A field that may be empty. -/
theorem adds_renamedBy (named : List (Reply FlowSig) → String → String → Prop)
    {rename : String → FlowService String} (field : String)
    (hrename : Prog.Adds (FlowPromise request) (fun p past' => named past' field p) (rename field) past) :
    Prog.Adds (FlowPromise request)
    (fun p past' => FieldNamed (named past') field p) (renamedBy rename field) past := by
  unfold renamedBy FieldNamed
  split
  · exact Prog.adds_pure rfl
  · exact hrename

theorem adds_publicFlow (oryFlowId : String) : Prog.Adds (FlowPromise request)
    (fun p past' => FieldNamed (fun ory p => NamedIn past' (flowKeyOf t ory) p) oryFlowId p)
    (publicFlow t oryFlowId) past := by
  unfold publicFlow FieldNamed
  split
  · exact Prog.adds_pure rfl
  · exact adds_publicToken _

/-! ### URLs -/

theorem adds_scrubPair (pair : String × String) : Prog.Adds (FlowPromise request)
    (fun pair' past' => PairNamed past' t pair pair') (scrubPair t pair) past := by
  unfold scrubPair
  split
  · rename_i hflow
    refine Prog.adds_bind (adds_publicToken _) fun p past' _ hp => Prog.adds_pure ⟨rfl, ?_⟩
    rw [if_pos hflow]
    exact hp
  · rename_i hflow
    refine Prog.adds_pure ⟨rfl, ?_⟩
    rw [if_neg hflow]

theorem adds_scrubPairs (pairs : List (String × String)) : Prog.Adds (FlowPromise request)
    (fun pairs' past' => List.Forall₂ (PairNamed past' t) pairs pairs') (scrubPairs t pairs) past := by
  induction pairs generalizing past with
  | nil => exact Prog.adds_pure .nil
  | cons pair pairs ih =>
      refine Prog.adds_bind (adds_scrubPair pair) fun pair' past₁ _ hpair => ?_
      refine Prog.adds_bind ih fun pairs' past₂ hsub hpairs => Prog.adds_pure ?_
      exact .cons (hpair.mono hsub) hpairs

/-- A parameter that names no flow is as it should be. -/
theorem pairNamed_refl {pair : String × String} (h : isFlowPair pair = false) : PairNamed past t pair pair :=
  ⟨rfl, by simp [h]⟩

/-- **The names of a URL.** -/
theorem adds_scrubFlowIdInUrl (urls : UrlLibrary) (value : String) (strict : Bool) :
    Prog.Adds (FlowPromise request) (fun value' past' => UrlNamed urls past' t value value')
      (scrubFlowIdInUrl urls t value strict) past := by
  unfold scrubFlowIdInUrl
  cases hparse : urls.parse value with
  | none =>
      dsimp only
      split
      · exact Prog.adds_throw
      · exact Prog.adds_pure ⟨fun url h => absurd (hparse.symm.trans h) (by simp), .inl rfl, fun _ => rfl⟩
  | some url =>
      have hpairs := urls.pairs_of_parse value url hparse
      dsimp only
      split
      · rename_i hany
        refine Prog.adds_bind (adds_scrubPairs _) fun pairs' past' _ hscrubbed => Prog.adds_pure ?_
        rw [hpairs] at hscrubbed hany
        refine ⟨fun _ _ => ?_, .inr ⟨url, pairs', hparse, rfl⟩, fun hnone => ?_⟩
        · rw [urls.pairs_of_text value url pairs' hparse]
          exact hscrubbed
        · obtain ⟨pair, hpair, hflow⟩ := List.any_eq_true.mp hany
          rw [hnone pair hpair] at hflow
          cases hflow
      · rename_i hany
        refine Prog.adds_pure ⟨fun _ _ => ?_, .inl rfl, fun _ => rfl⟩
        rw [hpairs, Bool.not_eq_true, List.any_eq_false] at hany
        refine List.forall₂_same.mpr fun pair hpair => pairNamed_refl ?_
        simpa using hany pair hpair

/-! ### Flows -/

theorem adds_mapPart {α β : Type} {R : List (Reply FlowSig) → α → β → Prop} {f : α → FlowService β}
    (a : Option α) (hf : ∀ a, Prog.Adds (FlowPromise request) (fun b past' => R past' a b) (f a) past) :
    Prog.Adds (FlowPromise request) (fun b past' => Option.Rel (R past') a b) (mapPart f a) past := by
  cases a with
  | none => exact Prog.adds_pure .none
  | some a => exact Prog.adds_map ((hf a).mono fun b _ _ hb => .some hb)

theorem adds_mapFlowClient (client : Option FlowClient) : Prog.Adds (FlowPromise request)
    (fun client' past' => Option.Rel (ClientNamed past' t) client client') (mapFlowClient t client) past := by
  cases client with
  | none => exact Prog.adds_pure .none
  | some client =>
      refine Prog.adds_bind (adds_renamedBy (fun past' => MappedIn past' t .hydra) _
        (adds_mappedId .hydra _)) fun clientId past' _ hid => Prog.adds_pure (.some ⟨hid, rfl⟩)

theorem adds_mapOauth2LoginRequest (oauth2 : OAuth2LoginRequest) : Prog.Adds (FlowPromise request)
    (fun oauth2' past' => OAuth2Named (fun client => client) past' t oauth2 oauth2')
    (mapOauth2LoginRequest t oauth2) past := by
  refine Prog.adds_bind (adds_renamedBy (fun past' ory p => NamedIn past' (challengeKeyOf t ory) p) _
    (adds_publicToken _)) fun challenge past₁ _ hchallenge => ?_
  refine Prog.adds_bind (adds_renamedBy (fun past' => MappedIn past' t .hydra) _
    (adds_mappedId .hydra _)) fun clientId past₂ hsub₂ hclientId => ?_
  refine Prog.adds_bind (adds_renamedBy (fun past' => MappedIn past' t .kratos) _
    (adds_mappedId .kratos _)) fun subject past₃ hsub₃ hsubject => ?_
  refine Prog.adds_bind (adds_mapFlowClient oauth2.client) fun client past₄ hsub₄ hclient => ?_
  refine Prog.adds_pure ⟨?_, ?_, ?_, hclient⟩
  · exact hchallenge.mono (NamedIn.mono (List.Subset.trans hsub₂ (List.Subset.trans hsub₃ hsub₄)))
  · exact hclientId.mono fun h => hsub₄ (hsub₃ h)
  · exact hsubject.mono fun h => hsub₄ h

theorem adds_mapIdentitySchemaId (schemaId : String) : Prog.Adds (FlowPromise request)
    (fun schemaId' past' => SchemaShown past' t schemaId') (mapIdentitySchemaId t schemaId) past := by
  unfold mapIdentitySchemaId
  split
  · exact Prog.adds_pure (.inl rfl)
  · refine Prog.adds_bind (R := fun r past' => ∀ schema, r = .ok schema →
      FlowOp.reply (.gateway (.directory (.getDefaultSchema t))) (.ok schema) ∈ past')
      (Prog.adds_perform trivial fun r schema hr => ?_) fun r past' _ hr => ?_
    · subst hr
      exact List.mem_cons_self
    · cases r with
      | ok schema => exact Prog.adds_pure (.inr ⟨schema, rfl, hr schema rfl⟩)
      | error e => exact Prog.adds_pure (.inl rfl)

/-- A flow with the gateway's names, its URLs still Kratos' own. -/
structure IdsNamed (past : List (Reply FlowSig)) (t : String) (flow flow' : FlowAnswer) : Prop where
  id : FieldNamed (fun ory p => NamedIn past (flowKeyOf t ory) p) flow.id flow'.id
  oauth2 : Option.Rel (OAuth2Named (fun client => client) past t) flow.oauth2LoginRequest flow'.oauth2LoginRequest
  schema : SchemaShown past t flow'.identitySchemaId
  rest : flow' = { flow with id := flow'.id, identitySchemaId := flow'.identitySchemaId,
                             oauth2LoginRequest := flow'.oauth2LoginRequest }

theorem adds_mapFlowResponse (flow : FlowAnswer) : Prog.Adds (FlowPromise request)
    (fun flow' past' => IdsNamed past' t flow flow') (mapFlowResponse t flow) past := by
  refine Prog.adds_bind (adds_publicFlow flow.id) fun id past₁ _ hid => ?_
  refine Prog.adds_bind (adds_mapIdentitySchemaId flow.identitySchemaId) fun schemaId past₂ hsub₂ hschema => ?_
  refine Prog.adds_bind (adds_mapPart flow.oauth2LoginRequest adds_mapOauth2LoginRequest)
    fun oauth2 past₃ hsub₃ hoauth2 => ?_
  refine Prog.adds_pure ⟨?_, hoauth2, hschema.mono hsub₃, rfl⟩
  exact hid.mono (NamedIn.mono (List.Subset.trans hsub₂ hsub₃))

/-- The names of a URL that is moved to the gateway. -/
abbrev MovedUrl (state : IdentitySelfService) (past : List (Reply FlowSig)) (t url url' : String) : Prop :=
  UrlNamed state.urls past t (rewriteGatewayFacingUrl state url) url'

theorem adds_rewriteAndScrubFlowUrl (url : String) : Prog.Adds (FlowPromise request)
    (fun url' past' => MovedUrl state past' t url url') (rewriteAndScrubFlowUrl state t url) past :=
  adds_scrubFlowIdInUrl state.urls _ false

theorem adds_rewriteNode (node : Option UiNodeAttributes) : Prog.Adds (FlowPromise request)
    (fun node' past' => NodeNamed (MovedUrl state past' t) node node') (rewriteNode state t node) past := by
  match node with
  | none => exact Prog.adds_pure trivial
  | some .text => exact Prog.adds_pure trivial
  | some (.input src) => exact Prog.adds_map (adds_rewriteAndScrubFlowUrl src)
  | some (.anchor href) => exact Prog.adds_map (adds_rewriteAndScrubFlowUrl href)
  | some (.image src) => exact Prog.adds_map (adds_rewriteAndScrubFlowUrl src)
  | some (.script src) => exact Prog.adds_map (adds_rewriteAndScrubFlowUrl src)

theorem adds_rewriteNodes (nodes : List (Option UiNodeAttributes)) : Prog.Adds (FlowPromise request)
    (fun nodes' past' => List.Forall₂ (NodeNamed (MovedUrl state past' t)) nodes nodes')
    (rewriteNodes state t nodes) past := by
  induction nodes generalizing past with
  | nil => exact Prog.adds_pure .nil
  | cons node nodes ih =>
      refine Prog.adds_bind (adds_rewriteNode node) fun node' past₁ _ hnode => ?_
      refine Prog.adds_bind ih fun nodes' past₂ hsub hnodes => Prog.adds_pure ?_
      exact .cons (hnode.mono fun _ _ => UrlNamed.mono hsub) hnodes

theorem adds_rewriteUi (ui : UiContainer) : Prog.Adds (FlowPromise request)
    (fun ui' past' => UiNamed (MovedUrl state past' t) ui ui') (rewriteUi state t ui) past := by
  refine Prog.adds_bind (adds_rewriteAndScrubFlowUrl ui.action) fun action past₁ _ haction => ?_
  refine Prog.adds_bind (adds_rewriteNodes ui.nodes) fun nodes past₂ hsub hnodes => Prog.adds_pure ?_
  exact ⟨haction.mono hsub, hnodes⟩

/-- The URLs of a client are moved with its public id in place. -/
theorem clientNamed_rewriteClient {client client' : FlowClient} (h : ClientNamed past t client client') :
    ClientNamed past t (rewriteClient state client) (rewriteClient state client') := by
  obtain ⟨hid, hsame⟩ := h
  refine ⟨hid, ?_⟩
  cases client
  cases client'
  simp only [FlowClient.mk.injEq, true_and] at hsame
  simp [rewriteClient, hsame]

theorem oauth2Named_rewriteClient {oauth2 oauth2' : OAuth2LoginRequest}
    (h : OAuth2Named (fun client => client) past t oauth2 oauth2') :
    OAuth2Named (rewriteClient state) past t oauth2
      { oauth2' with client := oauth2'.client.map (rewriteClient state) } where
  challenge := h.challenge
  clientId := h.clientId
  subject := h.subject
  client := option_rel_map (g := rewriteClient state) (fun _ _ h => clientNamed_rewriteClient h) h.client

/-- **The names of a flow.** -/
theorem adds_flowResponse (answer : KratosResponse) : Prog.Adds (FlowPromise request)
    (fun response past' => FlowNamed state past' t (oryFlowToProto answer.body) response.flow ∧
      response.setCookies = answer.setCookies) (flowResponse state t answer) past := by
  refine Prog.adds_bind (adds_mapFlowResponse (oryFlowToProto answer.body)) fun mapped past₁ _ hmapped => ?_
  refine Prog.adds_bind (R := fun flow past' => FlowNamed state past' t (oryFlowToProto answer.body) flow) ?_
    fun flow past' _ hflow => Prog.adds_pure ⟨hflow, rfl⟩
  obtain ⟨hid, hoauth2, hschema, hrest⟩ := hmapped
  generalize oryFlowToProto answer.body = flow at hid hoauth2 hschema hrest ⊢
  refine Prog.adds_bind (adds_rewriteAndScrubFlowUrl mapped.requestUrl)
    fun requestUrl past₂ hsub₂ hrequest => ?_
  refine Prog.adds_bind (adds_mapPart mapped.ui adds_rewriteUi) fun ui past₃ hsub₃ hui => Prog.adds_pure ?_
  have hsub := List.Subset.trans hsub₂ hsub₃
  rw [hrest] at hrequest hui
  refine ⟨hid.mono (NamedIn.mono hsub), hrequest.mono hsub₃, hui, ?_, ?_, ?_, hschema.mono hsub⟩
  · rw [hrest]
  · rw [hrest]
  · exact option_rel_map (fun _ _ h => oauth2Named_rewriteClient (h.mono hsub)) hoauth2

end request

end SsoGateway
