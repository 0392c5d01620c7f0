import SsoGateway.FlowErrors

/-!
# Answers about flows

What the answer to a request about a flow rests on, by the calls the request has made.

* `FlowShown`, `FlowRequest.Shown` — a flow that is shown, and any other answer.
* `shown_of_request` — so is every answer.
* `submission_answered` — and so is the error a failed submission ends with.

Source: `services/identity_self_service.rs`.
-/

namespace SsoGateway

open Lib

/-! ## What is shown -/

/-- Kratos answered with a flow. -/
def FlowAnswered (past : List (Reply FlowSig)) (answer : KratosResponse) : Prop :=
  (∃ kind query cookie, FlowOp.reply (.kratos (.createFlow kind query cookie)) (.ok answer) ∈ past) ∨
  (∃ kind flowId cookie, FlowOp.reply (.kratos (.getFlow kind flowId cookie)) (.ok answer) ∈ past) ∨
  ∃ kind flowId cookie body, FlowOp.reply (.kratos (.submitFlow kind flowId cookie body)) (.ok answer) ∈ past

/-- Kratos answered a submission with a redirect. -/
def SubmissionRedirected (past : List (Reply FlowSig)) (location : String) (setCookies : List String) : Prop :=
  ∃ kind flowId cookie body, FlowOp.reply (.kratos (.submitFlow kind flowId cookie body))
    (.error (.redirect location setCookies)) ∈ past

/-- Hydra accepted the login of a session. -/
def LoginGranted (state : IdentitySelfService) (past : List (Reply FlowSig)) (flow : SelfServiceFlow) : Prop :=
  ∃ challenge body accept, loginFlow ⟨state.hydraPublicUrl, state.gatewayPublicUrl⟩ accept = .ok flow ∧
    FlowOp.reply (.gateway (.hydra (.acceptLoginRequest challenge body))) (.ok accept) ∈ past

/-- What a flow that is shown comes from: a flow of Kratos, with the gateway's names; a redirect of Kratos, with
the names in it; or a login that Hydra accepted. -/
inductive FlowShown (state : IdentitySelfService) (past : List (Reply FlowSig)) (t : String) :
    FlowResponse → Prop where
  | mapped {answer : KratosResponse} {response : FlowResponse} (answered : FlowAnswered past answer)
      (named : FlowNamed state past t (oryFlowToProto answer.body) response.flow)
      (cookies : response.setCookies = answer.setCookies) : FlowShown state past t response
  | redirected {location scrubbed : String} {setCookies : List String}
      (answered : SubmissionRedirected past location setCookies)
      (named : MovedUrl state past t location scrubbed) :
      FlowShown state past t ⟨.ofRedirect ⟨rewriteHydraUrl state scrubbed⟩, setCookies⟩
  | accepted {flow : SelfServiceFlow} (answered : LoginGranted state past flow) :
      FlowShown state past t ⟨.ofRedirect flow, []⟩

/-- What the answer to a request rests on. -/
def FlowRequest.Shown (state : IdentitySelfService) (past : List (Reply FlowSig)) :
    FlowRequest → FlowReply → Prop
  | .createLoginFlow ctx _, .flow response => FlowShown state past ctx.tenantId response
  | .createRegistrationFlow ctx _, .flow response => FlowShown state past ctx.tenantId response
  | .createFlow ctx _ _, .flow response => FlowShown state past ctx.tenantId response
  | .getFlow ctx _ _, .flow response => FlowShown state past ctx.tenantId response
  | .submitFlow ctx _ _ _, .flow response => FlowShown state past ctx.tenantId response
  | .submitToken ctx kind _ _, .redirect location setCookies => ∃ token flowId ory,
      FlowOp.reply (.kratos (.submitToken kind token flowId ctx.cookie ctx.csrfToken))
        (.ok ⟨some ory, setCookies⟩) ∈ past ∧ MovedUrl state past ctx.tenantId ory location
  | .createLogoutFlow ctx returnTo, .logout flow setCookies => ∃ body,
      FlowOp.reply (.kratos (.createLogoutFlow (returnToOf returnTo) ctx.cookie))
        (.ok ⟨body, setCookies⟩) ∈ past ∧ flow.id = jsonStr body "id" ∧
      flow.logoutUrl = rewriteGatewayFacingUrl state (jsonStr body "logout_url") ∧
      FieldNamed (fun ory p => NamedIn past (logoutKeyOf ctx.tenantId ory) p) (jsonStr body "logout_token")
        flow.logoutToken
  | .submitLogoutFlow _ _ _, .done => True
  | .getFlowError ctx _, .error id => ∃ error oryErrorId,
      FlowOp.reply (.kratos (.getFlowError oryErrorId)) (.ok error) ∈ past ∧
      FieldNamed (fun ory p => NamedIn past (flowKeyOf ctx.tenantId ory) p) (jsonStr error "id") id
  | .relayLocation location, .redirect location' setCookies => setCookies = [] ∧
      MovedUrl state past state.systemTenantId location location'
  | _, _ => False

/-! ## The requests -/

section request

variable {state : IdentitySelfService} {request : FlowRequest} {past : List (Reply FlowSig)} {t : String}

theorem adds_scrubRedirect (location : String) : Prog.Adds (FlowPromise request)
    (fun redirectTo past' => MovedUrl state past' t location redirectTo) (scrubRedirect state t location) past :=
  adds_scrubFlowIdInUrl state.urls _ true

theorem adds_createBrowserFlow (ctx : SelfServiceContext) (kind : FlowKind) (query : List (String × String)) :
    Prog.Adds (FlowPromise request) (fun response past' => FlowShown state past' ctx.tenantId response)
      (createBrowserFlow state ctx kind query) past := by
  refine Prog.adds_bind (R := fun answer past' =>
    FlowOp.reply (.kratos (.createFlow kind query ctx.cookie)) (.ok answer) ∈ past')
    (Prog.adds_orThrow (Prog.answering_perform ?_ fun r => ?_)) fun answer past' _ hanswer => ?_
  · exact ⟨fun h => (by cases h), fun oryFlowId h => (by cases h)⟩
  · cases r with
    | error e => trivial
    | ok answer => exact ⟨List.subset_cons_self _ _, List.mem_cons_self⟩
  · refine (adds_flowResponse answer).mono fun response past'' hsub h => ?_
    exact .mapped (.inl ⟨kind, query, ctx.cookie, hsub hanswer⟩) h.1 h.2

theorem adds_resolveLoginChallenge (challenge : String) : Prog.Adds (FlowPromise request) (fun _ _ => True)
    (resolveLoginChallenge t challenge) past := by
  refine Prog.adds_bind (R := fun _ _ => True) (Prog.adds_perform trivial fun _ => trivial) fun r past' _ _ => ?_
  cases r with
  | ok ory => exact Prog.adds_pure trivial
  | error err =>
      cases err with
      | mappingNotFound => exact Prog.adds_pure trivial
      | _ => exact Prog.adds_throw

variable (state) in
/-- A login that Hydra accepts. -/
theorem adds_acceptSkippableLogin (challenge : String) (cookie : Option String) :
    Prog.Adds (FlowPromise request) (fun flow past' => ∀ f ∈ flow, LoginGranted state past' f) (onGateway
      (acceptSkippableLogin ⟨state.hydraPublicUrl, state.gatewayPublicUrl⟩ t challenge cookie)) past := by
  unfold LoginGranted
  generalize (⟨state.hydraPublicUrl, state.gatewayPublicUrl⟩ : SelfServiceConfig) = cfg
  have haccept : (acceptSkippableLogin cfg t challenge cookie).run.Sat (scripted Gateway)
      (Answering fun _ _ => True) (Prog.OnOk fun flow replies => ∀ f ∈ flow,
        ∃ challenge body accept, loginFlow cfg accept = .ok f ∧
          (⟨.hydra (.acceptLoginRequest challenge body), (.ok accept : Except OryClientError Value)⟩ :
            Reply Gateway) ∈ replies) [] := by
    unfold acceptSkippableLogin
    refine Prog.sat_run_bind.mpr (Prog.sat_run_attempt.mpr (Prog.answering_perform trivial fun r => ?_))
    cases r with
    | error e => intro f hf; cases hf
    | ok loginRequest =>
    cases cookie with
    | none => intro f hf; cases hf
    | some cookie =>
    refine Prog.sat_run_bind.mpr (Prog.sat_run_attempt.mpr (Prog.answering_perform trivial fun r => ?_))
    cases r with
    | error e => intro f hf; cases hf
    | ok session =>
    dsimp only
    unfold acceptWithSession
    cases sessionSubject session with
    | none => intro f hf; cases hf
    | some subject =>
    refine Prog.sat_run_ite.mpr ?_
    split
    · intro f hf
      cases hf
    refine Prog.onOk_run_bind (P := fun _ _ => True) (Prog.onOk_true fun _ _ _ => trivial)
      fun verdict past' _ => ?_
    refine Prog.sat_run_bind.mpr (Prog.sat_run_orThrow.mpr (Prog.answering_perform trivial fun r => ?_))
    cases r with
    | error e => trivial
    | ok accept =>
    refine Prog.sat_run_bind.mpr (Prog.sat_run_mk.mpr ?_)
    cases hflow : loginFlow cfg accept with
    | error e => trivial
    | ok flow =>
    intro f hf
    obtain rfl := Option.some.inj hf
    exact ⟨_, _, accept, hflow, List.mem_cons_self⟩
  refine (adds_onGateway haccept).mono fun flow past' _ h f hf => ?_
  obtain ⟨replies, hreplies, hsub⟩ := h
  obtain ⟨challenge, body, accept, hflow, hmem⟩ := hreplies f hf
  exact ⟨challenge, body, accept, hflow, hsub (List.mem_map.mpr ⟨_, hmem, rfl⟩)⟩

/-- Whatever was submitted, an error that is passed on is no success. -/
theorem adds_mapSubmitError {α : Type} {R : α → List (Reply FlowSig) → Prop} (err : OryClientError) :
    Prog.Adds (FlowPromise request) R (mapSubmitError state t err : FlowService α) past :=
  Prog.adds_bind (R := fun _ _ => True)
    (Prog.adds_attempt ((Prog.answering_grows (sat_scrubFlowIdInErrorBody err)).post
      fun _ _ h => ⟨h.1, trivial⟩)) fun _ _ _ _ => Prog.adds_throw

/-- The answer to a submission. -/
theorem adds_mapSubmitResponse {kind : FlowKind} {flowId : String} {cookie : Option String} {body : Value}
    {result : Except OryClientError KratosResponse}
    (hresult : FlowOp.reply (.kratos (.submitFlow kind flowId cookie body)) result ∈ past) :
    Prog.Adds (FlowPromise request) (fun response past' => FlowShown state past' t response)
      (mapSubmitResponse state t result) past := by
  unfold mapSubmitResponse
  split
  · rename_i answer
    refine (adds_flowResponse answer).mono fun response past' hsub h => ?_
    exact .mapped (.inr (.inr ⟨kind, flowId, cookie, body, hsub hresult⟩)) h.1 h.2
  · rename_i location setCookies
    refine Prog.adds_bind (adds_scrubRedirect location) fun scrubbed past' hsub hscrubbed => Prog.adds_pure ?_
    exact .redirected ⟨kind, flowId, cookie, body, hsub hresult⟩ hscrubbed
  · exact adds_mapSubmitError _

/-- The flow that a presented id was resolved to is asked about. -/
theorem promise_of_resolved {call : FlowCall} {p oryFlowId : String} (hpresented : request.presented = some (t, p))
    (hresolved : ResolvedIn past t p oryFlowId) (hcall : call.flowId = some oryFlowId) :
    ∀ ory, call.flowId = some ory → ∃ t p, request.presented = some (t, p) ∧ ResolvedIn past t p ory := by
  intro ory hory
  obtain rfl := Option.some.inj (hcall.symm.trans hory)
  exact ⟨t, p, hpresented, hresolved⟩

theorem ResolvedIn.mono {past' : List (Reply FlowSig)} {p oryFlowId : String} (hsub : past ⊆ past')
    (h : ResolvedIn past t p oryFlowId) : ResolvedIn past' t p oryFlowId := by
  rcases h with h | h | ⟨t', h⟩
  · exact .inl (hsub h)
  · exact .inr (.inl (hsub h))
  · exact .inr (.inr ⟨t', hsub h⟩)

theorem adds_createLoginFlow (ctx : SelfServiceContext) (req : CreateLoginFlowRequest) :
    Prog.Adds (FlowPromise request) (fun response past' => FlowShown state past' ctx.tenantId response)
      (createLoginFlow state ctx req) past := by
  unfold createLoginFlow
  dsimp only
  split
  · exact adds_createBrowserFlow ctx .login _
  · refine Prog.adds_bind (adds_resolveLoginChallenge req.loginChallenge) fun challenge past₁ _ _ => ?_
    refine Prog.adds_bind (adds_acceptSkippableLogin state challenge ctx.cookie) fun flow past₂ _ hflow => ?_
    cases flow with
    | none => exact adds_createBrowserFlow ctx .login _
    | some flow => exact Prog.adds_pure (.accepted (hflow flow rfl))

theorem adds_createRegistrationFlow (ctx : SelfServiceContext) (req : CreateRegistrationFlowRequest) :
    Prog.Adds (FlowPromise request) (fun response past' => FlowShown state past' ctx.tenantId response)
      (createRegistrationFlow state ctx req) past := by
  unfold createRegistrationFlow
  split
  · exact adds_createBrowserFlow ctx .registration _
  · refine Prog.adds_bind (adds_resolveLoginChallenge req.loginChallenge) fun challenge past₁ _ _ => ?_
    exact adds_createBrowserFlow ctx .registration _

theorem adds_getFlow {ctx : SelfServiceContext} {kind : FlowKind} {id : String}
    (hpresented : request.presented = some (ctx.tenantId, id)) : Prog.Adds (FlowPromise request)
    (fun response past' => FlowShown state past' ctx.tenantId response) (getFlow state ctx kind id) past := by
  refine Prog.adds_bind (adds_resolveFlow id) fun oryFlowId past₁ _ hresolved => ?_
  refine Prog.adds_bind (R := fun answer past' =>
    FlowOp.reply (.kratos (.getFlow kind oryFlowId ctx.cookie)) (.ok answer) ∈ past')
    (Prog.adds_orThrow (Prog.answering_perform ?_ fun r => ?_)) fun answer past₂ _ hanswer => ?_
  · exact ⟨fun h => (by cases h), promise_of_resolved hpresented hresolved rfl⟩
  · cases r with
    | error e => trivial
    | ok answer => exact ⟨List.subset_cons_self _ _, List.mem_cons_self⟩
  · refine (adds_flowResponse answer).mono fun response past' hsub h => ?_
    exact .mapped (.inr (.inl ⟨kind, oryFlowId, ctx.cookie, hsub hanswer⟩)) h.1 h.2

/-- What is submitted. -/
theorem adds_submittedBody (ctx : SelfServiceContext) (body : Value) (kind : FlowKind) (hpast : Unsubmitted past) :
    Prog.Adds (FlowPromise request) (fun _ past' => Unsubmitted past') (submittedBody state ctx body kind)
      past := by
  cases kind with
  | settings =>
      have hadds : Prog.Adds (FlowPromise request) (fun _ _ => True) (onGateway
        (interceptSettingsProfile state.compile ctx.tenantId ctx.cookie body)) past := adds_onGateway_true _
      refine (Prog.Sat.and hadds (unsubmitted_onGateway _ hpast)).post fun r past' hr => ?_
      cases r with
      | ok sent => exact ⟨hr.1.1, hr.2⟩
      | error e => trivial
  | _ => exact Prog.adds_pure hpast

theorem adds_afterSubmission (ctx : SelfServiceContext) (result : Except OryClientError KratosResponse)
    (kind : FlowKind) : Prog.Adds (FlowPromise request) (fun _ _ => True) (afterSubmission state ctx result kind)
    past := by
  cases kind with
  | registration => exact adds_onGateway_true _
  | _ => exact Prog.adds_pure trivial

/-- The flow of a name, before anything is submitted. -/
theorem adds_resolveFlow_unsubmitted (p : String) (hpast : Unsubmitted past) : Prog.Adds (FlowPromise request)
    (fun oryFlowId past' => ResolvedIn past' t p oryFlowId ∧ Unsubmitted past') (onGateway (resolveFlow t p))
    past := by
  have hadds : Prog.Adds (FlowPromise request) (fun oryFlowId past' => ResolvedIn past' t p oryFlowId)
    (onGateway (resolveFlow t p)) past := adds_resolveFlow p
  refine (Prog.Sat.and hadds (unsubmitted_onGateway _ hpast)).post fun r past' hr => ?_
  cases r with
  | ok oryFlowId => exact ⟨hr.1.1, hr.1.2, hr.2⟩
  | error e => trivial

theorem adds_submitFlow {ctx : SelfServiceContext} {kind : FlowKind} {id : String} {body : Value}
    (hpresented : request.presented = some (ctx.tenantId, id)) (hpast : Unsubmitted past) :
    Prog.Adds (FlowPromise request) (fun response past' => FlowShown state past' ctx.tenantId response)
      (submitFlow state ctx kind id body) past := by
  refine Prog.adds_bind (adds_resolveFlow_unsubmitted id hpast) fun oryFlowId past₁ _ hresolved => ?_
  refine Prog.adds_bind (adds_submittedBody ctx body kind hresolved.2) fun sent past₂ hsub₂ hunsubmitted => ?_
  refine Prog.adds_bind (R := fun result past' =>
    FlowOp.reply (.kratos (.submitFlow kind oryFlowId ctx.cookie sent)) result ∈ past')
    (Prog.adds_perform ?_ fun r => List.mem_cons_self) fun result past₃ _ hresult => ?_
  · exact ⟨fun _ => hunsubmitted, promise_of_resolved hpresented (hresolved.1.mono hsub₂) rfl⟩
  · refine Prog.adds_bind (adds_afterSubmission ctx result kind) fun _ past₄ hsub₄ _ => ?_
    exact adds_mapSubmitResponse (hsub₄ hresult)

/-- The token of a name of the tenant. -/
theorem adds_ownToken (ctx : SelfServiceContext) (tokenType name : String) : Prog.Adds (FlowPromise request)
    (fun ory past' =>
      FlowOp.reply (.transient (.getOryToken ctx.tenantId .kratos tokenType name)) (.ok ory) ∈ past')
    (ownToken ctx tokenType name) past := by
  refine Prog.adds_orThrow (Prog.answering_perform trivial fun r => ?_)
  cases r with
  | error e => trivial
  | ok ory => exact ⟨List.subset_cons_self _ _, List.mem_cons_self⟩

theorem adds_submitToken {ctx : SelfServiceContext} {kind : FlowKind} {token flow : String}
    (hpresented : request.presented = some (ctx.tenantId, flow)) : Prog.Adds (FlowPromise request)
    (fun r past' => FlowRequest.Shown state past' (.submitToken ctx kind token flow) (.redirect r.1 r.2))
    (submitToken state ctx kind token flow) past := by
  unfold submitToken
  split
  · exact Prog.adds_throw
  refine Prog.adds_bind (adds_ownToken ctx _ token) fun oryToken past₁ _ _ => ?_
  refine Prog.adds_bind (adds_ownToken ctx "flow" flow) fun oryFlow past₂ _ hflow => ?_
  refine Prog.adds_bind (R := fun result past' =>
    FlowOp.reply (.kratos (.submitToken kind oryToken oryFlow ctx.cookie ctx.csrfToken)) result ∈ past')
    (Prog.adds_perform ?_ fun r => List.mem_cons_self) fun result past₃ _ hresult => ?_
  · exact ⟨fun h => (by cases h), promise_of_resolved hpresented (.inr (.inl hflow)) rfl⟩
  cases result with
  | error err => exact adds_mapSubmitError err
  | ok redirect =>
  refine Prog.adds_bind (R := fun location _ => redirect.location = some location)
    (Prog.adds_mk fun location hlocation => ?_) fun location past₄ hsub₄ hlocation => ?_
  · unfold redirectLocation at hlocation
    split at hlocation
    · rename_i location' hsome
      rw [hsome, Except.ok.inj hlocation]
    · cases hlocation
  · refine Prog.adds_bind (adds_scrubRedirect location) fun redirectTo past₅ hsub₅ hnamed => Prog.adds_pure ?_
    obtain ⟨oryLocation, setCookies⟩ := redirect
    subst hlocation
    exact ⟨oryToken, oryFlow, location, hsub₅ (hsub₄ hresult), hnamed⟩

theorem adds_createLogoutFlow (ctx : SelfServiceContext) (returnTo : String) : Prog.Adds (FlowPromise request)
    (fun r past' => FlowRequest.Shown state past' (.createLogoutFlow ctx returnTo) (.logout r.1 r.2))
    (createLogoutFlow state ctx returnTo) past := by
  refine Prog.adds_bind (R := fun answer past' =>
    FlowOp.reply (.kratos (.createLogoutFlow (returnToOf returnTo) ctx.cookie)) (.ok answer) ∈ past')
    (Prog.adds_orThrow (Prog.answering_perform ?_ fun r => ?_)) fun answer past₁ _ hanswer => ?_
  · exact ⟨fun h => (by cases h), fun _ h => (by cases h)⟩
  · cases r with
    | error e => trivial
    | ok answer => exact ⟨List.subset_cons_self _ _, List.mem_cons_self⟩
  · refine Prog.adds_bind (adds_renamedBy (fun past' ory p => NamedIn past' (logoutKeyOf ctx.tenantId ory) p) _
      (adds_publicToken _)) fun logoutToken past₂ hsub₂ htoken => Prog.adds_pure ?_
    exact ⟨answer.body, hsub₂ hanswer, rfl, rfl, htoken⟩

theorem adds_submitLogoutFlow (ctx : SelfServiceContext) (token returnTo : String) :
    Prog.Adds (FlowPromise request) (fun _ _ => True) (submitLogoutFlow ctx token returnTo) past := by
  refine Prog.adds_bind (adds_ownToken ctx _ token) fun oryToken past₁ _ _ => ?_
  refine Prog.adds_orThrow (Prog.answering_perform ?_ fun r => ?_)
  · exact ⟨fun h => (by cases h), fun _ h => (by cases h)⟩
  · cases r with
    | error e => trivial
    | ok u => exact ⟨List.subset_cons_self _ _, trivial⟩

theorem adds_getFlowError {ctx : SelfServiceContext} {id : String}
    (hpresented : request.presented = some (ctx.tenantId, id)) : Prog.Adds (FlowPromise request)
    (fun id' past' => FlowRequest.Shown state past' (.getFlowError ctx id) (.error id')) (getFlowError ctx id)
    past := by
  refine Prog.adds_bind (adds_ownToken ctx "flow" id) fun oryErrorId past₁ _ hflow => ?_
  refine Prog.adds_bind (R := fun error past' =>
    FlowOp.reply (.kratos (.getFlowError oryErrorId)) (.ok error) ∈ past')
    (Prog.adds_orThrow (Prog.answering_perform ?_ fun r => ?_)) fun error past₂ _ herror => ?_
  · exact ⟨fun h => (by cases h), promise_of_resolved hpresented (.inr (.inl hflow)) rfl⟩
  · cases r with
    | error e => trivial
    | ok error => exact ⟨List.subset_cons_self _ _, List.mem_cons_self⟩
  · refine (adds_publicFlow (t := ctx.tenantId) (jsonStr error "id")).mono fun id' past' hsub hid => ?_
    exact ⟨error, oryErrorId, hsub herror, hid⟩

/-- A step, as the program of a request. -/
theorem sat_reply {α : Type} {R : α → List (Reply FlowSig) → Prop} {x : FlowService α}
    {f : α → FlowReply} (hx : Prog.Adds (FlowPromise request) R x [])
    (hR : ∀ a past', R a past' → request.Shown state past' (f a)) :
    (some <$> (f <$> x).run : Prog FlowSig (Option (Except ServiceError FlowReply))).Sat (scripted FlowSig)
      (Answering (FlowPromise request))
      (fun r past' => ∀ reply, r = some (.ok reply) → request.Shown state past' reply) [] := by
  refine Prog.sat_map.mpr ?_
  rw [ExceptT.run_map]
  refine Prog.sat_map.mpr (Prog.Sat.post hx fun r past' hr reply hreply => ?_)
  cases r with
  | ok a =>
      obtain rfl := Except.ok.inj (Option.some.inj hreply)
      exact hR a past' hr.2
  | error e => cases hreply

/-- **What every answer rests on.** -/
theorem shown_of_request (hrequest : ∀ p, request ≠ .other p) : (request.prog state).Sat (scripted FlowSig)
    (Answering (FlowPromise request))
    (fun r past' => ∀ reply, r = some (.ok reply) → request.Shown state past' reply) [] := by
  have hunsubmitted : Unsubmitted [] := fun _ h => absurd h List.not_mem_nil
  cases request with
  | createLoginFlow ctx req => exact sat_reply (adds_createLoginFlow ctx req) fun _ _ h => h
  | createRegistrationFlow ctx req => exact sat_reply (adds_createRegistrationFlow ctx req) fun _ _ h => h
  | createFlow ctx kind returnTo => exact sat_reply (adds_createBrowserFlow ctx kind _) fun _ _ h => h
  | getFlow ctx kind id => exact sat_reply (adds_getFlow rfl) fun _ _ h => h
  | submitFlow ctx kind id body => exact sat_reply (adds_submitFlow rfl hunsubmitted) fun _ _ h => h
  | submitToken ctx kind token flow => exact sat_reply (adds_submitToken rfl) fun _ _ h => h
  | createLogoutFlow ctx returnTo => exact sat_reply (adds_createLogoutFlow ctx returnTo) fun _ _ h => h
  | submitLogoutFlow ctx token returnTo =>
      exact sat_reply (adds_submitLogoutFlow ctx token returnTo) fun _ _ h => h
  | getFlowError ctx id => exact sat_reply (adds_getFlowError rfl) fun _ _ h => h
  | relayLocation location =>
      have hadds : Prog.Adds (FlowPromise (.relayLocation location))
        (fun url past' => MovedUrl state past' state.systemTenantId location url)
        (relayLocation state location) [] :=
        adds_scrubFlowIdInUrl state.urls _ false
      exact sat_reply hadds fun _ _ h => ⟨rfl, h⟩
  | other p => exact absurd rfl (hrequest p)

/-! ### Failed submissions -/

/-- Kratos refused a submission, with something else than a redirect. -/
def Refused (result : Except OryClientError KratosResponse) (err : OryClientError) : Prop :=
  result = .error err ∧ ∀ location setCookies, err ≠ .redirect location setCookies

/-- Where nothing was registered, nothing is enrolled. -/
theorem afterSubmission_refused {ctx : SelfServiceContext} {result : Except OryClientError KratosResponse}
    {err : OryClientError} (hrefused : Refused result err) (kind : FlowKind) :
    afterSubmission state ctx result kind = Pure.pure () := by
  obtain ⟨rfl, hother⟩ := hrefused
  cases kind with
  | registration =>
      cases err with
      | redirect location setCookies => exact absurd rfl (hother location setCookies)
      | _ => rfl
  | _ => rfl

theorem mapSubmitResponse_refused {result : Except OryClientError KratosResponse} {err : OryClientError}
    (hrefused : Refused result err) : mapSubmitResponse state t result = mapSubmitError state t err := by
  obtain ⟨rfl, hother⟩ := hrefused
  cases err with
  | redirect location setCookies => exact absurd rfl (hother location setCookies)
  | _ => rfl

/-- What is known at the end of a submission: it was not made, or it was answered, and a refusal was passed on
with the name of the flow. -/
def SubmissionAnswered (state : IdentitySelfService) (ctx : SelfServiceContext)
    (r : Except ServiceError FlowResponse) (past : List (Reply FlowSig)) : Prop :=
  Unsubmitted past ∨ ∃ kind flowId sent result,
    FlowOp.reply (.kratos (.submitFlow kind flowId ctx.cookie sent)) result ∈ past ∧
    ∀ err, Refused result err → ∃ err', r = .error (mapSelfServiceOryError err') ∧
      ErrorNamed state past ctx.tenantId err err'

theorem submission_answered {ctx : SelfServiceContext} {kind : FlowKind} {id : String} {body : Value}
    (hpresented : request.presented = some (ctx.tenantId, id)) (hpast : Unsubmitted past) :
    (submitFlow state ctx kind id body).run.Sat (scripted FlowSig) (Answering (FlowPromise request))
      (SubmissionAnswered state ctx) past := by
  have hresolve : Prog.Adds (FlowPromise request) (fun oryFlowId past' => ResolvedIn past' ctx.tenantId id oryFlowId)
    (onGateway (resolveFlow ctx.tenantId id)) past := adds_resolveFlow id
  unfold submitFlow
  refine Prog.sat_run_bind.mpr ((Prog.Sat.and hresolve (unsubmitted_onGateway _ hpast)).post fun r past₁ hr => ?_)
  obtain ⟨hr, hpast₁⟩ := hr
  cases r with
  | error e => exact .inl hpast₁
  | ok oryFlowId =>
  have hbody : (submittedBody state ctx body kind).run.Sat (scripted FlowSig) (Answering (FlowPromise request))
      (fun _ past' => past₁ ⊆ past' ∧ Unsubmitted past') past₁ := by
    refine Prog.answering_grows ?_
    cases kind with
    | settings => exact unsubmitted_onGateway _ hpast₁
    | _ => exact hpast₁
  refine Prog.sat_run_bind.mpr (hbody.post fun r past₂ hr₂ => ?_)
  obtain ⟨hsub₂, hpast₂⟩ := hr₂
  cases r with
  | error e => exact .inl hpast₂
  | ok sent =>
  refine Prog.sat_run_bind.mpr (Prog.sat_run_attempt.mpr (Prog.answering_perform ?_ fun result => ?_))
  · exact ⟨fun _ => hpast₂, promise_of_resolved hpresented (hr.2.mono hsub₂) rfl⟩
  dsimp only
  by_cases hrefused : ∃ err, Refused result err
  · obtain ⟨err, hrefused⟩ := hrefused
    rw [afterSubmission_refused hrefused, pure_bind, mapSubmitResponse_refused hrefused]
    refine Prog.sat_run_bind.mpr (Prog.sat_run_attempt.mpr ((Prog.answering_grows
      (sat_scrubFlowIdInErrorBody (t := ctx.tenantId) err)).post fun err' past₃ hr₃ => ?_))
    refine .inr ⟨kind, oryFlowId, sent, result, hr₃.1 List.mem_cons_self, fun err₀ hrefused₀ => ?_⟩
    obtain rfl := Except.error.inj (hrefused.1.symm.trans hrefused₀.1)
    exact ⟨err', rfl, hr₃.2⟩
  · have hrest : Prog.Adds (FlowPromise request) (fun _ _ => True)
        (afterSubmission state ctx result kind >>= fun _ => mapSubmitResponse state ctx.tenantId result)
        (FlowOp.reply (.kratos (.submitFlow kind oryFlowId ctx.cookie sent)) result :: past₂) := by
      refine Prog.adds_bind (adds_afterSubmission ctx result kind) fun _ past₄ hsub₄ _ => ?_
      exact (adds_mapSubmitResponse (hsub₄ List.mem_cons_self)).mono fun _ _ _ _ => trivial
    refine (Prog.answering_grows hrest).post fun r past' hr' => ?_
    exact .inr ⟨kind, oryFlowId, sent, result, hr'.1 List.mem_cons_self, fun err h => absurd ⟨err, h⟩ hrefused⟩

end request

end SsoGateway
