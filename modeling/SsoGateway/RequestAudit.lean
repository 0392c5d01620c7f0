import SsoGateway.Branding
import SsoGateway.Lib.Translate

/-!
# The audit of requests

The gateway is wrapped in layers, each around the ones added before it. The audit layer was added first, so
the authentication layer is around it: a request that is refused there never reaches the audit.

* `auditLayer`, `authLayer`, `extensionLayer` — the layers; `buildApp` — the gateway in them.
* `AuthResult`, `authResult` — what authentication makes of a request.
* `OneRecord` — a request leaves one record, which says what authentication made of it.
* `one_record_iff` — when it does.
* `refused_unrecorded` — a request without credentials.

Source: `app.rs`, `middleware.rs`.
-/

namespace SsoGateway

open Lib

/-! ## Requests and records -/

/-- What the extension layers hand to the middleware. -/
inductive Handle where
  | introspector
  | agentResolver
  | selfServicePaths (paths : SelfServicePaths)
  | sessionSigner
  | sessionStore
  | applicationStore
  | mappings
deriving DecidableEq, Repr

/-- Source: `middleware.rs` `AuthOutcome`. -/
inductive AuthOutcome where
  | success
  | failure
deriving DecidableEq, Repr

/-- A request, with what the layers it has passed have put into it. -/
structure GatewayRequest where
  method : String
  path : String
  creds : Credentials
  handles : List Handle
  /-- `TenantId`. -/
  tenant : Option String
  outcome : Option AuthOutcome
  context : Option FullAuthContext
deriving DecidableEq, Repr

/-- A request as it arrives. -/
def GatewayRequest.incoming (method path : String) (creds : Credentials) : GatewayRequest :=
  ⟨method, path, creds, [], none, none, none⟩

/-- A response. -/
structure GatewayResponse where
  status : ℕ
  body : String
deriving DecidableEq, Repr

/-- Source: `SubjectType::as_str`. -/
def SubjectType.toText : SubjectType → String
  | .user => "user"
  | .agent => "agent"
  | .client => "client"

/-- The fields of an event of the target `sso_gateway::audit`. Source: `audit_middleware`. -/
structure AuditEvent where
  tenantId : Option String
  targetTenant : Option String
  crossTenant : Bool
  actor : Option String
  subjectType : Option String
  agent : Option String
  action : String
  resource : String
  outcome : String
  status : ℕ
deriving DecidableEq, Repr

/-! ## Calls -/

/-- Every call of the gateway: those of the middleware and the services, and the event of a request. -/
inductive AuditOp where
  | agents (op : AgentServiceOp)
  | emit (event : AuditEvent)

/-- The answers. -/
@[reducible] def AuditOp.Res : AuditOp → Type
  | .agents op => op.Res
  | .emit _ => Unit

/-- The signature of the gateway in its layers. -/
@[reducible] def AuditSig : Sig := ⟨AuditOp, AuditOp.Res⟩

/-- The world, with the events emitted so far. -/
structure AuditWorld where
  agents : AgentWorld
  log : List AuditEvent

/-- What every call does. -/
def auditGateway (env : AgentEnv) : Handler AuditSig Choice AuditWorld
  | .agents op, c, w =>
      let r := agentGateway env op c w.agents
      (r.1, { w with agents := r.2 })
  | .emit event, _, w => ((), { w with log := w.log ++ [event] })

/-- A call of the middleware or of a service. -/
def auditAgents (op : AgentServiceOp) : Prog AuditSig op.Res := Prog.perform (S := AuditSig) (.agents op)

/-! ## Layers -/

/-- What answers a request. -/
abbrev Endpoint := GatewayRequest → Prog AuditSig GatewayResponse

/-- What wraps an endpoint. -/
abbrev Layer := Endpoint → Endpoint

/-- Source: `auth_error`. -/
def authError (status : ℕ) : GatewayResponse where
  status := status
  body :=
    let message :=
      match status with
      | 500 => "internal server error"
      | 503 => "service unavailable"
      | _ => "unauthorized"
    "\x7b\"error\":\"" ++ message ++ "\"\x7d"

/-- Source: `Extension`. -/
def extensionLayer (handle : Handle) : Layer := fun next req =>
  next { req with handles := handle :: req.handles }

/-- The paths of the branded surface, if they were handed over. -/
def GatewayRequest.browserPaths (req : GatewayRequest) : Option SelfServicePaths :=
  req.handles.findSome? fun handle =>
    match handle with
    | .selfServicePaths paths => some paths
    | _ => none

/-- The request passes without authentication. -/
def GatewayRequest.Exempt (req : GatewayRequest) : Prop :=
  (∃ paths ∈ req.browserPaths, paths.isBrowserPath req.path = true) ∨
    (isPublicPath req.path = true ∧
      (req.path ∉ ["/oauth2/introspect", "/oauth2/register"] ∨ req.creds.bearerToken.isSome = false))

instance (req : GatewayRequest) : Decidable req.Exempt :=
  inferInstanceAs (Decidable ((∃ paths ∈ req.browserPaths, _) ∨ _))

/-- Source: `auth_middleware`; the resolver and the applications, which it can do without, are always handed
over. -/
def authLayer (env : AgentEnv) : Layer := fun next req =>
  if .introspector ∉ req.handles ∨ .mappings ∉ req.handles ∨ .sessionSigner ∉ req.handles ∨
      .sessionStore ∉ req.handles then
    return ⟨500, "Missing request extension"⟩
  else if req.Exempt then
    next req
  else do
    match ← (authenticate env req.creds).run.translate auditAgents with
    | .ok ctx =>
        let target ← (resolveTargetTenant env ctx req.creds.tenantHeader).translate auditAgents
        next { req with tenant := some target, outcome := some .success, context := some ctx }
    | .error status => return authError status

/-- The event of a request, from what its extensions say when the audit is reached. -/
def auditEvent (req : GatewayRequest) (response : GatewayResponse) : AuditEvent :=
  let tenantId := req.context.map (·.tenantId)
  let crossTenant := tenantId.any fun auth => req.tenant.any fun target => auth ≠ target
  { tenantId := tenantId
    targetTenant := if crossTenant then req.tenant else none
    crossTenant := crossTenant
    actor := req.context.map (·.subject)
    subjectType := req.context.map (·.subjectType.toText)
    agent := req.context.bind fun ctx => ctx.actor.map (·.agentId)
    action := req.method
    resource := req.path
    outcome := if 200 ≤ response.status ∧ response.status < 300 then "success" else "failure"
    status := response.status }

/-- Source: `audit_middleware`. -/
def auditLayer : Layer := fun next req => do
  let response ← next req
  Prog.perform (S := AuditSig) (.emit (auditEvent req response))
  return response

/-- The routes, whatever they do with the stores. -/
def routesEndpoint (routes : GatewayRequest → Prog AgentSig GatewayResponse) : Endpoint :=
  fun req => (routes req).translate auditAgents

/-- The layers of the gateway, in the order in which they are added. -/
def appLayers (env : AgentEnv) (paths : SelfServicePaths) : List Layer :=
  [auditLayer, authLayer env, extensionLayer .introspector, extensionLayer .agentResolver,
    extensionLayer (.selfServicePaths paths), extensionLayer .sessionSigner, extensionLayer .sessionStore,
    extensionLayer .applicationStore, extensionLayer .mappings]

/-- Source: the end of `build_app_with_upstream`: a layer wraps those added before it. -/
def buildApp (env : AgentEnv) (paths : SelfServicePaths)
    (routes : GatewayRequest → Prog AgentSig GatewayResponse) : Endpoint :=
  (appLayers env paths).foldl (fun app layer => layer app) (routesEndpoint routes)

/-! ## What a request leaves -/

/-- What authentication makes of a request. -/
inductive AuthResult where
  /-- It passes without. -/
  | exempt
  | authenticated (ctx : FullAuthContext)
  | refused (status : ℕ)

/-- The outcome of authenticating a request by its path and credentials. -/
def authResult (env : AgentEnv) (paths : SelfServicePaths) (path : String) (creds : Credentials)
    (o : ℕ → Choice) (w : AgentWorld) : AuthResult :=
  match admission paths path creds.bearerToken.isSome with
  | .browser => .exempt
  | .anonymous => .exempt
  | .authenticated =>
      match ((authenticate env creds).run.run (agentGateway env) o w).1 with
      | .ok ctx => .authenticated ctx
      | .error status => .refused status

/-- What a record says of it: who was authenticated, and in which tenant; that the request failed, if it was
refused. -/
def RecordsResult (event : AuditEvent) : AuthResult → Prop
  | .exempt => True
  | .authenticated ctx => event.tenantId = some ctx.tenantId ∧ event.actor = some ctx.subject
  | .refused _ => event.outcome = "failure"

/-- The request leaves one record. -/
def OneRecord (result : AuthResult) (w w' : AuditWorld) : Prop :=
  ∃ event, w'.log = w.log ++ [event] ∧ RecordsResult event result

/-- A request, served by the gateway. -/
def serveRequest (env : AgentEnv) (paths : SelfServicePaths)
    (routes : GatewayRequest → Prog AgentSig GatewayResponse) (method path : String) (creds : Credentials)
    (o : ℕ → Choice) (w : AuditWorld) : GatewayResponse × AuditWorld :=
  (buildApp env paths routes (.incoming method path creds)).run (auditGateway env) o w

section records

variable {env : AgentEnv} {paths : SelfServicePaths} {path : String} {creds : Credentials} {w : AuditWorld}

/-- The calls of the middleware and of the services emit nothing. -/
theorem run_auditAgents_bind {α β : Type} (env : AgentEnv) (p : Prog AgentSig α)
    (f : α → Prog AuditSig β) (o : ℕ → Choice) (w : AuditWorld) : ∃ o', ((p.translate auditAgents) >>= f).run (auditGateway env) o w =
      (f (p.run (agentGateway env) o w.agents).1).run (auditGateway env) o'
        { w with agents := (p.run (agentGateway env) o w.agents).2 } := by
  induction p generalizing o w with
  | pure a => exact ⟨o, rfl⟩
  | call op k ih =>
      exact ih _ (fun n => o (n + 1)) { w with agents := (agentGateway env op (o 0) w.agents).2 }

/-- What reaches the audit leaves one record. -/
theorem run_auditLayer (env : AgentEnv) (routes : GatewayRequest → Prog AgentSig GatewayResponse)
    (req : GatewayRequest) (o : ℕ → Choice) (w : AuditWorld) : ∃ response,
      ((auditLayer (routesEndpoint routes) req).run (auditGateway env) o w).2.log =
        w.log ++ [auditEvent req response] := by
  obtain ⟨o', hrun⟩ := run_auditAgents_bind env (routes req) (fun response => do
    Prog.perform (S := AuditSig) (.emit (auditEvent req response))
    return response) o w
  refine ⟨((routes req).run (agentGateway env) o w.agents).1, ?_⟩
  unfold auditLayer routesEndpoint
  rw [hrun]
  rfl

/-- A request as the authentication layer finds it. -/
def handedOver (paths : SelfServicePaths) (method path : String) (creds : Credentials) : GatewayRequest :=
  { GatewayRequest.incoming method path creds with
    handles := [.introspector, .agentResolver, .selfServicePaths paths, .sessionSigner, .sessionStore,
      .applicationStore, .mappings] }

/-- The layers, one around the other. -/
theorem buildApp_incoming (env : AgentEnv) (paths : SelfServicePaths)
    (routes : GatewayRequest → Prog AgentSig GatewayResponse) (method path : String) (creds : Credentials) :
    buildApp env paths routes (.incoming method path creds) =
      authLayer env (auditLayer (routesEndpoint routes)) (handedOver paths method path creds) := rfl

/-- The decision by the path, in the words of the configuration. -/
theorem exempt_handedOver (method : String) :
    (handedOver paths method path creds).Exempt ↔
      admission paths path creds.bearerToken.isSome ≠ .authenticated := by
  unfold admission
  by_cases hbrowser : paths.isBrowserPath path = true
  · rw [if_pos hbrowser]
    exact iff_of_true (.inl ⟨paths, rfl, hbrowser⟩) (by simp)
  rw [if_neg hbrowser]
  by_cases hpublic : isPublicPath path = true ∧
      (path ∉ ["/oauth2/introspect", "/oauth2/register"] ∨ creds.bearerToken.isSome = false)
  · rw [if_pos hpublic]
    exact iff_of_true (.inr hpublic) (by simp)
  · rw [if_neg hpublic]
    refine iff_of_false ?_ (by simp)
    rintro (⟨other, hother, h⟩ | h)
    · obtain rfl := Option.some.inj hother
      exact hbrowser h
    · exact hpublic h

/-- A request that passes leaves one record. -/
theorem serve_exempt (env : AgentEnv) (routes : GatewayRequest → Prog AgentSig GatewayResponse)
    (method : String)
    (hexempt : admission paths path creds.bearerToken.isSome ≠ .authenticated) (o : ℕ → Choice)
    (w : AuditWorld) : ∃ response,
      (serveRequest env paths routes method path creds o w).2.log =
        w.log ++ [auditEvent (handedOver paths method path creds) response] := by
  have hpass : authLayer env (auditLayer (routesEndpoint routes)) (handedOver paths method path creds) =
      auditLayer (routesEndpoint routes) (handedOver paths method path creds) := by
    unfold authLayer
    rw [if_neg (by simp [handedOver]), if_pos ((exempt_handedOver method).mpr hexempt)]
  unfold serveRequest
  rw [buildApp_incoming, hpass]
  exact run_auditLayer env routes _ o w

/-- A request that is authenticated leaves one record, with its context; one that is refused, none. -/
theorem serve_authenticated (env : AgentEnv) (routes : GatewayRequest → Prog AgentSig GatewayResponse)
    (method : String)
    (hauth : admission paths path creds.bearerToken.isSome = .authenticated) (o : ℕ → Choice)
    (w : AuditWorld) :
    match ((authenticate env creds).run.run (agentGateway env) o w.agents).1 with
    | .ok ctx => ∃ target response, (serveRequest env paths routes method path creds o w).2.log =
        w.log ++ [auditEvent { handedOver paths method path creds with
          tenant := some target, outcome := some .success, context := some ctx } response]
    | .error _ => (serveRequest env paths routes method path creds o w).2.log = w.log := by
  have hlayer : authLayer env (auditLayer (routesEndpoint routes)) (handedOver paths method path creds) =
      ((authenticate env creds).run.translate auditAgents >>= fun r =>
        match r with
        | .ok ctx => do
            let target ← (resolveTargetTenant env ctx creds.tenantHeader).translate auditAgents
            auditLayer (routesEndpoint routes) { handedOver paths method path creds with
              tenant := some target, outcome := some .success, context := some ctx }
        | .error status => return authError status) := by
    unfold authLayer
    rw [if_neg (by simp [handedOver]), if_neg (by simp [exempt_handedOver, hauth])]
    rfl
  unfold serveRequest
  rw [buildApp_incoming, hlayer]
  obtain ⟨o', hrun⟩ := run_auditAgents_bind env (authenticate env creds).run _ o w
  rw [hrun]
  cases hresult : ((authenticate env creds).run.run (agentGateway env) o w.agents).1 with
  | error status => rfl
  | ok ctx =>
      dsimp only
      obtain ⟨o'', htarget⟩ := run_auditAgents_bind env
        (resolveTargetTenant env ctx creds.tenantHeader) (fun target =>
          auditLayer (routesEndpoint routes) { handedOver paths method path creds with
            tenant := some target, outcome := some .success, context := some ctx }) o'
        { w with agents := ((authenticate env creds).run.run (agentGateway env) o w.agents).2 }
      rw [htarget]
      obtain ⟨response, hlog⟩ := run_auditLayer env routes _ o'' _
      exact ⟨_, response, hlog⟩

/-- **One record.** A request leaves one record, with the tenant and the subject that were authenticated,
exactly if it is not refused by the authentication: a refused request leaves none. -/
theorem one_record_iff (env : AgentEnv) (paths : SelfServicePaths)
    (routes : GatewayRequest → Prog AgentSig GatewayResponse) (method path : String) (creds : Credentials)
    (o : ℕ → Choice) (w : AuditWorld) :
    OneRecord (authResult env paths path creds o w.agents) w
        (serveRequest env paths routes method path creds o w).2 ↔
      ∀ status, authResult env paths path creds o w.agents ≠ .refused status := by
  by_cases hauth : admission paths path creds.bearerToken.isSome = .authenticated
  · have hserve := serve_authenticated env routes method hauth o w
    unfold authResult
    rw [hauth]
    dsimp only
    cases hresult : ((authenticate env creds).run.run (agentGateway env) o w.agents).1 with
    | ok ctx =>
        rw [hresult] at hserve
        obtain ⟨target, response, hlog⟩ := hserve
        exact iff_of_true ⟨_, hlog, rfl, rfl⟩ fun status h => (by cases h)
    | error status =>
        rw [hresult] at hserve
        dsimp only at hserve
        refine iff_of_false ?_ fun h => h status rfl
        rintro ⟨event, hlog, -⟩
        rw [hserve] at hlog
        simpa using congrArg List.length hlog
  · obtain ⟨response, hlog⟩ := serve_exempt env routes method hauth o w
    have hexempt : authResult env paths path creds o w.agents = .exempt := by
      unfold authResult
      cases hadmitted : admission paths path creds.bearerToken.isSome with
      | browser => rfl
      | anonymous => rfl
      | authenticated => exact absurd hadmitted hauth
    rw [hexempt]
    exact iff_of_true ⟨_, hlog, trivial⟩ fun status h => (by cases h)

end records

/-- Nothing has happened yet. -/
def quietGateway : AuditWorld := ⟨.start (World.empty [⟨"acme"⟩]) [], []⟩

/-- The libraries play no part in it. -/
def auditEnv : AgentEnv := ⟨.firstRow, id, fun _ => none, fun _ => false, id, 30, 600⟩

/-- Every route answers. -/
def answerAll (_ : GatewayRequest) : Prog AgentSig GatewayResponse := return ⟨200, "ok"⟩

/-- The tenants are to be listed without credentials: the request is refused, and no record is left. -/
theorem refused_unrecorded :
    (serveRequest auditEnv .default answerAll "POST" "/iam.v1.TenantService/ListTenants" ⟨none, none, none⟩
      (fun _ => .plain "" 0) quietGateway).1.status = 401 ∧
    (serveRequest auditEnv .default answerAll "POST" "/iam.v1.TenantService/ListTenants" ⟨none, none, none⟩
      (fun _ => .plain "" 0) quietGateway).2.log = [] ∧
    ¬ OneRecord (authResult auditEnv .default "/iam.v1.TenantService/ListTenants" ⟨none, none, none⟩
        (fun _ => .plain "" 0) quietGateway.agents) quietGateway
      (serveRequest auditEnv .default answerAll "POST" "/iam.v1.TenantService/ListTenants" ⟨none, none, none⟩
        (fun _ => .plain "" 0) quietGateway).2 := by
  have hlog : (serveRequest auditEnv .default answerAll "POST" "/iam.v1.TenantService/ListTenants"
      ⟨none, none, none⟩ (fun _ => .plain "" 0) quietGateway).2.log = [] := by
    decide +kernel
  refine ⟨by decide +kernel, hlog, ?_⟩
  rintro ⟨event, hevent, -⟩
  rw [hlog] at hevent
  simp at hevent

end SsoGateway
