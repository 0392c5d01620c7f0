import SsoGateway.AgentTokens
import SsoGateway.PermissionReads
import SsoGateway.Scim
import SsoGateway.Steps
import SsoGateway.Lib.Straight
import SsoGateway.Lib.Translate

/-!
# SCIM over HTTP and over RPC

The SCIM service is reached by two ways. An RPC acts in the tenant the middleware has resolved, with the
scopes of its credential. A request under `/scim/v2` checks the scopes itself, and calls the method with a
context of its own: the tenant of the credential, and both SCIM scopes.

* `scimRpc`, `scimHttp` — the two ways.
* `scimRequest` — a request: the middleware resolves its tenant, then the operation is called.
* `ActsAbroad` — a client that may act in another tenant than its own, and does.
* `scim_http_as_rpc` — when the two ways make the same calls.
* `scim_http_stays_home` — a request for another tenant that is answered from the client's own.

Source: `services/handlers/scim.rs`, `services/scim.rs`, `db/scim_group.rs`, `middleware.rs`.
-/

namespace SsoGateway

open Lib

/-! ## The service -/

/-- Source: `SCOPE_SCIM_READ`. -/
def scopeScimRead : String := "scim:read"

/-- Every call of the middleware and of the SCIM service. -/
inductive ScimOp where
  | agents (op : AgentServiceOp)
  | listGroups (tenantId : String)
  | getGroup (tenantId id : String)

/-- The answers. -/
@[reducible] def ScimOp.Res : ScimOp → Type
  | .agents op => op.Res
  | .listGroups _ => Except DbError (List ScimGroupRow)
  | .getGroup _ _ => Except DbError ScimGroupRow

/-- The signature of the service. -/
@[reducible] def ScimSig : Sig := ⟨ScimOp, ScimOp.Res⟩

/-- What every call does; the newest group is the first of the table. -/
def scimGateway (env : AgentEnv) : Handler ScimSig Choice AgentWorld
  | .agents op, c, w => agentGateway env op c w
  | .listGroups tenantId, c, w =>
      Fault.answer Fault.sqlx w
        (.ok (w.base.directory.groups.filter fun g => g.tenantId = tenantId), w) (c.fault 0)
  | .getGroup tenantId id, c, w =>
      Fault.answer Fault.sqlx w
        (orNotFound .tenantNotFound (fun g => g) (w.base.directory.findGroup tenantId id), w) (c.fault 0)

/-- A method of the service. -/
abbrev ScimMethod (α : Type) := ExceptT ServiceError (Prog ScimSig) α

/-- A call of the middleware. -/
def scimAgents (op : AgentServiceOp) : Prog ScimSig op.Res := Prog.perform (S := ScimSig) (.agents op)

/-- A call of the gateway. -/
def scimCall (op : GatewayOp) : Prog ScimSig op.Res := scimAgents (.gateway op)

/-- A method that makes no other calls. -/
def ScimMethod.ofService {α : Type} (x : Service α) : ScimMethod α :=
  Prog.translateT (S := Gateway) scimCall x

/-- The checks of a read; yields the tenant the request acts in. -/
def requireScimReader (ctx : RequestContext) : Except ServiceError String := do
  let tenantId ← requireTenant ctx
  requireScopeAny ctx [scopeScimRead, scopeScimAdmin]
  return tenantId

/-- Source: `list_users`; a user who cannot be loaded is left out. -/
def listScimUsers (ctx : RequestContext) : Service (List ScimUser) := do
  let tenantId ← check (requireScimReader ctx)
  let publicIds ← Prog.orThrow ServiceError.ofDbError (IdMappingStore.listPublicIds tenantId .kratos)
  let users ← Prog.attempt (publicIds.mapM fun publicId => (loadUser tenantId publicId).run)
  return users.filterMap Except.toOption

/-- Source: `get_user`. -/
def getScimUser (ctx : RequestContext) (id : String) : Service ScimUser := do
  let tenantId ← check (requireScimReader ctx)
  loadUser tenantId id

/-- Source: `list_groups`. -/
def listScimGroups (ctx : RequestContext) : ScimMethod (List ScimGroup) := do
  let tenantId ← ExceptT.mk (pure (requireScimReader ctx))
  let rows ← Prog.orThrow ServiceError.ofDbError (Prog.perform (S := ScimSig) (.listGroups tenantId))
  rows.mapM fun row => .ofService (loadGroup tenantId row)

/-- Source: `get_group`. -/
def getScimGroup (ctx : RequestContext) (id : String) : ScimMethod ScimGroup := do
  let tenantId ← ExceptT.mk (pure (requireScimReader ctx))
  let row ← Prog.orThrow ServiceError.ofDbError (Prog.perform (S := ScimSig) (.getGroup tenantId id))
  .ofService (loadGroup tenantId row)

/-- The operations, with what the request carries. -/
inductive ScimRequest where
  | listUsers
  | createUser (input : ScimUser)
  | getUser (id : String)
  | updateUser (id : String) (input : ScimUser)
  | deleteUser (id : String)
  | listGroups
  | createGroup (input : ScimGroup)
  | getGroup (id : String)
  | updateGroup (id : String) (input : ScimGroup)
  | deleteGroup (id : String)

/-- What an operation answers with. -/
inductive ScimReply where
  | users (users : List ScimUser)
  | user (user : ScimUser)
  | groups (groups : List ScimGroup)
  | group (group : ScimGroup)
  | done

/-- The methods of `ScimService`. -/
def scimRpc (compile : SchemaCompiler) (ctx : RequestContext) : ScimRequest → ScimMethod ScimReply
  | .listUsers => .users <$> .ofService (listScimUsers ctx)
  | .createUser input => .user <$> .ofService (SsoGateway.createUser compile ctx (some input))
  | .getUser id => .user <$> .ofService (getScimUser ctx id)
  | .updateUser id input => .user <$> .ofService (SsoGateway.updateUser compile ctx id (some input))
  | .deleteUser id => (fun _ => .done) <$> .ofService (SsoGateway.deleteUser ctx id)
  | .listGroups => .groups <$> listScimGroups ctx
  | .createGroup input => .group <$> .ofService (SsoGateway.createGroup ctx (some input))
  | .getGroup id => .group <$> getScimGroup ctx id
  | .updateGroup id input => .group <$> .ofService (SsoGateway.updateGroup ctx id (some input))
  | .deleteGroup id => (fun _ => .done) <$> .ofService (SsoGateway.deleteGroup ctx id)

/-! ## The routes -/

/-- Source: `connectrpc::ErrorCode`. -/
inductive ErrorCode where
  | canceled | unknown | invalidArgument | deadlineExceeded | notFound | alreadyExists
  | permissionDenied | resourceExhausted | failedPrecondition | aborted | outOfRange
  | unimplemented | internal | unavailable | dataLoss | unauthenticated
deriving DecidableEq, Repr

/-- Source: `connectrpc::ConnectError`, with its display text. -/
structure ConnectError where
  code : ErrorCode
  text : String
deriving DecidableEq, Repr

/-- Source: `scim_error`. -/
structure ScimHttpError where
  status : ℕ
  detail : String
deriving DecidableEq, Repr

/-- Source: `map_service_error`. -/
def mapServiceError (err : ConnectError) : ScimHttpError where
  status :=
    match err.code with
    | .invalidArgument => 400
    | .notFound => 404
    | .permissionDenied => 403
    | .unauthenticated => 401
    | .alreadyExists => 409
    | _ => 500
  detail := err.text

/-- Source: `require_scope` of the handlers. -/
def httpRequireScope (auth : AuthContext) (scope : String) : Except ScimHttpError Unit :=
  if scope ∈ auth.scopes then .ok () else .error ⟨403, "missing required scope: " ++ scope⟩

/-- Source: `require_scope_any` of the handlers. -/
def httpRequireScopeAny (auth : AuthContext) (scopes : List String) : Except ScimHttpError Unit :=
  if auth.scopes.any fun s => s ∈ scopes then .ok ()
  else .error ⟨403, "missing required scope: one of " ++ String.intercalate ", " scopes⟩

/-- The check each route begins with. -/
def httpScopes (auth : AuthContext) : ScimRequest → Except ScimHttpError Unit
  | .listUsers => httpRequireScopeAny auth [scopeScimRead, scopeScimAdmin]
  | .createUser _ => httpRequireScope auth scopeScimAdmin
  | .getUser _ => httpRequireScopeAny auth [scopeScimRead, scopeScimAdmin]
  | .updateUser _ _ => httpRequireScope auth scopeScimAdmin
  | .deleteUser _ => httpRequireScope auth scopeScimAdmin
  | .listGroups => httpRequireScopeAny auth [scopeScimRead, scopeScimAdmin]
  | .createGroup _ => httpRequireScope auth scopeScimAdmin
  | .getGroup _ => httpRequireScopeAny auth [scopeScimRead, scopeScimAdmin]
  | .updateGroup _ _ => httpRequireScope auth scopeScimAdmin
  | .deleteGroup _ => httpRequireScope auth scopeScimAdmin

/-- Source: `request_context` of the SCIM service. -/
def scimRequestContext (tenantId : String) : RequestContext :=
  ⟨some tenantId, some ⟨tenantId, "scim-subject", .user, [scopeScimRead, scopeScimAdmin]⟩⟩

/-- The routes `/scim/v2/Users` and `/scim/v2/Groups`: the method is called for the tenant of the credential.
`connect` is the conversion of a service error. -/
def scimHttp (connect : ServiceError → ConnectError) (compile : SchemaCompiler) (auth : AuthContext)
    (req : ScimRequest) : ExceptT ScimHttpError (Prog ScimSig) ScimReply := do
  ExceptT.mk (pure (httpScopes auth req))
  Prog.orThrow (fun e => mapServiceError (connect e))
    (scimRpc compile (scimRequestContext auth.tenantId) req).run

/-! ## Requests -/

/-- An authenticated request: its tenant is resolved, then it is handled. -/
def scimRequest {β : Type} (env : AgentEnv) (ctx : FullAuthContext) (tenantHeader : Option String)
    (k : RequestContext → Prog ScimSig β) : Prog ScimSig β := do
  let target ← (resolveTargetTenant env ctx tenantHeader).translate scimAgents
  scimAgents (.attachContext target ctx)
  k ⟨some target, some ctx.toAuthContext⟩

/-- The operation as an RPC. -/
def overRpc (env : AgentEnv) (compile : SchemaCompiler) (ctx : FullAuthContext)
    (tenantHeader : Option String) (req : ScimRequest) : Prog ScimSig (Except ServiceError ScimReply) :=
  scimRequest env ctx tenantHeader fun rpcCtx => (scimRpc compile rpcCtx req).run

/-- The operation under `/scim/v2`; the route reads the context of the credential. -/
def overHttp (env : AgentEnv) (connect : ServiceError → ConnectError) (compile : SchemaCompiler)
    (ctx : FullAuthContext) (tenantHeader : Option String) (req : ScimRequest) :
    Prog ScimSig (Except ScimHttpError ScimReply) :=
  scimRequest env ctx tenantHeader fun _ => (scimHttp connect compile ctx.toAuthContext req).run

/-- The checks of a method; yields the tenant it acts in. -/
def ScimRequest.tenant (ctx : RequestContext) : ScimRequest → Except ServiceError String
  | .listUsers => requireScimReader ctx
  | .createUser _ => requireTenantScope ctx scopeScimAdmin
  | .getUser _ => requireScimReader ctx
  | .updateUser _ _ => requireTenantScope ctx scopeScimAdmin
  | .deleteUser _ => requireTenantScope ctx scopeScimAdmin
  | .listGroups => requireScimReader ctx
  | .createGroup _ => requireTenantScope ctx scopeScimAdmin
  | .getGroup _ => requireScimReader ctx
  | .updateGroup _ _ => requireTenantScope ctx scopeScimAdmin
  | .deleteGroup _ => requireTenantScope ctx scopeScimAdmin

/-- Both ways allow the operation to the same callers, make the same calls, and so of the same tenant, and
give the same answer where they give one. -/
structure AsOverRpc (env : AgentEnv) (connect : ServiceError → ConnectError) (compile : SchemaCompiler)
    (ctx : FullAuthContext) (tenantHeader : Option String) (req : ScimRequest) (w : AgentWorld) : Prop where
  allowed : ∀ t, httpScopes ctx.toAuthContext req = .ok () ↔
    ∃ t', req.tenant ⟨some t, some ctx.toAuthContext⟩ = .ok t'
  calls : ∀ o, (overHttp env connect compile ctx tenantHeader req).events (scimGateway env) o w =
    (overRpc env compile ctx tenantHeader req).events (scimGateway env) o w
  answer : ∀ o, ((overHttp env connect compile ctx tenantHeader req).run (scimGateway env) o w).1.toOption =
    ((overRpc env compile ctx tenantHeader req).run (scimGateway env) o w).1.toOption

/-- A client whose application is flagged names another tenant than its own. -/
def ActsAbroad (env : AgentEnv) (w : AgentWorld) (ctx : FullAuthContext) (tenantHeader : Option String) :
    Prop :=
  ctx.subjectType = .client ∧ ∃ t ∈ tenantHeader, env.isUlid t = true ∧ t ≠ ctx.tenantId ∧
    ∃ a ∈ w.base.db.findApplication ctx.subject, a.crossTenant = true

/-! ## What an operation depends on -/

section operations

variable {compile : SchemaCompiler} {ctx ctx' : RequestContext} {req : ScimRequest}

/-- A method looks at its context for the tenant it may act in, and for nothing else. -/
theorem scimRpc_congr (h : req.tenant ctx = req.tenant ctx') :
    scimRpc compile ctx req = scimRpc compile ctx' req := by
  cases req with
  | listUsers | getUser | listGroups | getGroup =>
      have hreader : requireScimReader ctx = requireScimReader ctx' := h
      simp only [scimRpc, listScimUsers, getScimUser, listScimGroups, getScimGroup, hreader]
  | createUser | updateUser | deleteUser | createGroup | updateGroup | deleteGroup =>
      have hadmin : requireTenantScope ctx scopeScimAdmin = requireTenantScope ctx' scopeScimAdmin := h
      simp only [scimRpc, SsoGateway.createUser, SsoGateway.updateUser, SsoGateway.deleteUser,
        SsoGateway.createGroup, SsoGateway.updateGroup, SsoGateway.deleteGroup, requireUser, requireGroup,
        hadmin]

/-- The first call of an operation that is allowed, which names the tenant. -/
def ScimRequest.firstCall (t : String) : ScimRequest → ScimOp
  | .listUsers => .agents (.gateway (.mapping (.listPublicIds t .kratos)))
  | .createUser _ => .agents (.gateway (.directory (.getDefaultSchema t)))
  | .getUser id => .agents (.gateway (.mapping (.getOryId t .kratos id)))
  | .updateUser id _ => .agents (.gateway (.mapping (.getOryId t .kratos id)))
  | .deleteUser id => .agents (.gateway (.mapping (.getOryId t .kratos id)))
  | .listGroups => .listGroups t
  | .createGroup input => .agents (.gateway (.directory (.createGroup t input.displayName)))
  | .getGroup id => .getGroup t id
  | .updateGroup id input => .agents (.gateway (.directory (.updateGroup t id input.displayName)))
  | .deleteGroup _ => .agents (.gateway (.directory (.ensureGroupNamespace t)))

theorem ScimRequest.firstCall_inj {t t' : String} (h : req.firstCall t = req.firstCall t') : t = t' := by
  cases req with
  | listGroups => simpa [ScimRequest.firstCall] using h
  | getGroup id => simpa [ScimRequest.firstCall] using h
  | _ =>
      simp only [ScimRequest.firstCall, ScimOp.agents.injEq, AgentServiceOp.gateway.injEq] at h
      simpa using h

variable {t : String}

theorem events_scimRpc_ok (env : AgentEnv) (compile : SchemaCompiler) (o : ℕ → Choice) (w : AgentWorld)
    (h : req.tenant ctx = .ok t) : ∃ rest,
    (scimRpc compile ctx req).run.events (scimGateway env) o w = ⟨req.firstCall t, o 0, w⟩ :: rest := by
  cases req with
  | listUsers | getUser | listGroups | getGroup =>
      have hreader : requireScimReader ctx = .ok t := h
      simp only [scimRpc, listScimUsers, getScimUser, listScimGroups, getScimGroup, hreader]
      exact ⟨_, rfl⟩
  | createUser | updateUser | deleteUser | createGroup | updateGroup | deleteGroup =>
      have hadmin : requireTenantScope ctx scopeScimAdmin = .ok t := h
      simp only [scimRpc, SsoGateway.createUser, SsoGateway.updateUser, SsoGateway.deleteUser,
        SsoGateway.createGroup, SsoGateway.updateGroup, SsoGateway.deleteGroup, requireUser, requireGroup,
        hadmin]
      exact ⟨_, rfl⟩

/-- A refused operation makes no call. -/
theorem scimRpc_refused {e : ServiceError} (h : req.tenant ctx = .error e) :
    (scimRpc compile ctx req).run = pure (.error e) := by
  cases req with
  | listUsers | getUser | listGroups | getGroup =>
      have hreader : requireScimReader ctx = .error e := h
      simp only [scimRpc, listScimUsers, getScimUser, listScimGroups, getScimGroup, hreader]
      rfl
  | createUser | updateUser | deleteUser | createGroup | updateGroup | deleteGroup =>
      have hadmin : requireTenantScope ctx scopeScimAdmin = .error e := h
      simp only [scimRpc, SsoGateway.createUser, SsoGateway.updateUser, SsoGateway.deleteUser,
        SsoGateway.createGroup, SsoGateway.updateGroup, SsoGateway.deleteGroup, requireUser, requireGroup,
        hadmin]
      rfl

end operations

/-! ## What a request comes to -/

section requests

variable {env : AgentEnv} {ctx : FullAuthContext} {tenantHeader : Option String} {w : AgentWorld}
  {req : ScimRequest} {t : String}

/-- Both ways ask for the same scopes. -/
theorem httpScopes_iff (auth : AuthContext) (t : String) :
    httpScopes auth req = .ok () ↔ req.tenant ⟨some t, some auth⟩ = .ok t := by
  cases req with
  | listUsers | getUser | listGroups | getGroup =>
      by_cases hscope : auth.scopes.any (fun s => s ∈ [scopeScimRead, scopeScimAdmin]) = true
      · simp only [httpScopes, httpRequireScopeAny, ScimRequest.tenant, requireScimReader, requireTenant,
          requireScopeAny, if_pos hscope, true_iff]
        rfl
      · simp only [httpScopes, httpRequireScopeAny, ScimRequest.tenant, requireScimReader, requireTenant,
          requireScopeAny, if_neg hscope, reduceCtorEq, false_iff]
        exact fun h => (by cases h)
  | createUser | updateUser | deleteUser | createGroup | updateGroup | deleteGroup =>
      by_cases hscope : scopeScimAdmin ∈ auth.scopes
      · simp only [httpScopes, httpRequireScope, ScimRequest.tenant, requireTenantScope, requireTenant,
          requireScope, if_pos hscope, true_iff]
        rfl
      · simp only [httpScopes, httpRequireScope, ScimRequest.tenant, requireTenantScope, requireTenant,
          requireScope, if_neg hscope, reduceCtorEq, false_iff]
        exact fun h => (by cases h)

/-- An RPC acts in the tenant of its context. -/
theorem tenant_of_ok {auth : AuthContext} {t' : String}
    (h : req.tenant ⟨some t, some auth⟩ = .ok t') : t' = t := by
  cases req with
  | listUsers | getUser | listGroups | getGroup =>
      simp only [ScimRequest.tenant, requireScimReader, requireTenant, requireScopeAny] at h
      split at h
      · exact (Except.ok.inj h).symm
      · cases h
  | createUser | updateUser | deleteUser | createGroup | updateGroup | deleteGroup =>
      simp only [ScimRequest.tenant, requireTenantScope, requireTenant, requireScope] at h
      split at h
      · exact (Except.ok.inj h).symm
      · cases h

/-- The context the routes make for a method is allowed everything. -/
theorem tenant_scimRequestContext (req : ScimRequest) (t : String) :
    req.tenant (scimRequestContext t) = .ok t := by
  refine (httpScopes_iff _ t).mp ?_
  cases req <;> simp [httpScopes, httpRequireScope, httpRequireScopeAny]

/-- The lookup of the client's application. -/
def lookupClient (ctx : FullAuthContext) : ScimOp :=
  .agents (.gateway (.application (.getByPublicId ctx.subject)))

/-- The tenant of a request whose header is considered, by the answer of the lookup. -/
def targetOf (ctx : FullAuthContext) (header : String) : Except DbError ApplicationRow → String
  | .ok row => if row.crossTenant then header else ctx.tenantId
  | .error _ => ctx.tenantId

theorem answer_lookupClient (env : AgentEnv) (ctx : FullAuthContext) (c : Choice) (w : AgentWorld) :
    (scimGateway env (lookupClient ctx) c w).1 = (w.base.db.read c
      (orNotFound .applicationNotFound id (w.base.db.findApplication ctx.subject))).1 := rfl

theorem found_of_lookupClient {c : Choice} {row : ApplicationRow}
    (h : (scimGateway env (lookupClient ctx) c w).1 = .ok row) :
    w.base.db.findApplication ctx.subject = some row := by
  rw [answer_lookupClient] at h
  obtain ⟨-, hfound⟩ := Fault.answer_ok h
  cases hrow : w.base.db.findApplication ctx.subject with
  | none => simp [hrow, orNotFound] at hfound
  | some row' => simpa [hrow, orNotFound] using hfound

theorem scimRequest_lookup (hclient : ctx.subjectType = .client) {header : String}
    (hulid : env.isUlid header = true) {β : Type} (k : RequestContext → Prog ScimSig β) :
    scimRequest env ctx (some header) k = .call (lookupClient ctx) fun r =>
      .call (.agents (.attachContext (targetOf ctx header r) ctx)) fun _ =>
        k ⟨some (targetOf ctx header r), some ctx.toAuthContext⟩ := by
  unfold scimRequest resolveTargetTenant
  rw [if_neg (by simp [hclient])]
  simp only [hulid]
  refine congrArg (Prog.call (S := ScimSig) (lookupClient ctx)) (funext fun r => ?_)
  cases r with
  | ok row => rfl
  | error e => rfl

/-- The tenant of a request: that of its credential, unless a flagged client has named another and nothing
fails. What follows is run from where the middleware ends. -/
theorem scimRequest_from (env : AgentEnv) (ctx : FullAuthContext) (tenantHeader : Option String)
    (w : AgentWorld) (o : ℕ → Choice) : ∃ t before o' w',
    (¬ ActsAbroad env w ctx tenantHeader → t = ctx.tenantId) ∧
    (ActsAbroad env w ctx tenantHeader → (o 0).FaultFree → tenantHeader = some t) ∧
    ∀ {β : Type} (k : RequestContext → Prog ScimSig β),
      (scimRequest env ctx tenantHeader k).run (scimGateway env) o w =
        (k ⟨some t, some ctx.toAuthContext⟩).run (scimGateway env) o' w' ∧
      (scimRequest env ctx tenantHeader k).events (scimGateway env) o w =
        before ++ (k ⟨some t, some ctx.toAuthContext⟩).events (scimGateway env) o' w' := by
  have hhome : resolveTargetTenant env ctx tenantHeader = pure ctx.tenantId →
      ∃ before o' w', ∀ {β : Type} (k : RequestContext → Prog ScimSig β),
        (scimRequest env ctx tenantHeader k).run (scimGateway env) o w =
          (k ⟨some ctx.tenantId, some ctx.toAuthContext⟩).run (scimGateway env) o' w' ∧
        (scimRequest env ctx tenantHeader k).events (scimGateway env) o w =
          before ++ (k ⟨some ctx.tenantId, some ctx.toAuthContext⟩).events (scimGateway env) o' w' := by
    intro h
    refine ⟨[⟨.agents (.attachContext ctx.tenantId ctx), o 0, w⟩], fun n => o (n + 1),
      (scimGateway env (.agents (.attachContext ctx.tenantId ctx)) (o 0) w).2, fun k => ?_⟩
    unfold scimRequest
    rw [h]
    exact ⟨rfl, rfl⟩
  by_cases hclient : ctx.subjectType = .client
  · rcases tenantHeader with _ | header
    · have hpure : resolveTargetTenant env ctx none = pure ctx.tenantId := by
        unfold resolveTargetTenant
        rw [if_neg (by simp [hclient])]
      obtain ⟨before, o', w', hk⟩ := hhome hpure
      exact ⟨_, before, o', w', fun _ => rfl, fun ⟨_, t, ht, _⟩ => absurd ht (by simp), hk⟩
    by_cases hulid : env.isUlid header = true
    · let t := targetOf ctx header (scimGateway env (lookupClient ctx) (o 0) w).1
      let w₁ := (scimGateway env (lookupClient ctx) (o 0) w).2
      refine ⟨t, [⟨lookupClient ctx, o 0, w⟩, ⟨.agents (.attachContext t ctx), o 1, w₁⟩],
        fun n => o (n + 2), (scimGateway env (.agents (.attachContext t ctx)) (o 1) w₁).2,
        fun hhere => ?_, fun habroad hfree => ?_, fun k => ?_⟩
      · change targetOf ctx header _ = _
        cases hanswer : (scimGateway env (lookupClient ctx) (o 0) w).1 with
        | error e => rfl
        | ok row =>
            change (if row.crossTenant then header else ctx.tenantId) = ctx.tenantId
            by_cases hflag : row.crossTenant = true
            · rw [if_pos hflag]
              by_contra hother
              exact hhere ⟨hclient, header, rfl, hulid, hother, row, found_of_lookupClient hanswer, hflag⟩
            · rw [if_neg hflag]
      · obtain ⟨-, t, ht, -, -, row, hrow, hflag⟩ := habroad
        have hanswer : (scimGateway env (lookupClient ctx) (o 0) w).1 = .ok row := by
          rw [answer_lookupClient, Option.mem_def.mp hrow]
          simp only [Db.read, hfree 0, Fault.answer_none]
          rfl
        obtain rfl := Option.some.inj ht
        change some header = some (targetOf ctx header _)
        simp [hanswer, targetOf, hflag]
      · rw [scimRequest_lookup hclient hulid]
        exact ⟨rfl, rfl⟩
    · have hpure : resolveTargetTenant env ctx (some header) = pure ctx.tenantId := by
        unfold resolveTargetTenant
        rw [if_neg (by simp [hclient])]
        simp [hulid]
      obtain ⟨before, o', w', hk⟩ := hhome hpure
      refine ⟨_, before, o', w', fun _ => rfl, ?_, hk⟩
      rintro ⟨-, t, ht, hok, -⟩
      obtain rfl := Option.some.inj ht
      exact absurd hok hulid
  · have hpure : resolveTargetTenant env ctx tenantHeader = pure ctx.tenantId := by
      unfold resolveTargetTenant
      rw [if_pos hclient]
    obtain ⟨before, o', w', hk⟩ := hhome hpure
    exact ⟨_, before, o', w', fun _ => rfl, fun habroad => absurd habroad.1 hclient, hk⟩

/-- A route that lets the caller through calls the method for the tenant of the credential. -/
theorem scimHttp_ok {connect : ServiceError → ConnectError} {compile : SchemaCompiler} {auth : AuthContext}
    (h : httpScopes auth req = .ok ()) :
    (scimHttp connect compile auth req).run =
      Except.mapError (fun e => mapServiceError (connect e)) <$>
        (scimRpc compile (scimRequestContext auth.tenantId) req).run := by
  unfold scimHttp
  rw [h]
  rfl

theorem scimHttp_refused {connect : ServiceError → ConnectError} {compile : SchemaCompiler}
    {auth : AuthContext} {e : ScimHttpError} (h : httpScopes auth req = .error e) :
    (scimHttp connect compile auth req).run = pure (.error e) := by
  unfold scimHttp
  rw [h]
  rfl

theorem toOption_mapError {ε ε' α : Type} (f : ε → ε') (r : Except ε α) :
    (r.mapError f).toOption = r.toOption := by
  cases r with
  | ok a => rfl
  | error e => rfl

/-- Where the tenant is that of the credential, or the caller is refused, the two ways are the same. -/
theorem scimHttp_as_scimRpc {connect : ServiceError → ConnectError} {compile : SchemaCompiler}
    (auth : AuthContext) (hsame : httpScopes auth req = .ok () → t = auth.tenantId) (o : ℕ → Choice) :
    (scimHttp connect compile auth req).run.events (scimGateway env) o w =
        (scimRpc compile ⟨some t, some auth⟩ req).run.events (scimGateway env) o w ∧
      ((scimHttp connect compile auth req).run.run (scimGateway env) o w).1.toOption =
        ((scimRpc compile ⟨some t, some auth⟩ req).run.run (scimGateway env) o w).1.toOption := by
  cases hscopes : httpScopes auth req with
  | ok _ =>
      obtain rfl := hsame hscopes
      have htenant : req.tenant (scimRequestContext auth.tenantId) =
          req.tenant ⟨some auth.tenantId, some auth⟩ := by
        rw [tenant_scimRequestContext, (httpScopes_iff auth auth.tenantId).mp hscopes]
      rw [scimHttp_ok hscopes, scimRpc_congr htenant, Prog.events_map, Prog.run_map, toOption_mapError]
      exact ⟨rfl, rfl⟩
  | error e =>
      cases htenant : req.tenant ⟨some t, some auth⟩ with
      | ok t' =>
          obtain rfl := tenant_of_ok htenant
          rw [(httpScopes_iff auth t').mpr htenant] at hscopes
          cases hscopes
      | error e' =>
          rw [scimHttp_refused hscopes, scimRpc_refused htenant]
          exact ⟨rfl, rfl⟩

/-- **The two ways.** The routes and the methods make the same calls and give the same answers exactly if
the caller is refused, or the request acts in the tenant of its credential: the routes never act elsewhere. -/
theorem scim_http_as_rpc (env : AgentEnv) (connect : ServiceError → ConnectError) (compile : SchemaCompiler)
    (ctx : FullAuthContext) (tenantHeader : Option String) (req : ScimRequest) (w : AgentWorld) :
    AsOverRpc env connect compile ctx tenantHeader req w ↔
      ¬ (httpScopes ctx.toAuthContext req = .ok () ∧ ActsAbroad env w ctx tenantHeader) := by
  constructor
  · rintro ⟨-, hcalls, -⟩ ⟨hallowed, habroad⟩
    obtain ⟨t, before, o', w', -, hnamed, hfrom⟩ := scimRequest_from env ctx tenantHeader w smoothly
    have hheader := hnamed habroad (smoothly_faultFree 0)
    -- the first call after the middleware names another tenant
    have hevents := hcalls smoothly
    unfold overHttp overRpc at hevents
    rw [(hfrom _).2, (hfrom _).2] at hevents
    have hafter := List.append_cancel_left hevents
    rw [scimHttp_ok hallowed, Prog.events_map] at hafter
    obtain ⟨rest, hhttp⟩ := events_scimRpc_ok env compile o' w'
      (tenant_scimRequestContext req ctx.tenantId)
    obtain ⟨rest', hrpc⟩ := events_scimRpc_ok env compile o' w'
      ((httpScopes_iff ctx.toAuthContext t).mp hallowed)
    rw [hhttp, hrpc] at hafter
    have hfirst := congrArg Event.op (List.cons.inj hafter).1
    obtain ⟨-, t', ht', -, hother, -⟩ := habroad
    rw [hheader] at ht'
    obtain rfl := Option.some.inj ht'
    exact hother (ScimRequest.firstCall_inj hfirst).symm
  · intro hnot
    have hboth : ∀ o, (overHttp env connect compile ctx tenantHeader req).events (scimGateway env) o w =
        (overRpc env compile ctx tenantHeader req).events (scimGateway env) o w ∧
        ((overHttp env connect compile ctx tenantHeader req).run (scimGateway env) o w).1.toOption =
          ((overRpc env compile ctx tenantHeader req).run (scimGateway env) o w).1.toOption := by
      intro o
      obtain ⟨t, before, o', w', hhome, -, hfrom⟩ := scimRequest_from env ctx tenantHeader w o
      unfold overHttp overRpc
      rw [(hfrom _).2, (hfrom _).2, (hfrom _).1, (hfrom _).1]
      obtain ⟨hevents, hanswer⟩ := scimHttp_as_scimRpc ctx.toAuthContext
        (fun hallowed => hhome fun habroad => hnot ⟨hallowed, habroad⟩) o'
      exact ⟨congrArg _ hevents, hanswer⟩
    refine ⟨fun t => ⟨fun hallowed => ⟨t, (httpScopes_iff _ t).mp hallowed⟩, ?_⟩,
      fun o => (hboth o).1, fun o => (hboth o).2⟩
    rintro ⟨t', ht'⟩
    obtain rfl := tenant_of_ok ht'
    exact (httpScopes_iff _ t').mpr ht'

end requests

/-- Two tenants: the application of `acme` is flagged, and `beta` has a group. -/
def twoScimTenants : AgentWorld :=
  .start { World.empty [⟨"acme"⟩, ⟨"beta"⟩] with
    db := { Db.empty [⟨"acme"⟩, ⟨"beta"⟩] with
      idMappings := [⟨"acme", .hydra, "provisioner", "hydra-client", 0⟩]
      applications := [⟨"acme", "provisioner", true, .admin⟩]
      mappingKeys := by decide
      mappingTenant := by decide
      applicationKey := by decide
      applicationMapping := by decide
      applicationTenant := by decide }
    directory := { Directory.empty with
      groups := [⟨"g1", "beta", "ops"⟩]
      groupKey := by decide
      memberGroup := Directory.noMembers_group _ } } []

/-- The flagged client. -/
def provisioner : FullAuthContext := ⟨⟨"acme", "provisioner", .client, [scopeScimRead]⟩, none, "", []⟩

/-- Every header is a ULID. -/
def scimEnv : AgentEnv := ⟨.firstRow, id, fun _ => none, fun _ => true, id, 30, 600⟩

/-- Asked for the groups of `beta`, the method lists them and the route lists those of `acme`. -/
theorem scim_http_stays_home :
    ((overRpc scimEnv (fun _ => .error "") provisioner (some "beta") .listGroups).run (scimGateway scimEnv)
        smoothly twoScimTenants).1 =
      .ok (.groups [⟨"g1", "ops", [], some (.obj [("resourceType", .str "Group")])⟩]) ∧
    ((overHttp scimEnv (fun _ => ⟨.internal, ""⟩) (fun _ => .error "") provisioner (some "beta")
        .listGroups).run (scimGateway scimEnv) smoothly twoScimTenants).1 = .ok (.groups []) ∧
    ¬ AsOverRpc scimEnv (fun _ => ⟨.internal, ""⟩) (fun _ => .error "") provisioner (some "beta") .listGroups
      twoScimTenants := by
  have hrpc : ((overRpc scimEnv (fun _ => .error "") provisioner (some "beta") .listGroups).run
      (scimGateway scimEnv) smoothly twoScimTenants).1 =
      .ok (.groups [⟨"g1", "ops", [], some (.obj [("resourceType", .str "Group")])⟩]) := rfl
  have hhttp : ((overHttp scimEnv (fun _ => ⟨.internal, ""⟩) (fun _ => .error "") provisioner (some "beta")
      .listGroups).run (scimGateway scimEnv) smoothly twoScimTenants).1 = .ok (.groups []) := rfl
  refine ⟨hrpc, hhttp, fun hsame => ?_⟩
  have hanswer := hsame.answer smoothly
  rw [hrpc, hhttp] at hanswer
  cases hanswer

end SsoGateway
