import SsoGateway.AgentStores
import SsoGateway.Consent

/-!
# Agents, delegations and act-tokens

A user creates a delegation; the agent mints act-tokens against it; every use of an act-token looks it
up in a cache, and validates it against the tables where the cache has no entry.

* `resolveActToken` — the lookup; `validateActTokenRow` — the validation.
* `createAgentDelegation`, `mintAgentActToken`, `revokeAgentDelegation`, `updateAgent`, `deleteAgent`,
  `introspectAgentActToken` — the calls.
* `authMiddleware` — what a request is let in as.

What the authority publishes for the other replicas is left out: one replica is modelled.

Source: `agent_tokens.rs`, `services/agent.rs`, `middleware.rs`, `auth.rs`.
-/

namespace SsoGateway

open Lib

/-- A method of the agent service. -/
abbrev AgentMethod (α : Type) := ExceptT ServiceError (Prog AgentSig) α

/-- One call. -/
abbrev ask (op : AgentServiceOp) : Prog AgentSig op.Res := Prog.perform (S := AgentSig) op

/-- A call to a store, its error passed on. -/
abbrev askStore {α : Type} (p : Prog AgentSig (Except DbError α)) : AgentMethod α :=
  Prog.orThrow ServiceError.ofDbError p

/-- Lift a pure check into a method. -/
def AgentMethod.check {α : Type} (r : Except ServiceError α) : AgentMethod α := ExceptT.mk (pure r)

/-- Source: `AGENT_STATUS_ACTIVE`. -/
def agentStatusActive : String := "active"

/-- Source: `AGENT_STATUS_DISABLED`. -/
def agentStatusDisabled : String := "disabled"

/-! ## The token authority -/

/-- What a valid row resolves to. -/
def AgentActTokenRow.resolution (row : AgentActTokenRow) : ActTokenResolution :=
  ⟨row.tenantId, row.userIdentityId, row.agentId, row.delegationId, row.scopes, row.expiresAt⟩

/-- Source: `validate_act_token_row`. -/
def validateActTokenRow (row : AgentActTokenRow) :
    ExceptT DbError (Prog AgentSig) (Option ActTokenResolution) := do
  let now ← Prog.attempt (ask (.gateway .nowUtc))
  if row.expiresAt ≤ now then
    return none
  else
    match ← Prog.attempt (ask (.getDelegationById row.delegationId)) with
    | .error .agentDelegationNotFound => return none
    | .error err => throw err
    | .ok delegation =>
        if delegation.revokedAt ≠ none ∨ delegation.expiresAt ≤ now then
          return none
        else
          match ← Prog.attempt (ask (.gateway (.agent (.getStatus row.agentId)))) with
          | .error .agentNotFound => return none
          | .error err => throw err
          | .ok status =>
              if status ≠ agentStatusActive then
                return none
              else
                return some row.resolution

/-- Source: `resolve_act_token`. -/
def resolveActToken (env : AgentEnv) (token : String) :
    ExceptT DbError (Prog AgentSig) (Option ActTokenResolution) := do
  match ← Prog.attempt (ask (.actCacheGet (env.hashToken token))) with
  | some entry =>
      let now ← Prog.attempt (ask (.gateway .nowUtc))
      return entry.filter fun res => now < res.expiresAt
  | none =>
      match ← Prog.orThrow id (ask (.getActToken (env.hashToken token))) with
      | none =>
          Prog.attempt (ask (.actCacheInsert (env.hashToken token) none))
          return none
      | some row =>
          let resolution ← validateActTokenRow row
          Prog.attempt (ask (.actCacheInsert (env.hashToken token) resolution))
          return resolution

/-- The status of an agent in the table; `none` is an id that is no agent. -/
def readAgentStatus (agentId : String) : ExceptT DbError (Prog AgentSig) (Option String) := do
  match ← Prog.attempt (ask (.gateway (.agent (.getStatus agentId)))) with
  | .ok status => return some status
  | .error .agentNotFound => return none
  | .error err => throw err

/-- Source: `agent_status`. -/
def agentStatus (agentId : String) : ExceptT DbError (Prog AgentSig) (Option String) := do
  match ← Prog.attempt (ask (.statusCacheGet agentId)) with
  | some entry => return entry
  | none =>
      let status ← readAgentStatus agentId
      Prog.attempt (ask (.statusCacheInsert agentId status))
      return status

/-- Source: `mint`; yields the token and its lifetime. -/
def mint (env : AgentEnv) (delegation : AgentDelegationRow) :
    ExceptT DbError (Prog AgentSig) (String × ℤ) := do
  let random ← Prog.attempt (ask .randomHex)
  let token := "sat_" ++ random
  let now ← Prog.attempt (ask (.gateway .nowUtc))
  let expiresAt := min (now + env.actTokenTtl) delegation.expiresAt
  Prog.orThrow id (ask (.insertActToken ⟨env.hashToken token, delegation.id, delegation.tenantId,
    delegation.agentId, delegation.userIdentityId, delegation.scopes, expiresAt⟩))
  return (token, max (expiresAt - now) 0)

/-- Source: `invalidate_delegation` on one replica. -/
def invalidateDelegation (delegationId : String) : Prog AgentSig Unit :=
  ask (.actCacheInvalidateIf (.delegation delegationId))

/-- Source: `invalidate_agent` on one replica. -/
def invalidateAgent (agentId : String) : Prog AgentSig Unit := do
  ask (.statusCacheInvalidate agentId)
  ask (.actCacheInvalidateIf (.agent agentId))

/-! ## Checks -/

/-- Source: `require_subject_type`. -/
def requireSubjectType (ctx : RequestContext) (expected : SubjectType) : Except ServiceError Unit :=
  match ctx.auth with
  | none => .error (.unauthenticated "missing authentication context")
  | some auth =>
      if auth.subjectType = expected then .ok ()
      else .error (.permissionDenied ("requires a " ++ (match expected with
        | .user => "user"
        | .agent => "agent"
        | .client => "client") ++ " subject"))

theorem requireSubjectType_ok {ctx : RequestContext} {expected : SubjectType}
    (h : requireSubjectType ctx expected = .ok ()) :
    ∃ auth, ctx.auth = some auth ∧ auth.subjectType = expected := by
  unfold requireSubjectType at h
  split at h
  · simp at h
  · rename_i auth hauth
    split at h
    · exact ⟨auth, hauth, ‹_›⟩
    · simp at h

/-- Source: the `AuthContext` of a request, or `Unauthenticated`. -/
def requireAuth (ctx : RequestContext) : Except ServiceError AuthContext :=
  match ctx.auth with
  | some auth => .ok auth
  | none => .error (.unauthenticated "missing authentication context")

/-- Source: the loop of `validate_delegation_scopes`, with the scopes seen so far. -/
def validateEachScope (env : AgentEnv) : List String → List String → Except ServiceError Unit
  | _, [] => .ok ()
  | seen, scope :: scopes =>
      if scope = "" ∨ 128 < scope.utf8ByteSize ∨ scope.toList.any isWhitespace then
        .error (.invalidArgument ("invalid scope: " ++ env.debugText scope))
      else if scope ∈ seen then
        .error (.invalidArgument ("duplicate scope: " ++ scope))
      else validateEachScope env (scope :: seen) scopes

/-- Source: `validate_delegation_scopes`. -/
def validateDelegationScopes (env : AgentEnv) (scopes : List String) : Except ServiceError Unit := do
  refuseIf (scopes = []) (.invalidArgument "at least one scope is required")
  refuseIf (64 < scopes.length) (.invalidArgument "at most 64 scopes are allowed")
  validateEachScope env [] scopes

/-- Source: `require_active_member`. -/
def requireActiveMember (tenantId identityId : String) : AgentMethod Unit := do
  match ← Prog.attempt (ask (.getMembership tenantId identityId)) with
  | .ok row =>
      AgentMethod.check (refuseIf (row.state ≠ "active")
        (.permissionDenied "identity is not an active tenant member"))
  | .error .membershipNotFound => throw (.permissionDenied "identity is not a tenant member")
  | .error err => throw (.ofDbError err)

/-- Source: `validate_status`. -/
def validateStatus (status : String) : Except ServiceError Unit :=
  refuseIf (status ≠ agentStatusActive ∧ status ≠ agentStatusDisabled)
    (.invalidArgument ("status must be " ++ agentStatusActive ++ " or " ++ agentStatusDisabled))

/-! ## Delegations -/

/-- Source: `CreateAgentDelegationRequest`; the expiry as `from_proto_timestamp` reads it. -/
structure CreateAgentDelegationRequest where
  agentId : String
  scope : List String
  expiresAt : Option ℤ
deriving DecidableEq, Repr

/-- Source: `create_agent_delegation`. -/
def createAgentDelegation (env : AgentEnv) (ctx : RequestContext)
    (req : CreateAgentDelegationRequest) : AgentMethod AgentDelegationRow := do
  let tenantId ← AgentMethod.check (requireTenant ctx)
  AgentMethod.check (requireSubjectType ctx .user)
  let auth ← AgentMethod.check (requireAuth ctx)
  let agent ← askStore (ask (.getAgent tenantId req.agentId))
  AgentMethod.check (refuseIf (agent.status ≠ agentStatusActive)
    (.invalidArgument ("agent " ++ agent.id ++ " is not active")))
  requireActiveMember tenantId auth.subject
  AgentMethod.check (validateDelegationScopes env req.scope)
  let expiresAt ← AgentMethod.check (match req.expiresAt with
    | some expiresAt => .ok expiresAt
    | none => .error (.invalidArgument "expires_at is required"))
  let now ← Prog.attempt (ask (.gateway .nowUtc))
  AgentMethod.check (refuseIf (expiresAt ≤ now)
    (.invalidArgument "expires_at must be in the future"))
  askStore (ask (.createDelegation tenantId agent.id auth.subject req.scope expiresAt))

/-- Source: the check of `revoke_agent_delegation`. -/
def mayRevoke (auth : AuthContext) (delegation : AgentDelegationRow) : Except ServiceError Unit :=
  refuseIf (¬ (auth.subjectType = .user ∧ auth.subject = delegation.userIdentityId) ∧
      scopeAgentAdmin ∉ auth.scopes)
    (.permissionDenied "only the delegating user or an agent:admin may revoke")

/-- Source: `revoke_agent_delegation`. -/
def revokeAgentDelegation (ctx : RequestContext) (id : String) : AgentMethod AgentDelegationRow := do
  let tenantId ← AgentMethod.check (requireTenant ctx)
  let auth ← AgentMethod.check (requireAuth ctx)
  let delegation ← askStore (ask (.getDelegation tenantId id))
  AgentMethod.check (mayRevoke auth delegation)
  let row ← askStore (ask (.revokeDelegation tenantId id))
  Prog.attempt (invalidateDelegation id)
  return row

/-- Source: the checks of `mint_agent_act_token` on the delegation. -/
def mayMint (auth : AuthContext) (now : ℤ) (delegation : AgentDelegationRow) :
    Except ServiceError Unit := do
  refuseIf (delegation.agentId ≠ auth.subject)
    (.permissionDenied "delegation does not belong to this agent")
  refuseIf (delegation.revokedAt ≠ none) (.invalidArgument "delegation has been revoked")
  refuseIf (delegation.expiresAt ≤ now) (.invalidArgument "delegation has expired")

/-- Source: `mint_agent_act_token`. -/
def mintAgentActToken (env : AgentEnv) (ctx : RequestContext) (delegationId : String) :
    AgentMethod (String × ℤ) := do
  let tenantId ← AgentMethod.check (requireTenant ctx)
  AgentMethod.check (requireSubjectType ctx .agent)
  AgentMethod.check (requireScope ctx "agent:act")
  let auth ← AgentMethod.check (requireAuth ctx)
  let agent ← askStore (ask (.getAgent tenantId auth.subject))
  AgentMethod.check (refuseIf (agent.status ≠ agentStatusActive)
    (.permissionDenied "agent is disabled"))
  let delegation ← askStore (ask (.getDelegation tenantId delegationId))
  let now ← Prog.attempt (ask (.gateway .nowUtc))
  AgentMethod.check (mayMint auth now delegation)
  requireActiveMember tenantId delegation.userIdentityId
  askStore (mint env delegation).run

/-- Source: `introspect_agent_act_token`; yields the resolution of a token that is active. -/
def introspectAgentActToken (env : AgentEnv) (ctx : RequestContext) (token : String) :
    AgentMethod (Option ActTokenResolution) := do
  let tenantId ← AgentMethod.check (requireTenant ctx)
  let resolution ← askStore (resolveActToken env token).run
  return resolution.filter fun res => res.tenantId = tenantId

/-! ## Agents -/

/-- Source: `rename_hydra_client`. What fails is logged only. -/
def renameHydraClient (tenantId agentId name : String) : Prog AgentSig Unit := do
  match ← ask (.gateway (.mapping (.getOryId tenantId .hydra agentId))) with
  | .error _ => return ()
  | .ok oryId =>
      match ← ask (.gateway (.hydra (.getOauth2Client oryId))) with
      | .error _ => return ()
      | .ok client =>
          let _ ← ask (.gateway (.hydra (.updateOauth2Client oryId
            (client.setIndex "client_name" (.str name)))))
          return ()

/-- Source: `UpdateAgentRequest`; an empty field changes nothing. -/
structure UpdateAgentRequest where
  id : String
  name : String
  status : String
deriving DecidableEq, Repr

/-- The first half of `update_agent`: the name. -/
def renameAgent (tenantId : String) (req : UpdateAgentRequest) (agent : AgentRow) :
    AgentMethod AgentRow :=
  if req.name ≠ "" ∧ req.name ≠ agent.name then do
    let agent ← askStore (ask (.setAgentName tenantId req.id req.name))
    Prog.attempt (renameHydraClient tenantId req.id req.name)
    return agent
  else return agent

/-- The second half of `update_agent`: the status, and the invalidation that follows it. -/
def changeAgentStatus (tenantId : String) (req : UpdateAgentRequest) (agent : AgentRow) :
    AgentMethod AgentRow :=
  if req.status ≠ "" ∧ req.status ≠ agent.status then do
    let agent ← askStore (ask (.setAgentStatus tenantId req.id req.status))
    Prog.attempt (invalidateAgent req.id)
    return agent
  else return agent

/-- Source: `update_agent`. -/
def updateAgent (ctx : RequestContext) (req : UpdateAgentRequest) : AgentMethod AgentRow := do
  let tenantId ← AgentMethod.check (requireTenantScope ctx scopeAgentAdmin)
  let agent ← askStore (ask (.getAgent tenantId req.id))
  AgentMethod.check (if req.status ≠ "" then validateStatus req.status else .ok ())
  let agent ← renameAgent tenantId req agent
  changeAgentStatus tenantId req agent

/-- The best-effort part of `delete_agent`: the client and the mapping. -/
def dropAgentClient (tenantId id : String) : Prog AgentSig Unit := do
  match ← ask (.gateway (.mapping (.getOryId tenantId .hydra id))) with
  | .ok oryId =>
      let _ ← ask (.gateway (.hydra (.deleteOauth2Client oryId)))
  | .error _ => pure ()
  let _ ← ask (.gateway (.mapping (.delete tenantId .hydra id)))

/-- Source: `delete_agent`. -/
def deleteAgent (ctx : RequestContext) (id : String) : AgentMethod Unit := do
  let tenantId ← AgentMethod.check (requireTenantScope ctx scopeAgentAdmin)
  askStore (ask (.gateway (.agent (.delete tenantId id))))
  Prog.attempt (dropAgentClient tenantId id)
  Prog.attempt (invalidateAgent id)

/-! ## The calls together -/

/-- The calls of the agent service that write grants, agents or tokens, or read a token. -/
inductive AgentOperation where
  | createDelegation (req : CreateAgentDelegationRequest)
  | revokeDelegation (id : String)
  | mint (delegationId : String)
  | introspect (token : String)
  | update (req : UpdateAgentRequest)
  | delete (id : String)

/-- What they answer with. -/
inductive AgentReply where
  | delegation (row : AgentDelegationRow)
  | token (token : String) (expiresIn : ℤ)
  | introspection (active : Option ActTokenResolution)
  | agent (row : AgentRow)
  | empty

/-- The call of an operation. -/
def AgentOperation.method (env : AgentEnv) (ctx : RequestContext) :
    AgentOperation → AgentMethod AgentReply
  | .createDelegation req => .delegation <$> createAgentDelegation env ctx req
  | .revokeDelegation id => .delegation <$> revokeAgentDelegation ctx id
  | .mint d => (fun r => .token r.1 r.2) <$> mintAgentActToken env ctx d
  | .introspect token => .introspection <$> introspectAgentActToken env ctx token
  | .update req => .agent <$> updateAgent ctx req
  | .delete id => (fun _ => .empty) <$> deleteAgent ctx id

/-! ## The middleware -/

/-- Source: `auth.rs` `SubjectBackend`. -/
inductive SubjectBackend where
  | hydra
  | kratos
deriving DecidableEq, Repr

/-- Source: the body of the loop of `resolve_subject`. -/
def resolveSubjectIn (backend : Backend) (subject : String) :
    ExceptT AuthError (Prog AgentSig) (Option (String × String)) := do
  match ← Prog.attempt (ask (.gateway (.mapping (.getTenantIdByOryId backend subject)))) with
  | .ok (some tenantId) =>
      match ← Prog.attempt (ask (.gateway (.mapping (.getPublicIdByOryId backend subject)))) with
      | .ok publicId => return some (tenantId, publicId)
      | .error .mappingNotFound => return none
      | .error _ => throw .database
  | .ok none => return none
  | .error _ => throw .database

/-- Source: `resolve_subject`. -/
def resolveSubject (subject : String) :
    ExceptT AuthError (Prog AgentSig) (String × String × SubjectBackend) := do
  match ← resolveSubjectIn .hydra subject with
  | some (tenantId, publicId) => return (tenantId, publicId, .hydra)
  | none =>
      match ← resolveSubjectIn .kratos subject with
      | some (tenantId, publicId) => return (tenantId, publicId, .kratos)
      | none => throw .unknownSubject

/-- Source: `build_auth_context`. -/
def buildAuthContext (env : AgentEnv) (tenantId subject : String) (subjectType : SubjectType)
    (actor : Option ActorContext) (scopes authenticationMethods : List String) (token : String) :
    FullAuthContext :=
  ⟨⟨tenantId, subject, subjectType, scopes⟩, actor, env.hashToken token, authenticationMethods⟩

/-- A step of the middleware: it may end in an HTTP status. -/
abbrev Middleware (α : Type) := ExceptT ℕ (Prog AgentSig) α

/-- Source: `authenticate_session_cookie`. -/
def authenticateSessionCookie (env : AgentEnv) (cookie : String) : Middleware FullAuthContext := do
  match env.verifySession cookie with
  | none => throw 401
  | some claims =>
      let active ← Prog.orThrow (fun _ => 500) (ask (.sessionActive claims.sid))
      if active then
        return buildAuthContext env claims.tenantId claims.sub .user none [] [] cookie
      else throw 401

/-- The context of an act-token. Source: the first branch of `authenticate_bearer_token`. -/
def actTokenContext (env : AgentEnv) (token : String) (res : ActTokenResolution) : FullAuthContext :=
  buildAuthContext env res.tenantId res.userIdentityId .user
    (some ⟨res.agentId, res.delegationId⟩) res.scopes [] token

/-- Source: the subject types of `authenticate_bearer_token`. -/
def subjectTypeOf (publicSubject : String) : SubjectBackend → Middleware SubjectType
  | .kratos => return .user
  | .hydra => do
      match ← Prog.orThrow (fun _ => 500) (agentStatus publicSubject).run with
      | some status => if status ≠ agentStatusActive then throw 401 else return .agent
      | none => return .client

/-- The HTTP status of a failed introspection, or of a subject that was not resolved. -/
def AuthError.status : AuthError → ℕ
  | .introspectionFailed => 503
  | .database => 500
  | .unknownSubject => 401

/-- Source: `authenticate_bearer_token`, after the act-tokens. -/
def authenticateIntrospected (env : AgentEnv) (token : String) : Middleware FullAuthContext := do
  let introspection ← Prog.orThrow AuthError.status (ask (.introspect token))
  if introspection.active = false then throw 401
  else
    match introspection.sub with
    | none => throw 500
    | some subject =>
        let (tenantId, publicSubject, backend) ← Prog.orThrow AuthError.status
          (resolveSubject subject).run
        let subjectType ← subjectTypeOf publicSubject backend
        return buildAuthContext env tenantId publicSubject subjectType none introspection.scope
          introspection.authenticationMethods token

/-- Source: `authenticate_bearer_token`. -/
def authenticateBearerToken (env : AgentEnv) (token : String) : Middleware FullAuthContext := do
  match ← Prog.orThrow (fun _ => 500) (resolveActToken env token).run with
  | some res => return actTokenContext env token res
  | none => authenticateIntrospected env token

/-- Source: `resolve_target_tenant`. -/
def resolveTargetTenant (env : AgentEnv) (ctx : FullAuthContext) (tenantHeader : Option String) :
    Prog AgentSig String := do
  if ctx.subjectType ≠ .client then
    return ctx.tenantId
  else
    match tenantHeader with
    | none => return ctx.tenantId
    | some header =>
        if env.isUlid header = false then
          return ctx.tenantId
        else
          match ← ask (.gateway (.application (.getByPublicId ctx.subject))) with
          | .ok row => return if row.crossTenant then header else ctx.tenantId
          | .error _ => return ctx.tenantId

/-- What a request authenticates with, and its `x-tenant-id` header. -/
structure Credentials where
  bearerToken : Option String
  sessionCookie : Option String
  tenantHeader : Option String
deriving DecidableEq, Repr

/-- A bearer token comes before a session cookie. -/
def authenticate (env : AgentEnv) (creds : Credentials) : Middleware FullAuthContext :=
  match creds.bearerToken, creds.sessionCookie with
  | some token, _ => authenticateBearerToken env token
  | none, some cookie => authenticateSessionCookie env cookie
  | none, none => throw 401

/-- Source: `auth_middleware` on a path that is not public. -/
def authMiddleware (env : AgentEnv) (creds : Credentials) : Middleware RequestContext := do
  let ctx ← authenticate env creds
  let tenantId ← Prog.attempt (resolveTargetTenant env ctx creds.tenantHeader)
  Prog.attempt (ask (.attachContext tenantId ctx))
  return ⟨some tenantId, some ctx.toAuthContext⟩

end SsoGateway
