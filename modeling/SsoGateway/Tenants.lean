import SsoGateway.AgentTokens
import SsoGateway.Clients
import SsoGateway.PermissionReads
import SsoGateway.Lib.Table
import SsoGateway.Lib.Translate

/-!
# Tenants

The tenant service, the change of an application, and what of both is kept for the system tenant.

A request travels with two tenants: the one its credential belongs to (`AuthContext.tenant_id`), and
the one the middleware lets it act in (`TenantId`), which a flagged client chooses by its
`x-tenant-id` header.

* `TenantService.createTenant`, `getTenant`, `listTenants`; `updateApplication` — the calls.
* `tenantRequest` — a request: its target tenant is resolved, then its call is made.
* `SystemReserved` — the uses of the calls that are kept for the system tenant.

Source: `services/tenant.rs`, `services/application.rs`, `db/tenant.rs`, `middleware.rs`.
-/

namespace SsoGateway

open Lib

/-! ## The table of tenants -/

/-- Source: `db/tenant.rs` `TenantRow`, with `created_at`. -/
structure TenantDetails where
  id : String
  slug : String
  displayName : String
  isSystem : Bool
  settings : Value
  createdAt : ℤ

/-- `tenants.id PRIMARY KEY`, `slug TEXT UNIQUE`. -/
def TenantDetails.Conflicts (t t' : TenantDetails) : Prop := t.id = t'.id ∨ t.slug = t'.slug

instance : DecidableRel TenantDetails.Conflicts := fun t t' =>
  inferInstanceAs (Decidable (t.id = t'.id ∨ t.slug = t'.slug))

/-- `INSERT INTO tenants`, as the other tables see it. -/
def Db.insertTenant (db : Db) (t : TenantRow) : Db :=
  { db with
    tenants := t :: db.tenants
    mappingTenant := fun m hm => by
      obtain ⟨t', ht', hid⟩ := db.mappingTenant m hm
      exact ⟨t', List.mem_cons_of_mem t ht', hid⟩
    applicationTenant := fun a ha => by
      obtain ⟨t', ht', hid⟩ := db.applicationTenant a ha
      exact ⟨t', List.mem_cons_of_mem t ht', hid⟩
    agentTenant := fun a ha => by
      obtain ⟨t', ht', hid⟩ := db.agentTenant a ha
      exact ⟨t', List.mem_cons_of_mem t ht', hid⟩ }

/-- The row as `UPDATE applications SET cross_tenant = b WHERE tenant_id = t AND public_id = p`
leaves it. -/
def flagApplication (tenantId publicId : String) (crossTenant : Bool) (a : ApplicationRow) :
    ApplicationRow :=
  if a.tenantId = tenantId ∧ a.publicId = publicId then { a with crossTenant := crossTenant } else a

@[simp] theorem flagApplication_publicId (t p : String) (b : Bool) (a : ApplicationRow) :
    (flagApplication t p b a).publicId = a.publicId := by
  unfold flagApplication
  split <;> rfl

@[simp] theorem flagApplication_tenantId (t p : String) (b : Bool) (a : ApplicationRow) :
    (flagApplication t p b a).tenantId = a.tenantId := by
  unfold flagApplication
  split <;> rfl

/-- `UPDATE applications SET cross_tenant = b WHERE tenant_id = t AND public_id = p`. -/
def Db.setCrossTenant (db : Db) (tenantId publicId : String) (crossTenant : Bool) : Db :=
  { db with
    applications := db.applications.map (flagApplication tenantId publicId crossTenant)
    applicationKey := by
      rw [List.pairwise_map]
      exact db.applicationKey.imp fun h => by simpa using h
    applicationMapping := fun a ha => by
      obtain ⟨a', ha', rfl⟩ := List.mem_map.mp ha
      rw [flagApplication_publicId]
      exact db.applicationMapping a' ha'
    applicationTenant := fun a ha => by
      obtain ⟨a', ha', rfl⟩ := List.mem_map.mp ha
      rw [flagApplication_tenantId]
      exact db.applicationTenant a' ha' }

/-- The agents' world, with the table of tenants. -/
structure TenantWorld where
  agents : AgentWorld
  tenants : Table TenantDetails TenantDetails.Conflicts

/-! ## The calls -/

/-- Every call of the middleware, the tenant service and the application service. -/
inductive TenantOp where
  | agents (op : AgentServiceOp)
  | createTenant (slug displayName : String) (settings : Value)
  | getTenant (id : String)
  | listTenants
  /-- `EntitlementService::ensure_namespace`. -/
  | ensureNamespace (tenantId : String)
  | setCrossTenant (tenantId publicId : String) (crossTenant : Bool)

/-- The answers. -/
@[reducible] def TenantOp.Res : TenantOp → Type
  | .agents op => op.Res
  | .createTenant _ _ _ => Except DbError TenantDetails
  | .getTenant _ => Except DbError TenantDetails
  | .listTenants => Except DbError (List TenantDetails)
  | .ensureNamespace _ => Except ServiceError Unit
  | .setCrossTenant _ _ _ => Except DbError ApplicationRow

/-- The signature of the two services. -/
@[reducible] def TenantSig : Sig := ⟨TenantOp, TenantOp.Res⟩

namespace TenantWorld

/-- The gateway's database changes. -/
def withDb (w : TenantWorld) (db : Db) : TenantWorld :=
  { w with agents := w.agents.cascade { w.agents.base with db := db } }

/-- A new row of `tenants`. -/
def insertTenant (w : TenantWorld) (row : TenantDetails) : Except DbError TenantDetails × TenantWorld :=
  match w.tenants.insert? row with
  | some tenants =>
      (.ok row, { w.withDb (w.agents.base.db.insertTenant ⟨row.id⟩) with tenants := tenants })
  | none => (.error Db.duplicateKey, w)

/-- `UPDATE applications SET cross_tenant = b … RETURNING …`. -/
def setCrossTenant (w : TenantWorld) (tenantId publicId : String) (crossTenant : Bool) :
    Except DbError ApplicationRow × TenantWorld :=
  match w.agents.base.db.applications.find? fun a => a.tenantId = tenantId ∧ a.publicId = publicId with
  | some a => (.ok (flagApplication tenantId publicId crossTenant a),
      w.withDb (w.agents.base.db.setCrossTenant tenantId publicId crossTenant))
  | none => (.error .applicationNotFound, w)

end TenantWorld

/-- What every call does. -/
def tenantGateway (env : AgentEnv) : Handler TenantSig Choice TenantWorld
  | .agents op, c, w =>
      let r := agentGateway env op c w.agents
      (r.1, { w with agents := r.2 })
  | .createTenant slug displayName settings, c, w =>
      Fault.answer Fault.sqlx w
        (w.insertTenant ⟨c.ulid, slug, displayName, false, settings, c.now⟩) (c.fault 0)
  | .getTenant id, c, w =>
      Fault.answer Fault.sqlx w
        (orNotFound .tenantNotFound (fun t => t) (w.tenants.find? fun t => t.id = id), w) (c.fault 0)
  | .listTenants, c, w =>
      Fault.answer Fault.sqlx w
        (.ok (w.tenants.rows.insertionSort fun t t' => t'.createdAt ≤ t.createdAt), w) (c.fault 0)
  | .ensureNamespace tenantId, c, w =>
      let r := (EntitlementServiceImpl.ensureNamespace tenantId).run.run
        (permissionHandler env.gateway.checkDepth) c.fault w.agents.base.tuples
      (r.1, { w with agents := w.agents.cascade { w.agents.base with tuples := r.2 } })
  | .setCrossTenant t p b, c, w =>
      Fault.answer Fault.sqlx w (w.setCrossTenant t p b) (c.fault 0)

/-- A method of the two services. -/
abbrev TenantMethod (α : Type) := ExceptT ServiceError (Prog TenantSig) α

/-- One call. -/
abbrev tenantCall (op : TenantOp) : Prog TenantSig op.Res := Prog.perform (S := TenantSig) op

/-- A call of the middleware. -/
def agentCall (op : AgentServiceOp) : Prog TenantSig op.Res := tenantCall (.agents op)

/-- A call of the gateway's services. -/
def gatewayCall (op : GatewayOp) : Prog TenantSig op.Res := tenantCall (.agents (.gateway op))

/-- Lift a pure check into a method. -/
def TenantMethod.check {α : Type} (r : Except ServiceError α) : TenantMethod α := ExceptT.mk (pure r)

/-! ## The tenant service -/

/-- Source: `SCOPE_TENANT_READ`. -/
def scopeTenantRead : String := "tenant:read"

/-- Source: `CreateTenantRequest`. -/
structure CreateTenantRequest where
  slug : String
  displayName : String
  settings : List (String × String)
deriving DecidableEq, Repr

namespace TenantService

/-- The checks of `create_tenant`. The tenant compared is the one the request acts in. -/
def createTenantChecks (cfg : ApplicationConfig) (ctx : RequestContext) : Except ServiceError Unit := do
  let callerTenantId ← requireTenant ctx
  requireScope ctx scopeTenantAdmin
  refuseIf (callerTenantId ≠ cfg.systemTenantUlid)
    (.permissionDenied "only the system tenant can create tenants")

/-- Source: `create_tenant`; yields the row. -/
def createTenant (cfg : ApplicationConfig) (ctx : RequestContext) (req : CreateTenantRequest) :
    TenantMethod TenantDetails := do
  TenantMethod.check (createTenantChecks cfg ctx)
  let settings := Value.obj (req.settings.map fun kv => (kv.1, .str kv.2))
  let row ← Prog.orThrow ServiceError.ofDbError
    (tenantCall (.createTenant req.slug req.displayName settings))
  Prog.orThrow id (tenantCall (.ensureNamespace row.id))
  return row

/-- The checks of a read; yields the tenant the request acts in. -/
def tenantReader (ctx : RequestContext) : Except ServiceError String := do
  let callerTenantId ← requireTenant ctx
  requireScopeAny ctx [scopeTenantRead, scopeTenantAdmin]
  return callerTenantId

/-- The checks of `get_tenant`. -/
def getTenantChecks (cfg : ApplicationConfig) (ctx : RequestContext) (id : String) :
    Except ServiceError Unit := do
  let callerTenantId ← tenantReader ctx
  refuseIf (id ≠ callerTenantId ∧ isSystemTenant cfg ctx = false)
    (.permissionDenied "cannot access tenant")

/-- Source: `get_tenant`; yields the row. -/
def getTenant (cfg : ApplicationConfig) (ctx : RequestContext) (id : String) :
    TenantMethod TenantDetails := do
  TenantMethod.check (getTenantChecks cfg ctx id)
  Prog.orThrow ServiceError.ofDbError (tenantCall (.getTenant id))

/-- The rows `list_tenants` shows. -/
def shownTenants (cfg : ApplicationConfig) (ctx : RequestContext) (callerTenantId : String)
    (rows : List TenantDetails) : List TenantDetails :=
  if isSystemTenant cfg ctx then rows else rows.filter fun r => r.id = callerTenantId

/-- Source: `list_tenants`; yields the rows. -/
def listTenants (cfg : ApplicationConfig) (ctx : RequestContext) : TenantMethod (List TenantDetails) := do
  let callerTenantId ← TenantMethod.check (tenantReader ctx)
  let rows ← Prog.orThrow ServiceError.ofDbError (tenantCall .listTenants)
  return shownTenants cfg ctx callerTenantId rows

end TenantService

/-! ## Changing an application -/

/-- Source: `UpdateApplicationRequest`. -/
structure UpdateApplicationRequest where
  id : String
  name : String
  redirectUris : List String
  grantTypes : List String
  responseTypes : List String
  scope : List String
  tokenEndpointAuthMethod : String
  crossTenant : Option Bool
  skipConsent : Option Bool
deriving DecidableEq, Repr

/-- Source: `string_or_current`. -/
def stringOrCurrent (new : String) (current : Value) : Value := if new = "" then current else .str new

/-- Source: `list_or_current`. -/
def listOrCurrent (new : List String) (current : Value) : Value :=
  if new = [] then current else strings new

/-- Source: `build_hydra_update_payload`. -/
def UpdateApplicationRequest.payload (req : UpdateApplicationRequest) (oryId : String)
    (existing : Value) : Value :=
  .obj [("client_id", .str oryId),
    ("client_name", stringOrCurrent req.name (existing.index "client_name")),
    ("redirect_uris", listOrCurrent req.redirectUris (existing.index "redirect_uris")),
    ("grant_types", listOrCurrent req.grantTypes (existing.index "grant_types")),
    ("response_types", listOrCurrent req.responseTypes (existing.index "response_types")),
    ("scope", stringOrCurrent (joinSpace req.scope) (existing.index "scope")),
    ("token_endpoint_auth_method",
      stringOrCurrent req.tokenEndpointAuthMethod (existing.index "token_endpoint_auth_method")),
    ("skip_consent", .bool (match req.skipConsent with
      | some b => b
      | none => (existing.index "skip_consent").asBool = some true))]

/-- The checks of `update_application`; yields the tenant the request acts in. -/
def UpdateApplicationRequest.validate (lib : Libraries) (cfg : ApplicationConfig)
    (ctx : RequestContext) (req : UpdateApplicationRequest) : Except ServiceError String := do
  let tenantId ← requireTenant ctx
  requireScope ctx scopeApplicationAdmin
  validateRedirectUris lib req.redirectUris cfg.allowHttpRedirectUris
  validateTokenEndpointAuthMethod req.tokenEndpointAuthMethod
  refuseIf (req.crossTenant = some true ∧ isSystemTenant cfg ctx = false)
    (.permissionDenied "only the system tenant can enable cross-tenant applications")
  return tenantId

/-- The flag of an application, where the request sets it. -/
def writeCrossTenant (tenantId id : String) : Option Bool → TenantMethod Unit
  | some b => do
      let _ ← Prog.orThrow ServiceError.ofDbError (tenantCall (.setCrossTenant tenantId id b))
  | none => return ()

/-- Whether the application is flagged, as far as it can be read. -/
def isCrossTenant : Except DbError ApplicationRow → Bool
  | .ok row => row.crossTenant
  | .error _ => false

/-- Source: `update_application`. -/
def updateApplication (lib : Libraries) (cfg : ApplicationConfig) (ctx : RequestContext)
    (req : UpdateApplicationRequest) : TenantMethod Application := do
  let tenantId ← TenantMethod.check (req.validate lib cfg ctx)
  let oryId ← Prog.orThrow ServiceError.ofDbError
    (gatewayCall (.mapping (.getOryId tenantId .hydra req.id)))
  writeCrossTenant tenantId req.id req.crossTenant
  let existing ← Prog.orThrow mapOryError (gatewayCall (.hydra (.getOauth2Client oryId)))
  let updated ← Prog.orThrow mapOryError
    (gatewayCall (.hydra (.updateOauth2Client oryId (req.payload oryId existing))))
  let row ← Prog.attempt (gatewayCall (.application (.get tenantId req.id)))
  return hydraToApplication updated tenantId req.id (isCrossTenant row)

/-! ## Requests -/

/-- The calls some of whose uses are kept for the system tenant. -/
inductive TenantRequest where
  | createTenant (req : CreateTenantRequest)
  | getTenant (id : String)
  | listTenants
  | createApplication (req : CreateApplicationRequest)
  | updateApplication (req : UpdateApplicationRequest)

/-- What they answer with. -/
inductive TenantReply where
  | tenant (row : TenantDetails)
  | tenants (rows : List TenantDetails)
  | application (app : Application)

/-- The method of a call. -/
def TenantRequest.method (lib : Libraries) (cfg : ApplicationConfig) (ctx : RequestContext) :
    TenantRequest → TenantMethod TenantReply
  | .createTenant req => .tenant <$> TenantService.createTenant cfg ctx req
  | .getTenant id => .tenant <$> TenantService.getTenant cfg ctx id
  | .listTenants => .tenants <$> TenantService.listTenants cfg ctx
  | .createApplication req =>
      .application <$> Prog.translateT (S := Gateway) gatewayCall
        (SsoGateway.createApplication lib cfg ctx req)
  | .updateApplication req => .application <$> SsoGateway.updateApplication lib cfg ctx req

/-- A request with the context of its credential: the tenant it acts in is resolved, then its call is
made. Yields that tenant and the answer. -/
def tenantRequest (env : AgentEnv) (lib : Libraries) (cfg : ApplicationConfig) (ctx : FullAuthContext)
    (tenantHeader : Option String) (op : TenantRequest) :
    Prog TenantSig (String × Except ServiceError TenantReply) := do
  let target ← (resolveTargetTenant env ctx tenantHeader).translate agentCall
  tenantCall (.agents (.attachContext target ctx))
  let reply ← (op.method lib cfg ⟨some target, some ctx.toAuthContext⟩).run
  return (target, reply)

/-- A use of a call that is kept for the system tenant: creating a tenant, reading another than
`own`, creating or flagging a cross-tenant application. -/
def SystemReserved (own : String) : TenantRequest → TenantReply → Prop
  | .createTenant _, _ => True
  | .getTenant id, _ => id ≠ own
  | .listTenants, .tenants rows => ∃ t ∈ rows, t.id ≠ own
  | .listTenants, _ => False
  | .createApplication req, _ => req.crossTenant = true
  | .updateApplication req, _ => req.crossTenant = some true

end SsoGateway
