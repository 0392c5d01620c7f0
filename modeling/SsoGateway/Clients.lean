import SsoGateway.Consent
import SsoGateway.PublicOauth2

/-!
# Creating clients

The admin calls that create an OAuth2 client at Hydra and map it: applications, client credentials
and agents; and the one that deletes an application.

* `registerClient` — a new public id, the client at Hydra, the mapping.
* `createApplication`, `createClientCredential`, `createAgent` — the calls.
* `deleteApplication` — the way back for an application.

Source: `services/application.rs`, `services/client_credential.rs`, `services/agent.rs`.
-/

namespace SsoGateway

open Lib

/-! ## Shared parts -/

/-- Source: `validate_scopes` of the client credentials, `validate_client_scopes` of the agents. -/
def validateClientScopes (scopes : List String) : Except ServiceError Unit :=
  if scopes = [] then .error (.invalidArgument "at least one scope is required")
  else
    match scopes.find? fun s => s ∉ knownScopes with
    | some scope => .error (.invalidArgument ("unknown scope: " ++ scope))
    | none => .ok ()

/-- The scopes of a client, as they are shown. -/
def shownScopes (client : Value) : List String :=
  match (client.index "scope").asStr with
  | some scope => if scope = "" then [] else splitAt scope ' '
  | none => []

/-- A text field of a client, or the empty text. -/
def textField (client : Value) (key : String) : String := (client.index key).asStr.getD ""

/-- A new client: a public id, the client at Hydra, and the mapping between the two. Yields the
public id and Hydra's document. -/
def registerClient (tenantId : String) (payload : String → Value) : Service (String × Value) := do
  let publicId ← Prog.attempt newUlid
  let created ← Prog.orThrow mapOryError (callHydra (.createOauth2Client (payload publicId)))
  let oryId ← check (match (created.index "client_id").asStr with
    | some id => .ok id
    | none => .error (.internal "hydra response missing client_id"))
  let _ ← Prog.orThrow ServiceError.ofDbError (IdMappingStore.create tenantId .hydra publicId oryId)
  return (publicId, created)

/-! ## Applications -/

/-- Configuration of the application service. Source: `ApplicationServiceImpl`. -/
structure ApplicationConfig where
  systemTenantUlid : String
  defaultEntitlementGroups : List String
  allowHttpRedirectUris : Bool
deriving DecidableEq, Repr

/-- Source: `CreateApplicationRequest`. -/
structure CreateApplicationRequest where
  name : String
  redirectUris : List String
  grantTypes : List String
  responseTypes : List String
  scope : List String
  tokenEndpointAuthMethod : String
  crossTenant : Bool
  skipConsent : Bool
deriving DecidableEq, Repr

/-- Source: `Application`. -/
structure Application where
  id : String
  tenantId : String
  name : String
  redirectUris : List String
  grantTypes : List String
  responseTypes : List String
  scope : List String
  tokenEndpointAuthMethod : String
  crossTenant : Bool
  skipConsent : Bool
  clientSecret : String
deriving DecidableEq, Repr

/-- Source: `is_system_tenant`. -/
def isSystemTenant (cfg : ApplicationConfig) (ctx : RequestContext) : Bool :=
  match ctx.auth with
  | some auth => auth.tenantId = cfg.systemTenantUlid
  | none => false

/-- Source: `build_hydra_payload` of the applications. -/
def CreateApplicationRequest.payload (req : CreateApplicationRequest) (clientId : String) : Value :=
  .obj [("client_id", .str clientId), ("client_name", .str req.name),
    ("redirect_uris", strings req.redirectUris), ("grant_types", strings req.grantTypes),
    ("response_types", strings req.responseTypes), ("scope", .str (joinSpace req.scope)),
    ("token_endpoint_auth_method", .str req.tokenEndpointAuthMethod),
    ("skip_consent", .bool req.skipConsent)]

/-- Source: `hydra_to_application`; the secret is added by the caller. -/
def hydraToApplication (client : Value) (tenantId publicId : String) (crossTenant : Bool) :
    Application :=
  { id := publicId
    tenantId := tenantId
    name := textField client "client_name"
    redirectUris := jsonStringArray (client.index "redirect_uris")
    grantTypes := jsonStringArray (client.index "grant_types")
    responseTypes := jsonStringArray (client.index "response_types")
    scope := shownScopes client
    tokenEndpointAuthMethod := textField client "token_endpoint_auth_method"
    crossTenant := crossTenant
    skipConsent := (client.index "skip_consent").asBool = some true
    clientSecret := "" }

/-- The checks of `create_application`; yields the caller's tenant. -/
def CreateApplicationRequest.validate (lib : Libraries) (cfg : ApplicationConfig)
    (ctx : RequestContext) (req : CreateApplicationRequest) : Except ServiceError String := do
  let tenantId ← requireTenant ctx
  requireScope ctx scopeApplicationAdmin
  refuseIf (req.crossTenant = true ∧ isSystemTenant cfg ctx = false)
    (.permissionDenied "only the system tenant can create cross-tenant applications")
  validateRedirectUris lib req.redirectUris cfg.allowHttpRedirectUris
  validateTokenEndpointAuthMethod req.tokenEndpointAuthMethod
  return tenantId

/-- Source: `create_application`. -/
def createApplication (lib : Libraries) (cfg : ApplicationConfig) (ctx : RequestContext)
    (req : CreateApplicationRequest) : Service Application := do
  let tenantId ← check (req.validate lib cfg ctx)
  let (publicId, created) ← registerClient tenantId req.payload
  let _ ← Prog.orThrow ServiceError.ofDbError
    (ApplicationStore.create tenantId publicId req.crossTenant .admin)
  Prog.orThrow id
    (EntitlementService.seedApplication tenantId publicId cfg.defaultEntitlementGroups)
  return { hydraToApplication created tenantId publicId req.crossTenant with
    clientSecret := textField created "client_secret" }

/-- Source: `delete_application`. That the row could not be deleted is ignored. -/
def deleteApplication (ctx : RequestContext) (id : String) : Service Unit := do
  let tenantId ← check (requireTenantScope ctx scopeApplicationAdmin)
  let oryId ← Prog.orThrow ServiceError.ofDbError (IdMappingStore.getOryId tenantId .hydra id)
  Prog.orThrow mapOryError (callHydra (.deleteOauth2Client oryId))
  let _ ← Prog.attempt (ApplicationStore.delete tenantId id)
  Prog.orThrow ServiceError.ofDbError (IdMappingStore.delete tenantId .hydra id)

/-! ## Client credentials -/

/-- Source: `CreateClientCredentialRequest`. -/
structure CreateClientCredentialRequest where
  name : String
  scope : List String
  tokenEndpointAuthMethod : String
deriving DecidableEq, Repr

/-- Source: `ClientCredential`. -/
structure ClientCredential where
  id : String
  tenantId : String
  name : String
  scope : List String
  tokenEndpointAuthMethod : String
  clientSecret : String
deriving DecidableEq, Repr

/-- Source: `validate_or_default_token_endpoint_auth_method`. -/
def validateOrDefaultTokenEndpointAuthMethod (method : String) : Except ServiceError String :=
  if method = "" then .ok "client_secret_basic"
  else if method ∈ ["client_secret_post", "client_secret_basic"] then .ok method
  else .error (.invalidArgument
    "token_endpoint_auth_method must be one of [\"client_secret_post\", \"client_secret_basic\"]")

/-- Source: `build_hydra_payload` of the client credentials; agents send the same document. -/
def credentialPayload (name : String) (scope : List String) (method clientId : String) : Value :=
  .obj [("client_id", .str clientId), ("client_name", .str name),
    ("grant_types", strings ["client_credentials"]), ("scope", .str (joinSpace scope)),
    ("token_endpoint_auth_method", .str method)]

/-- Source: `hydra_to_client_credential`; the secret is added by the caller. -/
def hydraToClientCredential (client : Value) (tenantId publicId : String) : ClientCredential :=
  { id := publicId
    tenantId := tenantId
    name := textField client "client_name"
    scope := shownScopes client
    tokenEndpointAuthMethod := textField client "token_endpoint_auth_method"
    clientSecret := "" }

/-- The checks of `create_client_credential`; yields the caller's tenant and the method. -/
def CreateClientCredentialRequest.validate (ctx : RequestContext)
    (req : CreateClientCredentialRequest) : Except ServiceError (String × String) := do
  let tenantId ← requireTenant ctx
  requireScope ctx scopeApplicationAdmin
  validateClientScopes req.scope
  let method ← validateOrDefaultTokenEndpointAuthMethod req.tokenEndpointAuthMethod
  return (tenantId, method)

/-- Source: `create_client_credential`. -/
def createClientCredential (ctx : RequestContext) (req : CreateClientCredentialRequest) :
    Service ClientCredential := do
  let (tenantId, method) ← check (req.validate ctx)
  let (publicId, created) ← registerClient tenantId (credentialPayload req.name req.scope method)
  return { hydraToClientCredential created tenantId publicId with
    clientSecret := textField created "client_secret" }

/-! ## Agents -/

/-- Source: `CreateAgentRequest`. -/
structure CreateAgentRequest where
  name : String
  scope : List String
deriving DecidableEq, Repr

/-- Source: `Agent`; the instants are left out. -/
structure Agent where
  id : String
  tenantId : String
  name : String
  ownerIdentityId : String
  status : String
  clientSecret : String
deriving DecidableEq, Repr

/-- Source: `agent_to_proto`; the secret is added by the caller. -/
def agentToProto (row : AgentRow) : Agent :=
  ⟨row.id, row.tenantId, row.name, row.ownerIdentityId.getD "", row.status, ""⟩

/-- The owner of a new agent: its creator, if that is a human. -/
def agentOwner (ctx : RequestContext) : Option String :=
  (ctx.auth.filter fun auth => auth.subjectType = .user).map (·.subject)

/-- The checks of `create_agent`; yields the caller's tenant. -/
def CreateAgentRequest.validate (ctx : RequestContext) (req : CreateAgentRequest) :
    Except ServiceError String := do
  let tenantId ← requireTenant ctx
  requireScope ctx scopeAgentAdmin
  refuseIf (req.name = "") (.invalidArgument "name is required")
  validateClientScopes req.scope
  return tenantId

/-- The client of a new agent; if it cannot be created, the agent's row is deleted again. -/
def createAgentClient (tenantId : String) (agent : AgentRow) (payload : Value) : Service Value := do
  match ← Prog.attempt (callHydra (.createOauth2Client payload)) with
  | .ok created => return created
  | .error err =>
      let _ ← Prog.attempt (Prog.perform (S := Gateway) (.agent (.delete tenantId agent.id)))
      throw (mapOryError err)

/-- The mapping of a new agent; if it cannot be written, the client and the row are deleted again. -/
def mapAgent (tenantId : String) (agent : AgentRow) (oryId : String) : Service Unit := do
  match ← Prog.attempt (IdMappingStore.create tenantId .hydra agent.id oryId) with
  | .ok _ => return ()
  | .error err =>
      let _ ← Prog.attempt (callHydra (.deleteOauth2Client oryId))
      let _ ← Prog.attempt (Prog.perform (S := Gateway) (.agent (.delete tenantId agent.id)))
      throw (.ofDbError err)

/-- Source: `create_agent`. -/
def createAgent (ctx : RequestContext) (req : CreateAgentRequest) : Service Agent := do
  let tenantId ← check (req.validate ctx)
  let agent ← Prog.orThrow ServiceError.ofDbError
    (Prog.perform (S := Gateway) (.agent (.create tenantId (agentOwner ctx) req.name)))
  let created ← createAgentClient tenantId agent
    (credentialPayload req.name req.scope "client_secret_basic" agent.id)
  mapAgent tenantId agent ((created.index "client_id").asStr.getD agent.id)
  return { agentToProto agent with clientSecret := textField created "client_secret" }

end SsoGateway
