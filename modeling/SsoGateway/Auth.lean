import SsoGateway.Errors
import SsoGateway.Lib.Text

/-!
# Callers and scopes

The authentication context a request arrives with, the checks every service begins with, and the
families of OAuth2 scopes the gateway tells apart.

Source: `auth.rs`, the `require_*` functions of the services, `services/handlers/oauth2.rs`.
-/

namespace SsoGateway

open Lib

/-! ## Callers -/

/-- Source: `auth.rs` `SubjectType`. -/
inductive SubjectType where
  | user
  | agent
  | client
deriving DecidableEq, Repr

/-- Source: `auth.rs` `AuthContext` (the fields the modelled services read). -/
structure AuthContext where
  tenantId : String
  subject : String
  subjectType : SubjectType
  scopes : List String
deriving DecidableEq, Repr

/-- What the middleware attached to a request. -/
structure RequestContext where
  tenant : Option String
  auth : Option AuthContext
deriving DecidableEq, Repr

/-- Source: `require_tenant`. -/
def requireTenant (ctx : RequestContext) : Except ServiceError String :=
  match ctx.tenant with
  | some t => .ok t
  | none => .error (.unauthenticated "missing tenant")

/-- Source: `require_scope`. -/
def requireScope (ctx : RequestContext) (scope : String) : Except ServiceError Unit :=
  match ctx.auth with
  | none => .error (.unauthenticated "missing authentication context")
  | some auth =>
      if scope ∈ auth.scopes then .ok ()
      else .error (.permissionDenied ("missing required scope: " ++ scope))

/-- The checks every admin call on a tenant begins with. -/
def requireTenantScope (ctx : RequestContext) (scope : String) : Except ServiceError String := do
  let tenantId ← requireTenant ctx
  requireScope ctx scope
  return tenantId

/-! ## Scopes -/

/-- Source: `SCOPE_TENANT_ADMIN`. -/
def scopeTenantAdmin : String := "tenant:admin"

/-- Source: `SCOPE_IDENTITY_ADMIN`. -/
def scopeIdentityAdmin : String := "identity:admin"

/-- Source: `SCOPE_APPLICATION_ADMIN`. -/
def scopeApplicationAdmin : String := "application:admin"

/-- Source: `SCOPE_AGENT_ADMIN`. -/
def scopeAgentAdmin : String := "agent:admin"

/-- Source: `SCOPE_SCIM_ADMIN`. -/
def scopeScimAdmin : String := "scim:admin"

/-- Source: `KNOWN_SCOPES`. -/
def knownScopes : List String :=
  ["openid", scopeTenantAdmin, "tenant:read", scopeIdentityAdmin, "identity:read", scopeScimAdmin,
    "scim:read", "permission:admin", "permission:read", scopeApplicationAdmin, "application:read",
    scopeAgentAdmin, "agent:read", "agent:act"]

/-- Source: `MATRIX_CLIENT_SCOPE_PREFIX`. -/
def matrixClientScopePrefix : String := "urn:matrix:client:"

/-- Source: `MATRIX_CLIENT_SCOPE_PREFIX_MSC2967`. -/
def matrixClientScopePrefixMsc2967 : String := "urn:matrix:org.matrix.msc2967.client:"

/-- Source: `is_matrix_scope`. -/
def isMatrixScope (scope : String) : Bool :=
  startsWith scope matrixClientScopePrefix || startsWith scope matrixClientScopePrefixMsc2967

end SsoGateway
