import Mathlib.Data.List.Lex
import Mathlib.Data.String.Basic
import SsoGateway.Permission
import SsoGateway.Lib.Json

/-!
# The entitlement service

Who may use which application, kept as relation tuples in the reserved namespace `entitlements` of
each tenant's store: an application and a group are objects, `member` and `admin` are relations,
and an application is opened to a group by a subject set `entitlements:<group>#member`.

* `seedApplication`, `removeApplication`, `check`, `hasAnyTuples`, `effectiveScopeCeiling`,
  `grant`, `setGroupMembership`, `mintClaim` — the methods of `EntitlementServiceImpl`, as programs
  over the calls of the permission backend.

Source: `services/entitlement.rs`.
-/

namespace SsoGateway

open Lib

/-! ## Names -/

/-- Source: `ENTITLEMENT_NAMESPACE`. -/
def entitlementNamespace : String := "entitlements"

/-- Source: `GATEWAY_APP_OBJECT`. -/
def gatewayAppObject : String := "sso-gateway"

/-- Source: `MEMBER_REL`. -/
def memberRel : String := "member"

/-- Source: `ADMIN_REL`. -/
def adminRel : String := "admin"

/-- Source: `EntitlementLevel`. -/
inductive EntitlementLevel where
  | member
  | admin
deriving DecidableEq, Repr

/-- Source: `EntitlementLevel::relation`. -/
def EntitlementLevel.relation : EntitlementLevel → String
  | .member => memberRel
  | .admin => adminRel

/-- Source: `admin_scope_ceiling`. -/
def adminScopeCeiling : List String :=
  ["tenant:admin", "tenant:read", "identity:admin", "identity:read", "scim:admin", "scim:read",
    "permission:admin", "permission:read", "application:admin", "application:read",
    "agent:admin", "agent:read"]

/-- Source: `read_scope_ceiling`. -/
def readScopeCeiling : List String :=
  ["tenant:read", "identity:read", "scim:read", "permission:read", "application:read",
    "agent:read"]

/-- Source: `oidc_scope_ceiling`. -/
def oidcScopeCeiling : List String := ["openid", "profile", "email", "offline_access"]

/-- A tuple of the entitlement namespace. -/
def entitlementKey (object relation subjectId : String) : RelationTupleKey :=
  ⟨entitlementNamespace, object, relation, subjectId⟩

/-- Source: `map_backend_error`. -/
def mapBackendError (err : PermissionBackendError) : ServiceError :=
  .internal ("entitlement backend error: " ++ err.text)

namespace EntitlementServiceImpl

/-- A method of the service that may fail. -/
abbrev Method (α : Type) := ExceptT ServiceError (Prog PermissionSig) α

/-! ## Methods -/

/-- Source: `ensure_namespace`. -/
def ensureNamespace (tenantId : String) : Method Unit :=
  .orThrow mapBackendError (Prog.perform (S := PermissionSig)
    (.ensureModel tenantId entitlementNamespace))

/-- `backend.ensure_tuples(…)`. -/
def ensureTuples (tenantId : String) (writes deletes : List RelationTupleKey) : Method Unit :=
  .orThrow mapBackendError (Prog.perform (S := PermissionSig)
    (.ensureTuples tenantId writes deletes))

/-- The subject set of a group's members. -/
def groupMembers (group : String) : String :=
  entitlementNamespace ++ ":" ++ group ++ "#" ++ memberRel

/-- The links that open an application to its groups. -/
def groupLinks (appPublicId : String) (groups : List String) : List RelationTupleKey :=
  groups.flatMap fun group =>
    [entitlementKey appPublicId memberRel (groupMembers group),
      entitlementKey appPublicId adminRel (groupMembers group)]

/-- Source: `seed_application`. -/
def seedApplication (tenantId appPublicId : String) (groups : List String) : Method Unit := do
  ensureNamespace tenantId
  let writes := groupLinks appPublicId groups
  if writes ≠ [] then
    ensureTuples tenantId writes []

/-- Source: `check`. -/
def check (tenantId identityId appPublicId relation : String) : Method Bool :=
  .orThrow mapBackendError (Prog.perform (S := PermissionSig)
    (.checkPermission tenantId entitlementNamespace appPublicId relation identityId))

/-- Source: `has_any_tuples`. -/
def hasAnyTuples (tenantId appPublicId : String) : Method Bool := do
  let tuples ← (.orThrow mapBackendError (Prog.perform (S := PermissionSig)
    (.readTuples tenantId entitlementNamespace appPublicId)) : Method (List RelationTupleKey))
  return !tuples.isEmpty

/-- `backend.list_users(…)` on one relation of an application. -/
def listUsers (tenantId appPublicId relation : String) : Method (List String) :=
  .orThrow mapBackendError (Prog.perform (S := PermissionSig)
    (.listUsers tenantId entitlementNamespace appPublicId relation))

/-- The order in which deletes are sorted before they are deduplicated. -/
def keyLe (a b : RelationTupleKey) : Bool :=
  [a.nspace, a.object, a.relation, a.subjectId] ≤ [b.nspace, b.object, b.relation, b.subjectId]

/-- Source: `remove_application`. -/
def removeApplication (tenantId appPublicId : String) : Method Unit := do
  let users ← listUsers tenantId appPublicId memberRel
  let admins ← listUsers tenantId appPublicId adminRel
  let deletes := (users ++ admins).flatMap fun subject =>
    [entitlementKey appPublicId memberRel subject, entitlementKey appPublicId adminRel subject]
  ensureTuples tenantId [] ((deletes.mergeSort keyLe).dedup)

/-- A check whose failure counts as a refusal. -/
def checkOrFalse (tenantId identityId appPublicId relation : String) : Prog PermissionSig Bool := do
  match ← (check tenantId identityId appPublicId relation).run with
  | .ok allowed => return allowed
  | .error _ => return false

/-- Source: `effective_scope_ceiling`. -/
def effectiveScopeCeiling (tenantId identityId : String) : Prog PermissionSig (List String) := do
  let isGatewayAdmin ← checkOrFalse tenantId identityId gatewayAppObject adminRel
  if isGatewayAdmin then
    return adminScopeCeiling ++ oidcScopeCeiling
  let isGatewayMember ← checkOrFalse tenantId identityId gatewayAppObject memberRel
  if isGatewayMember then
    return readScopeCeiling ++ oidcScopeCeiling
  return oidcScopeCeiling

/-- Source: `grant`. -/
def grant (tenantId identityId appPublicId : String) (level : EntitlementLevel) :
    Method Unit := do
  ensureNamespace tenantId
  ensureTuples tenantId [entitlementKey appPublicId level.relation identityId] []

/-- Source: `set_group_membership`. -/
def setGroupMembership (tenantId groupName identityId : String) (member : Bool) :
    Method Unit := do
  ensureNamespace tenantId
  let key := entitlementKey groupName memberRel identityId
  if member then ensureTuples tenantId [key] [] else ensureTuples tenantId [] [key]

/-- The claim for the levels found. Source: the end of `mint_claim`. -/
def claimOf (appPublicId : String) (isMember isAdmin : Bool) : Value :=
  let levels := (if isMember then ["member"] else []) ++ if isAdmin then ["admin"] else []
  if levels = [] then .null
  else .obj [("entitlements", .obj [(appPublicId, .arr (levels.map .str))])]

/-- Source: `mint_claim`. -/
def mintClaim (tenantId identityId appPublicId : String) : Prog PermissionSig Value := do
  let isMember ← checkOrFalse tenantId identityId appPublicId memberRel
  let isAdmin ← checkOrFalse tenantId identityId appPublicId adminRel
  return claimOf appPublicId isMember isAdmin

end EntitlementServiceImpl

end SsoGateway
