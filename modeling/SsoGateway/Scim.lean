import SsoGateway.Identities

/-!
# SCIM: users and groups

The rest of the SCIM service. A membership is kept in three places: the table `scim_group_members`,
a tuple of the namespace `scim_group` in the permission backend, and the membership tuple of the
entitlement store; each operation visits them in separate calls.

* `updateUser`, `deleteUser` — the user operations beside `createUser`.
* `createGroup`, `updateGroup`, `deleteGroup` — the group operations.

Source: `services/scim.rs`, `db/scim_group.rs`.
-/

namespace SsoGateway

open Lib

/-! ## Users -/

/-- Kratos' id of a user. Source: `resolve_identity` of the SCIM service; the schema it looks up on
the way is used by no caller. -/
def resolveUser (tenantId publicId : String) : Service String := do
  let oryId ← Prog.orThrow ServiceError.ofDbError
    (IdMappingStore.getOryId tenantId .kratos publicId)
  let _ ← Prog.attempt (callKratos (.getIdentity oryId))
  return oryId

/-- Leave a group in the entitlement store. -/
def leaveGroup (tenantId userId groupId : String) : Service Unit :=
  Prog.orThrow id (EntitlementService.setGroupMembership tenantId groupId userId false)

/-- Replace the groups of a user, when there are any to replace them with. -/
def replaceGroups (tenantId userId : String) (groups : List String) : Service Unit :=
  if groups = [] then pure ()
  else do
    let oldGroups ← Prog.orThrow ServiceError.ofDbError (callDirectory (.listUserGroups userId))
    Prog.orThrow ServiceError.ofDbError (callDirectory (.removeUserFromAllGroups userId))
    oldGroups.forM (leaveGroup tenantId userId)
    groups.forM (addUserToGroup tenantId userId)

/-- Source: `update_user`. -/
def updateUser (compile : SchemaCompiler) (ctx : RequestContext) (id : String)
    (user : Option ScimUser) : Service ScimUser := do
  let (tenantId, input) ← check (requireUser ctx user)
  let oryId ← resolveUser tenantId id
  let schema ← resolveSchema tenantId ""
  check (validateTraits compile schema.schemaJson (scimUserToTraits input))
  let _ ← Prog.orThrow mapOryError (callKratos (.updateIdentity oryId
    (.obj [("schema_id", .str schema.schemaId), ("traits", scimUserToTraits input)])))
  replaceGroups tenantId id input.groups
  loadUser tenantId id

/-- Source: `delete_user`. -/
def deleteUser (ctx : RequestContext) (id : String) : Service Unit := do
  let tenantId ← check (requireTenantScope ctx scopeScimAdmin)
  let oryId ← Prog.orThrow ServiceError.ofDbError (IdMappingStore.getOryId tenantId .kratos id)
  let groupIds ← Prog.orThrow ServiceError.ofDbError (callDirectory (.listUserGroups id))
  groupIds.forM (leaveGroup tenantId id)
  Prog.orThrow ServiceError.ofDbError (callDirectory (.removeUserFromAllGroups id))
  Prog.orThrow mapOryError (callKratos (.deleteIdentity oryId))
  Prog.orThrow ServiceError.ofDbError (IdMappingStore.delete tenantId .kratos id)

/-! ## Groups -/

/-- Source: `ScimMember`. -/
structure ScimMember where
  value : String
  display : String
  type : String

/-- Source: `ScimGroup`. -/
structure ScimGroup where
  id : String
  displayName : String
  members : List ScimMember
  metadata : Option Value

/-- A member as a group shows it: under the name of the user, or the id if that cannot be loaded. -/
def loadMember (tenantId userId : String) : Prog Gateway ScimMember := do
  match ← (loadUser tenantId userId).run with
  | .ok user => return ⟨userId, user.userName, "User"⟩
  | .error _ => return ⟨userId, userId, "User"⟩

/-- Source: `load_group`. -/
def loadGroup (tenantId : String) (row : ScimGroupRow) : Service ScimGroup := do
  let memberIds ← Prog.orThrow ServiceError.ofDbError (callDirectory (.listMembers row.id))
  let members ← Prog.attempt (memberIds.mapM (loadMember tenantId))
  return ⟨row.id, row.displayName, members, some (.obj [("resourceType", .str "Group")])⟩

/-- Add the members of a request that are users. -/
def addMembers (tenantId groupId : String) (members : List ScimMember) : Service Unit :=
  members.forM fun member =>
    if member.type = "User" ∨ member.type = "" then addUserToGroup tenantId member.value groupId
    else pure ()

/-- The checks of a group operation: the tenant, and the group of the request. -/
def requireGroup (ctx : RequestContext) (group : Option ScimGroup) :
    Except ServiceError (String × ScimGroup) := do
  let tenantId ← requireTenantScope ctx scopeScimAdmin
  match group with
  | some group => return (tenantId, group)
  | none => .error (.invalidArgument "group is required")

/-- Source: `create_group`. -/
def createGroup (ctx : RequestContext) (group : Option ScimGroup) : Service ScimGroup := do
  let (tenantId, input) ← check (requireGroup ctx group)
  let row ← Prog.orThrow ServiceError.ofDbError
    (callDirectory (.createGroup tenantId input.displayName))
  addMembers tenantId row.id input.members
  loadGroup tenantId row

/-- Take one member out of a group; that the tuple could not be deleted is ignored. -/
def removeFromGroup (tenantId groupId userId : String) : Service Unit := do
  Prog.orThrow ServiceError.ofDbError (callDirectory (.removeMember groupId userId))
  leaveGroup tenantId userId groupId
  let _ ← Prog.attempt (callDirectory (.deleteGroupTuple tenantId groupId userId))

/-- Source: `update_group`. -/
def updateGroup (ctx : RequestContext) (id : String) (group : Option ScimGroup) :
    Service ScimGroup := do
  let (tenantId, input) ← check (requireGroup ctx group)
  let row ← Prog.orThrow ServiceError.ofDbError
    (callDirectory (.updateGroup tenantId id input.displayName))
  Prog.orThrow backendServiceError (callDirectory (.ensureGroupNamespace tenantId))
  let existing ← Prog.orThrow ServiceError.ofDbError (callDirectory (.listMembers id))
  existing.forM (removeFromGroup tenantId id)
  addMembers tenantId id input.members
  loadGroup tenantId row

/-- Take one member's tuples out of a group that is going to be deleted. -/
def expelFromGroup (tenantId groupId userId : String) : Service Unit := do
  leaveGroup tenantId userId groupId
  let _ ← Prog.attempt (callDirectory (.deleteGroupTuple tenantId groupId userId))

/-- Source: `delete_group`. -/
def deleteGroup (ctx : RequestContext) (id : String) : Service Unit := do
  let tenantId ← check (requireTenantScope ctx scopeScimAdmin)
  Prog.orThrow backendServiceError (callDirectory (.ensureGroupNamespace tenantId))
  let members ← Prog.orThrow ServiceError.ofDbError (callDirectory (.listMembers id))
  members.forM (expelFromGroup tenantId id)
  Prog.orThrow ServiceError.ofDbError (callDirectory (.deleteGroup tenantId id))

end SsoGateway
