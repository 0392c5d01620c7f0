import SsoGateway.Scim

/-!
# Updating and deleting identities

The gateway owns the trait document of an identity, in `tenant_memberships`; Kratos holds the email.
Both copies are written by the admin call and by the settings flow of self-service, and an identity
from before the memberships gets one on the way.

* `updateIdentity`, `deleteIdentity` — the admin calls.
* `interceptSettingsProfile`, `submitSettingsFlow` — a profile update by the user.

Source: `services/identity.rs`, `services/identity_self_service.rs`.
-/

namespace SsoGateway

open Lib

/-! ## The admin calls -/

/-- Source: `resolve_identity` of the identity service: Kratos' id, and the membership, made from what
Kratos holds where there is none. -/
def resolveIdentity (tenantId publicId : String) : Service (String × TenantMembershipRow) := do
  let oryId ← Prog.orThrow ServiceError.ofDbError
    (IdMappingStore.getOryId tenantId .kratos publicId)
  match ← Prog.attempt (callDirectory (.getMembership tenantId publicId)) with
  | .ok membership => return (oryId, membership)
  | .error .membershipNotFound =>
      let identity ← Prog.orThrow mapOryError (callKratos (.getIdentity oryId))
      let membership ← Prog.orThrow ServiceError.ofDbError (callDirectory
        (.upsertMembership tenantId publicId ((identity.index "schema_id").asStr.getD "default") 1
          (identityTraits identity)))
      return (oryId, membership)
  | .error err => throw (.ofDbError err)

/-- Source: `UpdateIdentityRequest`. -/
structure UpdateIdentityRequest where
  id : String
  schemaId : String
  traits : Option (Except String Value)

/-- The email of a trait document. -/
def emailTrait (traits : Value) : Option String := (traits.get "email").bind Value.asStr

/-- An email that is set cannot be changed. -/
def requireSameEmail (current : Value) (email : String) : Except ServiceError Unit :=
  refuseIf ((emailTrait current).getD "" ≠ "" ∧ email ≠ (emailTrait current).getD "")
    (.invalidArgument "email is immutable")

/-- Source: `update_identity`. -/
def updateIdentity (cfg : IdentityConfig) (ctx : RequestContext) (req : UpdateIdentityRequest) :
    Service Identity := do
  let tenantId ← check (requireTenantScope ctx scopeIdentityAdmin)
  let (oryId, current) ← resolveIdentity tenantId req.id
  let schema ← resolveSchema tenantId (if req.schemaId = "" then current.schemaId else req.schemaId)
  let (traits, email) ← check (requestTraits cfg.compile schema req.traits)
  check (requireSameEmail current.traits email)
  let _ ← Prog.orThrow mapOryError (callKratos (.updateIdentity oryId
    (buildKratosIdentityPayload cfg.kratosDefaultSchemaId email "")))
  let membership ← Prog.orThrow ServiceError.ofDbError (callDirectory
    (.upsertMembership tenantId req.id schema.schemaId schema.version traits))
  return identityFromTraits tenantId req.id membership.schemaId traits

/-- Source: `delete_identity`. -/
def deleteIdentity (ctx : RequestContext) (id : String) : Service Unit := do
  let tenantId ← check (requireTenantScope ctx scopeIdentityAdmin)
  let oryId ← Prog.orThrow ServiceError.ofDbError (IdMappingStore.getOryId tenantId .kratos id)
  Prog.orThrow mapOryError (callKratos (.deleteIdentity oryId))
  Prog.orThrow ServiceError.ofDbError (IdMappingStore.delete tenantId .kratos id)

/-! ## The settings flow -/

/-- Source: `resolve_flow`. -/
def resolveFlow (tenantId publicFlowId : String) : Service String := do
  check (refuseIf (publicFlowId = "") (.invalidArgument "flow id is required"))
  match ← Prog.attempt (Prog.perform (S := Gateway)
      (.getOryToken tenantId .kratos "flow" publicFlowId)) with
  | .ok oryFlowId => return oryFlowId
  | .error .mappingNotFound =>
      let found ← Prog.orThrow ServiceError.ofDbError (Prog.perform (S := Gateway)
        (.getOryTokenGlobal .kratos "flow" publicFlowId))
      return found.2
  | .error err => throw (.ofDbError err)

/-- The identity of the session a profile update comes with. -/
def settingsIdentity (session : Value) : Except ServiceError String :=
  match (sessionIdentityId session).filter fun id => id ≠ "" with
  | some id => .ok id
  | none => .error (.unauthenticated "settings flow has no authenticated identity")

/-- The membership of the identity, made from the session under the tenant's default schema where
there is none. -/
def settingsMembership (tenantId publicId : String) (session : Value) :
    Service TenantMembershipRow := do
  match ← Prog.attempt (callDirectory (.getMembership tenantId publicId)) with
  | .ok membership => return membership
  | .error .membershipNotFound =>
      let schema ← Prog.orThrow ServiceError.ofDbError (callDirectory (.getDefaultSchema tenantId))
      Prog.orThrow ServiceError.ofDbError (callDirectory (.upsertMembership tenantId publicId
        schema.schemaId schema.version (.obj [("email", .str ((((session.get "identity").bind
          fun i => ((i.index "traits").index "email").asStr)).getD ""))])))
  | .error err => throw (.ofDbError err)

/-- The traits submitted over those stored, with the email as it is stored. -/
def mergeProfile (stored submitted : Value) : Value :=
  let merged := (submitted.asObject.getD []).foldl (fun (doc : Value) field =>
    doc.insert field.1 field.2) stored
  merged.insert "email" (.str ((emailTrait stored).getD ""))

/-- Source: `intercept_settings_profile`. Yields the body that goes to Kratos. -/
def interceptSettingsProfile (compile : SchemaCompiler) (tenantId : String)
    (cookie : Option String) (body : Value) : Service Value := do
  match (body.get "traits").bind Value.asObject with
  | none => return body
  | some fields =>
      let session ← Prog.orThrow mapSelfServiceOryError (callKratos (.toSession cookie))
      let oryId ← check (settingsIdentity session)
      let publicId ← Prog.orThrow ServiceError.ofDbError
        (IdMappingStore.getPublicId tenantId .kratos oryId)
      let membership ← settingsMembership tenantId publicId session
      let schema ← Prog.orThrow ServiceError.ofDbError
        (callDirectory (.getBySchemaId tenantId membership.schemaId))
      check (validateTraits compile schema.schemaJson (normalizeTraits (.obj fields)))
      let email ← check (extractEmail (normalizeTraits (.obj fields)))
      check (requireSameEmail membership.traits email)
      let _ ← Prog.orThrow ServiceError.ofDbError (callDirectory (.upsertMembership tenantId publicId
        membership.schemaId membership.version
        (mergeProfile membership.traits (normalizeTraits (.obj fields)))))
      return body.insert "traits"
        (.obj [("email", .str ((emailTrait membership.traits).getD ""))])

/-- Source: `submit_settings_flow`, up to Kratos' answer: the mapping of the flow ids in it touches
transient tokens only. -/
def submitSettingsFlow (compile : SchemaCompiler) (ctx : RequestContext) (cookie : Option String)
    (flowId : String) (body : Value) : Service (Except OryClientError Value) := do
  let oryFlowId ← resolveFlow (ctx.tenant.getD "") flowId
  let sent ← interceptSettingsProfile compile (ctx.tenant.getD "") cookie body
  Prog.attempt (callKratos (.submitSettingsFlow oryFlowId cookie sent))

end SsoGateway
