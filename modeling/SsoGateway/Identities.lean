import SsoGateway.Consent
import SsoGateway.PublicOauth2

/-!
# Creating identities

The ways an identity of Kratos gets a public id and a membership in a tenant: the admin call, SCIM,
self-service registration and upstream federation.

* `normalizeTraits`, `validateTraits`, `extractEmail` — the checks of a trait document.
* `createIdentity` — the admin call.
* `createUser` — the SCIM call, with the groups of the new user.
* `provisionIdentityFromRegistrationResult` — after a self-service registration.
* `findOrCreateByEmail` — the end of every federated login.

Source: `services/identity.rs`, `services/scim.rs`, `services/identity_self_service.rs`,
`identity_provisioner.rs`.
-/

namespace SsoGateway

open Lib

/-! ## Traits -/

/-- A JSON schema compiler: the text of its error, or a validator with the text of its error.
Source: `jsonschema::validator_for`. -/
abbrev SchemaCompiler := Value → Except String (Value → Except String Unit)

/-- Source: `traits_subschema`. -/
def traitsSubschema (schemaJson : Value) : Value :=
  ((schemaJson.get "properties").bind fun p => p.get "traits").getD schemaJson

/-- Source: `normalize_traits`. -/
def normalizeTraits (traits : Value) : Value :=
  match (traits.get "email").bind Value.asStr with
  | some email =>
      let normalized := toAsciiLowercase (trim email)
      if normalized ≠ email then traits.setIndex "email" (.str normalized) else traits
  | none => traits

/-- Source: `extract_email`. -/
def extractEmail (traits : Value) : Except ServiceError String :=
  match ((traits.get "email").bind Value.asStr).filter fun s => s ≠ "" with
  | some email => .ok email
  | none => .error (.invalidArgument "traits.email is required")

mutual

/-- Does a schema refer to another document? Source: `reject_remote_refs`. -/
def hasRemoteRef : Value → Bool
  | .obj fields =>
      (match fields.lookup "$ref" with
        | some (.str r) => !startsWith r "#"
        | _ => false) || fieldsHaveRemoteRef fields
  | .arr items => itemsHaveRemoteRef items
  | _ => false

/-- Does one of the items refer to another document? -/
def itemsHaveRemoteRef : List Value → Bool
  | [] => false
  | v :: items => hasRemoteRef v || itemsHaveRemoteRef items

/-- Does one of the fields refer to another document? -/
def fieldsHaveRemoteRef : List (String × Value) → Bool
  | [] => false
  | (_, v) :: fields => hasRemoteRef v || fieldsHaveRemoteRef fields

end

/-- Source: `validate_schema_depth`, from the top. -/
def validateSchemaDepth (value : Value) : Except ServiceError Unit :=
  refuseIf (10 < value.depth) (.invalidArgument "identity schema exceeds maximum depth of 10")

/-- Source: `validate_traits`. -/
def validateTraits (compile : SchemaCompiler) (schemaJson traits : Value) :
    Except ServiceError Unit := do
  let traitsSchema := traitsSubschema schemaJson
  refuseIf (64 * 1024 < traitsSchema.render.utf8ByteSize)
    (.invalidArgument "identity schema exceeds maximum size of 64KiB")
  validateSchemaDepth traitsSchema
  refuseIf (hasRemoteRef traitsSchema = true)
    (.invalidArgument "identity schema contains remote $ref")
  validateSchemaDepth traits
  let validator ← (compile traitsSchema).mapError fun e =>
    .invalidArgument ("invalid identity schema: " ++ e)
  (validator traits).mapError fun e => .invalidArgument ("traits validation failed: " ++ e)

/-- A call on the tables about identities. -/
abbrev callDirectory (op : DirectoryOp) : Prog Gateway op.Res :=
  Prog.perform (S := Gateway) (.directory op)

/-- Source: `resolve_schema` of the identity and SCIM services. -/
def resolveSchema (tenantId schemaId : String) : Service IdentitySchemaRow :=
  if schemaId = "" then
    Prog.orThrow ServiceError.ofDbError (callDirectory (.getDefaultSchema tenantId))
  else Prog.orThrow ServiceError.ofDbError (callDirectory (.getBySchemaId tenantId schemaId))

/-! ## The admin call -/

/-- Configuration of the services that create identities. -/
structure IdentityConfig where
  kratosDefaultSchemaId : String
  compile : SchemaCompiler

/-- Source: `CreateIdentityRequest`. The traits are as converted to JSON, or the text of the error
of that conversion. -/
structure CreateIdentityRequest where
  schemaId : String
  traits : Option (Except String Value)
  password : String

/-- Source: `Identity`. -/
structure Identity where
  id : String
  tenantId : String
  schemaId : String
  traits : Option Value

/-- Source: `identity_from_traits`. Only an object is shown. -/
def identityFromTraits (tenantId publicId schemaId : String) (traits : Value) : Identity :=
  ⟨publicId, tenantId, schemaId, traits.asObject.map .obj⟩

/-- Source: `build_kratos_identity_payload`. -/
def buildKratosIdentityPayload (baseSchemaId email password : String) : Value :=
  let payload := .obj [("schema_id", .str baseSchemaId), ("traits", .obj [("email", .str email)])]
  if password = "" then payload
  else payload.setIndex "credentials"
    (.obj [("password", .obj [("config", .obj [("password", .str password)])])])

/-- The traits of a request, normalized and checked, with their email. -/
def requestTraits (compile : SchemaCompiler) (schema : IdentitySchemaRow)
    (traits : Option (Except String Value)) : Except ServiceError (Value × String) := do
  let document ← match traits with
    | some (.ok document) => .ok document
    | some (.error e) => .error (.invalidArgument ("invalid traits: " ++ e))
    | none => .ok (.obj [])
  validateTraits compile schema.schemaJson (normalizeTraits document)
  let email ← extractEmail (normalizeTraits document)
  return (normalizeTraits document, email)

/-- A new identity at Kratos and its mapping. Yields Kratos' id and the public id. -/
def registerIdentity (tenantId : String) (payload : Value) : Service (String × String) := do
  let created ← Prog.orThrow mapOryError (callKratos (.createIdentity payload))
  let oryId ← check (match (created.index "id").asStr with
    | some id => .ok id
    | none => .error (.internal "kratos response missing id"))
  let publicId ← Prog.attempt newUlid
  let _ ← Prog.orThrow ServiceError.ofDbError (IdMappingStore.create tenantId .kratos publicId oryId)
  return (oryId, publicId)

/-- The membership of a new identity; if it cannot be written, the identity is deleted again. -/
def enrollIdentity (tenantId oryId publicId : String) (schema : IdentitySchemaRow) (traits : Value) :
    Service Unit := do
  match ← Prog.attempt (callDirectory
      (.upsertMembership tenantId publicId schema.schemaId schema.version traits)) with
  | .ok _ => return ()
  | .error err =>
      let _ ← Prog.attempt (callKratos (.deleteIdentity oryId))
      throw (.ofDbError err)

/-- Source: `create_identity`. -/
def createIdentity (cfg : IdentityConfig) (ctx : RequestContext) (req : CreateIdentityRequest) :
    Service Identity := do
  let tenantId ← check (requireTenantScope ctx scopeIdentityAdmin)
  let schema ← resolveSchema tenantId req.schemaId
  let (traits, email) ← check (requestTraits cfg.compile schema req.traits)
  let (oryId, publicId) ← registerIdentity tenantId
    (buildKratosIdentityPayload cfg.kratosDefaultSchemaId email req.password)
  enrollIdentity tenantId oryId publicId schema traits
  return identityFromTraits tenantId publicId schema.schemaId traits

/-! ## SCIM -/

/-- Source: `ScimUser`. Structures of the protocol are JSON objects here. -/
structure ScimUser where
  id : String
  userName : String
  name : Option Value
  emails : List Value
  active : Bool
  groups : List String
  metadata : Option Value

/-- Source: `scim_user_to_traits`. -/
def scimUserToTraits (user : ScimUser) : Value :=
  .obj [("userName", .str user.userName),
    ("email", .str (((user.emails.head?.bind fun e => e.get "value").bind Value.asStr).getD "")),
    ("name", user.name.getD .null), ("active", .bool user.active)]

/-- The error of a permission backend, as a service reports it. Source: the conversions
`From<OryClientError> for PermissionBackendError` and `From<PermissionBackendError> for
ServiceError`. -/
def backendServiceError : OryClientError → ServiceError
  | .ory status message => .ofStatus status message
  | .http message => .unavailable message
  | .serialization message => .serialization message
  | .url message => .configuration message
  | .invalidResponse message => .unavailable message
  | .missingTenant => .configuration "missing tenant context"
  | .redirect _ _ => .unavailable "unexpected redirect"

/-- Source: `add_user_to_group`. -/
def addUserToGroup (tenantId userId groupId : String) : Service Unit := do
  let _ ← Prog.orThrow ServiceError.ofDbError (IdMappingStore.getOryId tenantId .kratos userId)
  Prog.orThrow ServiceError.ofDbError (callDirectory (.addMember tenantId groupId userId))
  Prog.orThrow backendServiceError (callDirectory (.ensureGroupNamespace tenantId))
  Prog.orThrow backendServiceError (callDirectory (.createGroupTuple tenantId groupId userId))
  Prog.orThrow id (EntitlementService.setGroupMembership tenantId groupId userId true)

/-- The user a trait document and a list of groups stand for. Source: the end of `load_user`. -/
def scimUserOf (publicId : String) (traits : Value) (groups : List String) : ScimUser :=
  let email := (traits.index "email").asStr.getD ""
  { id := publicId
    userName := (traits.index "userName").asStr.getD email
    name := ((traits.get "name").bind Value.asObject).map .obj
    emails := if email = "" then [] else
      [.obj [("value", .str email), ("primary", .bool true), ("type", .str "work")]]
    active := (traits.index "active").asBool ≠ some false
    groups := groups
    metadata := some (.obj [("resourceType", .str "User")]) }

/-- Source: `load_user`; the schema that `resolve_identity` looks up on the way is not used. -/
def loadUser (tenantId publicId : String) : Service ScimUser := do
  let oryId ← Prog.orThrow ServiceError.ofDbError
    (IdMappingStore.getOryId tenantId .kratos publicId)
  let _ ← Prog.attempt (callKratos (.getIdentity oryId))
  let identity ← Prog.orThrow mapOryError (callKratos (.getIdentity oryId))
  let groups ← Prog.orThrow ServiceError.ofDbError (callDirectory (.listUserGroups publicId))
  return scimUserOf publicId (identity.index "traits") groups

/-- The checks of `create_user`: the tenant, and the user to create. -/
def requireUser (ctx : RequestContext) (user : Option ScimUser) :
    Except ServiceError (String × ScimUser) := do
  let tenantId ← requireTenantScope ctx scopeScimAdmin
  match user with
  | some user => return (tenantId, user)
  | none => .error (.invalidArgument "user is required")

/-- Source: `create_user`. -/
def createUser (compile : SchemaCompiler) (ctx : RequestContext) (user : Option ScimUser) :
    Service ScimUser := do
  let (tenantId, input) ← check (requireUser ctx user)
  let schema ← resolveSchema tenantId ""
  check (validateTraits compile schema.schemaJson (scimUserToTraits input))
  let (_, publicId) ← registerIdentity tenantId
    (.obj [("schema_id", .str schema.schemaId), ("traits", scimUserToTraits input)])
  input.groups.forM (addUserToGroup tenantId publicId)
  loadUser tenantId publicId

/-! ## Self-service registration -/

/-- Source: `cookie_header_from_set_cookies`. -/
def cookieHeaderFromSetCookies (setCookies : List String) : Option String :=
  let pairs := (setCookies.map fun cookie => trim ((splitAt cookie ';').headD "")).filter
    fun pair => '=' ∈ pair.toList
  if pairs = [] then none else some (String.intercalate "; " pairs)

/-- The membership of a mapped identity; if it cannot be written, the mapping is deleted again. -/
def enrollSelfService (compile : SchemaCompiler) (tenantId publicId : String)
    (schema : IdentitySchemaRow) (traits : Value) : Service Unit := do
  match validateTraits compile schema.schemaJson traits with
  | .error err =>
      let _ ← Prog.attempt (IdMappingStore.delete tenantId .kratos publicId)
      throw err
  | .ok () =>
      match ← Prog.attempt (callDirectory
          (.upsertMembership tenantId publicId schema.schemaId schema.version traits)) with
      | .ok _ => return ()
      | .error err =>
          let _ ← Prog.attempt (IdMappingStore.delete tenantId .kratos publicId)
          throw (.ofDbError err)

/-- The traits of an identity document: an object, or the empty one. -/
def identityTraits (identity : Value) : Value :=
  match identity.index "traits" with
  | .obj fields => .obj fields
  | _ => .obj []

/-- Source: `provision_self_service_identity`. -/
def provisionSelfServiceIdentity (compile : SchemaCompiler) (tenantId : String) (identity : Value) :
    Service Unit := do
  let oryId ← check (match (identity.index "id").asStr with
    | some id => .ok id
    | none => .error (.internal "kratos self-service identity missing id"))
  match ← Prog.attempt (IdMappingStore.getPublicId tenantId .kratos oryId) with
  | .ok _ => return ()
  | .error _ =>
      let publicId ← Prog.attempt newUlid
      let _ ← Prog.orThrow ServiceError.ofDbError
        (IdMappingStore.create tenantId .kratos publicId oryId)
      let schema ← Prog.orThrow ServiceError.ofDbError (callDirectory (.getDefaultSchema tenantId))
      enrollSelfService compile tenantId publicId schema (normalizeTraits (identityTraits identity))

/-- The identity a registration ended with: that of the flow, or of the session that comes with a
redirect. -/
def registeredIdentity (result : Except OryClientError Value) : Prog Gateway (Option Value) := do
  match result with
  | .ok body => return some (body.index "identity")
  | .error (.redirect _ setCookies) =>
      match cookieHeaderFromSetCookies setCookies with
      | none => return none
      | some cookie =>
          match ← callKratos (.toSession (some cookie)) with
          | .ok session => return some (session.index "identity")
          | .error _ => return none
  | .error _ => return none

/-- Source: `provision_identity_from_registration_result`. -/
def provisionIdentityFromRegistrationResult (compile : SchemaCompiler) (tenantId : String)
    (result : Except OryClientError Value) : Service Unit := do
  match (← Prog.attempt (registeredIdentity result)).filter
      fun identity => (identity.index "id").asStr.isSome with
  | some identity => provisionSelfServiceIdentity compile tenantId identity
  | none => return ()

/-! ## Federation -/

/-- Source: `ProvisionError`. -/
inductive ProvisionError where
  | missingEmail
  | emailNotVerified
  | missingSchema
  | kratos (err : OryClientError)
  | database (err : DbError)
  | invalidResponse (message : String)

/-- Source: `ProvisionedIdentity`. -/
structure ProvisionedIdentity where
  tenantId : String
  publicId : String
  oryId : String
  email : String
deriving DecidableEq, Repr

/-- A step of the provisioner. -/
abbrev Provision (α : Type) := ExceptT ProvisionError (Prog Gateway) α

/-- The id of an identity document. -/
def documentId (message : String) (identity : Value) : Except ProvisionError String :=
  match (identity.index "id").asStr with
  | some id => .ok id
  | none => .error (.invalidResponse message)

/-- The public id of an identity that Kratos knows, mapped on the spot where it is not mapped in the
tenant. -/
def linkIdentity (tenantId oryId : String) : Provision String := do
  match ← Prog.attempt (IdMappingStore.getPublicId tenantId .kratos oryId) with
  | .ok publicId => return publicId
  | .error .mappingNotFound =>
      let publicId ← Prog.attempt newUlid
      let _ ← Prog.orThrow ProvisionError.database
        (IdMappingStore.create tenantId .kratos publicId oryId)
      return publicId
  | .error err => throw (.database err)

/-- A new identity at Kratos with the given email, and its mapping. -/
def provisionIdentity (cfg : IdentityConfig) (tenantId email : String) :
    Provision (String × String) := do
  let created ← Prog.orThrow ProvisionError.kratos (callKratos (.createIdentity
    (.obj [("schema_id", .str cfg.kratosDefaultSchemaId), ("traits", .obj [("email", .str email)])])))
  let oryId ← ExceptT.mk (pure (documentId "created identity missing id" created))
  let publicId ← Prog.attempt newUlid
  let mapping ← Prog.orThrow ProvisionError.database
    (IdMappingStore.create tenantId .kratos publicId oryId)
  return (oryId, mapping.publicId)

/-- Source: `ensure_membership`. -/
def ensureMembership (tenantId publicId : String) (schema : IdentitySchemaRow) (traits : Value) :
    Provision Unit := do
  match ← Prog.attempt (callDirectory (.getMembership tenantId publicId)) with
  | .ok _ => return ()
  | .error .membershipNotFound =>
      let _ ← Prog.orThrow ProvisionError.database (callDirectory
        (.upsertMembership tenantId publicId schema.schemaId schema.version traits))
      return ()
  | .error err => throw (.database err)

/-- The identity of an email in Kratos, linked or created. Yields its id and its public id. -/
def linkOrProvision (cfg : IdentityConfig) (tenantId email : String) :
    Provision (String × String) := do
  let existing ← Prog.orThrow ProvisionError.kratos
    (callKratos (.listIdentitiesByIdentifier tenantId (tenantId ++ ":" ++ email)))
  match existing.asArray.bind List.head? with
  | some identity =>
      let oryId ← ExceptT.mk (pure (documentId "identity missing id" identity))
      let publicId ← linkIdentity tenantId oryId
      return (oryId, publicId)
  | none => provisionIdentity cfg tenantId email

/-- Source: `find_or_create_by_email`. -/
def findOrCreateByEmail (lib : Libraries) (cfg : IdentityConfig) (tenantId : String)
    (schema : IdentitySchemaRow) (traits : Value) : Provision ProvisionedIdentity := do
  let email ← ExceptT.mk (pure ((extractEmail traits).mapError fun e =>
    .invalidResponse (lib.displayServiceError e)))
  let (oryId, publicId) ← linkOrProvision cfg tenantId email
  ensureMembership tenantId publicId schema traits
  return ⟨tenantId, publicId, oryId, email⟩

end SsoGateway
