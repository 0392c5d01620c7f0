import SsoGateway.Auth
import SsoGateway.PermissionStores
import SsoGateway.Lib.Machine

/-!
# The permission service

The calls of the permission service that write: namespaces are ensured and deleted, tuples created,
deleted and written in batches. Each is a program over the stores, for either backend.

* `Keto`, `OpenFga` — the two backends; `PermissionBackend` — the one a deployment has.
* `ensurePermissionNamespace`, `deletePermissionNamespace`, `createRelationTuple`,
  `deleteRelationTuple`, `writeRelationTuples` — the calls.
* `PermissionRequest`, `permissionStep` — a request, and the step it makes of the stores.

OpenFGA batches go out store by store, in the order of a hash map; the order is left to the
environment.

Source: `services/permission.rs`, `services/entitlement.rs`.
-/

namespace SsoGateway

open Lib

/-- A method of a backend that may fail. -/
abbrev BackendMethod (α : Type) := ExceptT BackendError (Prog PermissionStoreSig) α

/-- A method of the service that may fail. -/
abbrev PermissionMethod (α : Type) := ExceptT ServiceError (Prog PermissionStoreSig) α

/-- A call to the registry. -/
def registryCall {α : Type} (p : Prog PermissionStoreSig (Except DbError α)) : BackendMethod α :=
  .orThrow BackendError.ofDbError p

/-- Source: `SCOPE_PERMISSION_ADMIN`. -/
def scopePermissionAdmin : String := "permission:admin"

/-! ## Keto -/

namespace Keto

/-- Source: `KetoClient` `create_relation_tuple`. -/
def createRelationTuple (tenantId : String) (key : RelationTupleKey) : BackendMethod Unit :=
  .orThrow BackendError.ofOryClientError
    (Prog.perform (S := PermissionStoreSig) (.ketoCreate (ketoTuple tenantId key)))

/-- Source: `KetoClient` `delete_relation_tuple`. -/
def deleteRelationTuple (tenantId : String) (key : RelationTupleKey) : BackendMethod Unit :=
  .orThrow BackendError.ofOryClientError
    (Prog.perform (S := PermissionStoreSig) (.ketoDelete (ketoTuple tenantId key)))

/-- Source: `KetoClient` `write_tuples`. -/
def writeTuples (tenantId : String) (writes deletes : List RelationTupleKey) : BackendMethod Unit := do
  writes.forM (createRelationTuple tenantId)
  deletes.forM (deleteRelationTuple tenantId)

end Keto

/-! ## OpenFGA -/

namespace OpenFga

/-- A call to OpenFGA. -/
def fgaCall {α : Type} (p : Prog PermissionStoreSig (Except OpenFgaClientError α)) :
    BackendMethod α :=
  .orThrow BackendError.ofOpenFgaClientError p

/-- The store a record points to; empty where there is none. -/
def storeOf (record : NamespaceRow) : String := record.storeId.getD ""

/-- The record has a store and a model to write to. -/
def Provisioned (record : NamespaceRow) : Prop :=
  storeOf record ≠ "" ∧ record.modelId.getD "" ≠ ""

instance : DecidablePred Provisioned := fun record =>
  inferInstanceAs (Decidable (storeOf record ≠ "" ∧ record.modelId.getD "" ≠ ""))

/-- The error of a namespace that cannot be written to. -/
def notConfigured (tenantId nspace : String) : BackendError :=
  .namespaceNotConfigured ("tenant " ++ tenantId ++ " namespace " ++ nspace ++
    " has no OpenFGA store/model")

/-- The record, if it is there and can be written to. -/
def usable (tenantId nspace : String) : Option NamespaceRow → Except BackendError NamespaceRow
  | some record => if Provisioned record then .ok record else .error (notConfigured tenantId nspace)
  | none => .error (notConfigured tenantId nspace)

/-- Source: `resolve_mapping`. -/
def resolveMapping (tenantId nspace : String) : BackendMethod NamespaceRow := do
  let record ← registryCall (Prog.perform (S := PermissionStoreSig)
    (.getNamespaceByType tenantId nspace))
  ExceptT.mk (Pure.pure (usable tenantId nspace record))

/-- The records so far, with the one for a key. -/
def resolveInto (tenantId : String) (records : List (String × NamespaceRow))
    (key : RelationTupleKey) : BackendMethod (List (String × NamespaceRow)) :=
  match records.lookup key.nspace with
  | some _ => Pure.pure records
  | none => do
      let record ← resolveMapping tenantId key.nspace
      return records ++ [(key.nspace, record)]

/-- The namespaces of the keys, each with its record, resolved in the order they come up. -/
def resolveAll (tenantId : String) (keys : List RelationTupleKey) :
    BackendMethod (List (String × NamespaceRow)) :=
  keys.foldlM (resolveInto tenantId) []

/-- The store a key is written to. -/
def storeOfKey (records : List (String × NamespaceRow)) (key : RelationTupleKey) : String :=
  ((records.lookup key.nspace).map storeOf).getD ""

/-- The keys of one store, as OpenFGA takes them. -/
def keysOf (records : List (String × NamespaceRow)) (storeId : String)
    (keys : List RelationTupleKey) : List FgaTuple :=
  (keys.filter fun key => storeOfKey records key = storeId).map clientTupleKey

/-- The current model of a store. -/
def modelOfStore (records : List (String × NamespaceRow)) (storeId : String) : String :=
  ((records.find? fun r => r.2.storeId = some storeId).bind fun r => r.2.modelId).getD ""

/-- Source: `write_tuples`. -/
def writeTuples (order : List String → List String) (tenantId : String)
    (writes deletes : List RelationTupleKey) : BackendMethod Unit := do
  let records ← resolveAll tenantId (writes ++ deletes)
  (order ((writes ++ deletes).map (storeOfKey records)).dedup).forM fun storeId =>
    fgaCall (Prog.perform (S := PermissionStoreSig) (.writeTuples storeId
      (modelOfStore records storeId) (keysOf records storeId writes) (keysOf records storeId deletes)))

/-- Source: `persist_record`. -/
def persistRecord (tenantId nspace : String) (model : Value) (storeId modelId : String) :
    BackendMethod Unit := do
  let _ ← registryCall (Prog.perform (S := PermissionStoreSig)
    (.upsertNamespace ⟨tenantId, nspace, model, some storeId, some modelId⟩))

/-- A new version of the model, and the record that points to it. -/
def publish (tenantId nspace : String) (model : Value) (storeId : String) : BackendMethod Unit := do
  let modelId ← fgaCall (Prog.perform (S := PermissionStoreSig) (.writeModel storeId model))
  persistRecord tenantId nspace model storeId modelId

/-- The store of a namespace: one left behind by an earlier attempt, or a new one. -/
def adoptStore (tenantId nspace : String) : BackendMethod String := do
  let storeName := tenantId ++ "-" ++ nspace
  let found ← fgaCall (Prog.perform (S := PermissionStoreSig) (.findStoreByName storeName))
  match found with
  | some storeId => return storeId
  | none => fgaCall (Prog.perform (S := PermissionStoreSig) (.createStore storeName))

/-- The rest of `ensure_model`, once it is known what is registered. -/
def converge (tenantId nspace : String) (model : Value) : Option NamespaceRow → BackendMethod Unit
  | some record =>
      if storeOf record ≠ "" then
        if record.model.same model then Pure.pure ()
        else publish tenantId nspace model (storeOf record)
      else do
        let storeId ← adoptStore tenantId nspace
        publish tenantId nspace model storeId
  | none => do
      let storeId ← adoptStore tenantId nspace
      publish tenantId nspace model storeId

/-- Source: `ensure_model`. -/
def ensureModel (tenantId nspace : String) (model : Value) : BackendMethod Unit := do
  let existing ← registryCall (Prog.perform (S := PermissionStoreSig) (.getNamespace tenantId nspace))
  converge tenantId nspace model existing

/-- A store that is gone counts as deleted. -/
def ignoreMissing : Except OpenFgaClientError Unit → Except BackendError Unit
  | .ok () => .ok ()
  | .error (.openFga status message) =>
      if status = 404 then .ok () else .error (.openFga status message)
  | .error e => .error (.ofOpenFgaClientError e)

/-- The rest of `delete_namespace`, once it is known what is registered. -/
def dropStore : Option NamespaceRow → BackendMethod Unit
  | some record =>
      if storeOf record = "" then Pure.pure ()
      else ExceptT.mk (ignoreMissing <$>
        Prog.perform (S := PermissionStoreSig) (.deleteStore (storeOf record)))
  | none => Pure.pure ()

/-- Source: `delete_namespace`. -/
def deleteNamespace (tenantId nspace : String) : BackendMethod Unit := do
  let existing ← registryCall (Prog.perform (S := PermissionStoreSig) (.getNamespace tenantId nspace))
  dropStore existing

end OpenFga

/-! ## The backend of a deployment -/

/-- The backends. -/
inductive PermissionBackend where
  | keto
  | openFga
deriving DecidableEq, Repr

namespace PermissionBackend

/-- Source: `PermissionBackend::create_relation_tuple`. -/
def createRelationTuple (b : PermissionBackend) (order : List String → List String)
    (tenantId : String) (key : RelationTupleKey) : BackendMethod Unit :=
  match b with
  | .keto => Keto.createRelationTuple tenantId key
  | .openFga => OpenFga.writeTuples order tenantId [key] []

/-- Source: `PermissionBackend::delete_relation_tuple`. -/
def deleteRelationTuple (b : PermissionBackend) (order : List String → List String)
    (tenantId : String) (key : RelationTupleKey) : BackendMethod Unit :=
  match b with
  | .keto => Keto.deleteRelationTuple tenantId key
  | .openFga => OpenFga.writeTuples order tenantId [] [key]

/-- Source: `PermissionBackend::write_tuples`. -/
def writeTuples (b : PermissionBackend) (order : List String → List String) (tenantId : String)
    (writes deletes : List RelationTupleKey) : BackendMethod Unit :=
  match b with
  | .keto => Keto.writeTuples tenantId writes deletes
  | .openFga => OpenFga.writeTuples order tenantId writes deletes

/-- Source: `PermissionBackend::ensure_model`. Keto has no models. -/
def ensureModel (b : PermissionBackend) (tenantId nspace : String) (model : Value) :
    BackendMethod Unit :=
  match b with
  | .keto => Pure.pure ()
  | .openFga => OpenFga.ensureModel tenantId nspace model

/-- Source: `PermissionBackend::delete_namespace`. Keto has nothing to tear down. -/
def deleteNamespace (b : PermissionBackend) (tenantId nspace : String) : BackendMethod Unit :=
  match b with
  | .keto => Pure.pure ()
  | .openFga => OpenFga.deleteNamespace tenantId nspace

end PermissionBackend

/-! ## What a request is checked for -/

/-- Source: `is_valid_type_name`. -/
def isValidTypeName (name : String) : Bool :=
  match name.toList with
  | [] => false
  | c :: cs => (c :: cs).length ≤ 128 && c.isAlpha &&
      (c :: cs).all fun d => d.isAlphanum || d == '_'

/-- Source: `validate_namespace_name`. -/
def validateNamespaceName (name : String) : Except ServiceError Unit :=
  if isValidTypeName name then .ok ()
  else .error (.invalidArgument ("invalid namespace name " ++ Value.quote name ++
    ": must match [A-Za-z][A-Za-z0-9_] up to 128 chars"))

/-- The type of a definition; empty where it has none. -/
def typeOfDefinition (d : Value) : String := ((d.get "type").bind Value.asStr).getD ""

/-- The checks of the type definitions, one after another. -/
def checkDefinitions (seen : List String) : List Value → Except ServiceError Unit
  | [] => .ok ()
  | d :: defs =>
      match (d.get "type").bind Value.asStr with
      | none => .error (.invalidArgument "every type definition must have a string type")
      | some type =>
          if isValidTypeName type then
            if type ∈ seen then .error (.invalidArgument ("duplicate type definition: " ++ type))
            else checkDefinitions (type :: seen) defs
          else .error (.invalidArgument ("invalid type name " ++ Value.quote type ++
            ": must match [A-Za-z][A-Za-z0-9_] up to 128 chars"))

/-- Source: `validate_and_normalize_model`. -/
def validateAndNormalizeModel (model : Value) : Except ServiceError Value :=
  match model with
  | .obj fields =>
      match (fields.lookup "schema_version").bind Value.asStr with
      | none => .error (.invalidArgument "model.schema_version must be a non-empty string")
      | some version =>
          if version = "" then
            .error (.invalidArgument "model.schema_version must be a non-empty string")
          else match (fields.lookup "type_definitions").bind Value.asArray with
            | none | some [] =>
                .error (.invalidArgument "model.type_definitions must be a non-empty array")
            | some (d :: defs) => do
                checkDefinitions [] (d :: defs)
                return (Value.obj fields).insert "type_definitions"
                  (.arr ((d :: defs).insertionSort fun a b => typeOfDefinition a ≤ typeOfDefinition b))
  | _ => .error (.invalidArgument "model must be a JSON object")

/-- What `EnsurePermissionNamespace` checks before it reads anything: the tenant and the model. -/
def checkEnsure (ctx : RequestContext) (nspace : String) (model : Option Value) :
    Except ServiceError (String × Value) := do
  let tenantId ← requireTenantScope ctx scopePermissionAdmin
  validateNamespaceName nspace
  match model with
  | none => .error (.invalidArgument "model is required")
  | some model => do
      let model ← validateAndNormalizeModel model
      return (tenantId, model)

/-- Source: `MAX_BATCH_KEYS`. -/
def maxBatchKeys : ℕ := 100

/-- Source: `tuple_key_from_proto`. -/
def tupleKeyFromProto (key : RelationTupleKey) : Except ServiceError RelationTupleKey :=
  if key.nspace = "" ∨ key.object = "" ∨ key.relation = "" ∨ key.subjectId = "" then
    .error (.invalidArgument "tuple key requires namespace, object, relation, and subject_id")
  else .ok key

/-- The check of the number of keys of one direction. -/
def checkBatch (direction : String) (keys : List RelationTupleKey) : Except ServiceError Unit :=
  if maxBatchKeys < keys.length then
    .error (.invalidArgument (direction ++ " exceeds the maximum of " ++ toString maxBatchKeys ++
      " tuple keys"))
  else .ok ()

/-- What `WriteRelationTuples` checks before it writes anything. -/
def checkWrite (ctx : RequestContext) (writes deletes : List RelationTupleKey) :
    Except ServiceError String := do
  let tenantId ← requireTenantScope ctx scopePermissionAdmin
  if writes = [] ∧ deletes = [] then
    .error (.invalidArgument "at least one tuple key is required")
  else do
    checkBatch "writes" writes
    checkBatch "deletes" deletes
    let _ ← writes.mapM tupleKeyFromProto
    let _ ← deletes.mapM tupleKeyFromProto
    return tenantId

/-! ## The calls -/

/-- A call to the mirror. -/
def mirrorCall {α : Type} (p : Prog PermissionStoreSig (Except DbError α)) : PermissionMethod α :=
  .orThrow ServiceError.ofDbError p

/-- A call to the backend. -/
def backendCall {α : Type} (x : BackendMethod α) : PermissionMethod α :=
  .orThrow ServiceError.ofBackendError x.run

/-- Source: `namespace_not_found`. -/
def namespaceNotFound (nspace : String) : ServiceError :=
  .notFound ("permission namespace not found: " ++ nspace)

/-- The rest of `EnsurePermissionNamespace`, once it is known what is registered. -/
def registerModel (b : PermissionBackend) (tenantId nspace : String) (model : Value)
    (current : Option NamespaceRow) : PermissionMethod (Option NamespaceRow) :=
  if current.any fun record => record.model.same model then Pure.pure current
  else do
    backendCall (b.ensureModel tenantId nspace model)
    backendCall (registryCall (Prog.perform (S := PermissionStoreSig)
      (.upsertNamespace ⟨tenantId, nspace, model, none, none⟩)))

/-- Source: `ensure_permission_namespace`. -/
def ensurePermissionNamespace (b : PermissionBackend) (ctx : RequestContext) (nspace : String)
    (model : Option Value) : PermissionMethod (Option NamespaceRow) := do
  let (tenantId, model) ← ExceptT.mk (Pure.pure (checkEnsure ctx nspace model))
  let current ← backendCall (registryCall (Prog.perform (S := PermissionStoreSig)
    (.getNamespace tenantId nspace)))
  registerModel b tenantId nspace model current

/-- The rest of `DeletePermissionNamespace`, once it is known what is registered. -/
def tearDown (b : PermissionBackend) (tenantId nspace : String) :
    Option NamespaceRow → PermissionMethod Unit
  | none => throw (namespaceNotFound nspace)
  | some _ => do
      backendCall (b.deleteNamespace tenantId nspace)
      mirrorCall (Prog.perform (S := PermissionStoreSig) (.deleteByNamespace tenantId nspace))
      backendCall (registryCall (Prog.perform (S := PermissionStoreSig)
        (.deleteNamespace tenantId nspace)))

/-- Source: `delete_permission_namespace`. -/
def deletePermissionNamespace (b : PermissionBackend) (ctx : RequestContext) (nspace : String) :
    PermissionMethod Unit := do
  let tenantId ← ExceptT.mk (Pure.pure (requireTenantScope ctx scopePermissionAdmin))
  let current ← backendCall (registryCall (Prog.perform (S := PermissionStoreSig)
    (.getNamespace tenantId nspace)))
  tearDown b tenantId nspace current

/-- Source: `create_relation_tuple`. -/
def createRelationTuple (b : PermissionBackend) (order : List String → List String)
    (ctx : RequestContext) (key : RelationTupleKey) : PermissionMethod Unit := do
  let tenantId ← ExceptT.mk (Pure.pure (requireTenantScope ctx scopePermissionAdmin))
  let _ ← mirrorCall (Prog.perform (S := PermissionStoreSig) (.createRows tenantId [key]))
  backendCall (b.createRelationTuple order tenantId key)

/-- Source: `delete_relation_tuple`. -/
def deleteRelationTuple (b : PermissionBackend) (order : List String → List String)
    (ctx : RequestContext) (id : String) : PermissionMethod Unit := do
  let tenantId ← ExceptT.mk (Pure.pure (requireTenantScope ctx scopePermissionAdmin))
  let row ← mirrorCall (Prog.perform (S := PermissionStoreSig) (.getRow tenantId id))
  backendCall (b.deleteRelationTuple order tenantId row.key)
  mirrorCall (Prog.perform (S := PermissionStoreSig) (.deleteRow tenantId id))

/-- The mirror follows a batch: its writes are inserted at once, its deletes go one by one. -/
def mirrorBatch (tenantId : String) (writes deletes : List RelationTupleKey) :
    PermissionMethod Unit := do
  if writes ≠ [] then
    let _ ← mirrorCall (Prog.perform (S := PermissionStoreSig) (.createRows tenantId writes))
  deletes.forM fun key =>
    mirrorCall (Prog.perform (S := PermissionStoreSig) (.deleteByKey tenantId key))

/-- Source: `write_relation_tuples`. The answer counts the keys. -/
def writeRelationTuples (b : PermissionBackend) (order : List String → List String)
    (ctx : RequestContext) (writes deletes : List RelationTupleKey) : PermissionMethod (ℕ × ℕ) := do
  let tenantId ← ExceptT.mk (Pure.pure (checkWrite ctx writes deletes))
  backendCall (b.writeTuples order tenantId writes deletes)
  mirrorBatch tenantId writes deletes
  return (writes.length, deletes.length)

/-! ## The gateway's own namespace -/

/-- Who may be related to an application or a group. -/
def entitlementUserTypes : Value :=
  .arr [.obj [("type", .str "user")], .obj [("type", .str "entitlements"), ("relation", .str "member")]]

/-- Source: `services/entitlement.rs` `entitlement_model`. -/
def entitlementModel : Value :=
  .obj [("schema_version", .str "1.1"),
    ("type_definitions", .arr [.obj [("type", .str "user")],
      .obj [("type", .str "entitlements"),
        ("relations", .obj [("member", .obj [("this", .obj [])]), ("admin", .obj [("this", .obj [])])]),
        ("metadata", .obj [("relations", .obj [
          ("member", .obj [("directly_related_user_types", entitlementUserTypes)]),
          ("admin", .obj [("directly_related_user_types", entitlementUserTypes)])])])]])]

/-- Source: `services/entitlement.rs` `map_backend_error`. -/
def entitlementBackendError (err : BackendError) : ServiceError :=
  .internal ("entitlement backend error: " ++ err.toText)

/-- Source: `services/entitlement.rs` `ensure_namespace`. -/
def seedNamespace (b : PermissionBackend) (tenantId : String) : PermissionMethod Unit :=
  .orThrow entitlementBackendError (b.ensureModel tenantId entitlementNamespace entitlementModel).run

/-! ## Requests -/

/-- The requests that write, and the gateway's own seeding of a tenant. -/
inductive PermissionRequest where
  | ensureNamespace (ctx : RequestContext) (nspace : String) (model : Option Value)
  | deleteNamespace (ctx : RequestContext) (nspace : String)
  | createTuple (ctx : RequestContext) (key : RelationTupleKey)
  | deleteTuple (ctx : RequestContext) (id : String)
  | writeTuples (ctx : RequestContext) (writes deletes : List RelationTupleKey)
  | seed (tenantId : String)

/-- A request with what the environment decides while it is served: the order of hash maps, and the
choice for each call to a store. -/
structure PermissionStep where
  request : PermissionRequest
  order : List String → List String
  choices : ℕ → PermissionChoice

/-- The program that serves a request. -/
def PermissionStep.program (b : PermissionBackend) (s : PermissionStep) : PermissionMethod Unit :=
  match s.request with
  | .ensureNamespace ctx n model => (fun _ => ()) <$> ensurePermissionNamespace b ctx n model
  | .deleteNamespace ctx n => deletePermissionNamespace b ctx n
  | .createTuple ctx key => createRelationTuple b s.order ctx key
  | .deleteTuple ctx i => deleteRelationTuple b s.order ctx i
  | .writeTuples ctx ws ds => (fun _ => ()) <$> writeRelationTuples b s.order ctx ws ds
  | .seed t => seedNamespace b t

/-- The stores after a request, whether it succeeded or not. -/
def permissionStep (b : PermissionBackend) (w : PermissionWorld) (s : PermissionStep) :
    Option PermissionWorld :=
  some ((s.program b).run.run permissionStores s.choices w).2

end SsoGateway
