import SsoGateway.Entitlement
import SsoGateway.Namespaces

/-!
# The stores of the permission service

The tables and the backends the permission service writes: the registry of namespaces, the mirror of
the relation tuples, the tuples of Keto, and the stores of OpenFGA.

* `TupleMirror` — the table `permission_tuples` with its key.
* `KetoTuple`, `FgaTuple`, `FgaStore` — what the backends hold; `ketoTuple`, `clientTupleKey` — how
  a key of a tenant is written there.
* `PermissionCall`, `permissionStores` — every call the service and its backends make, and what it
  does.

OpenFGA applies a batch as a whole or not at all: it refuses to write a tuple that is there, to
delete one that is not, and to name one twice. Keto takes a second insert or a second delete of a
tuple as done.

Source: `db/permission.rs`, `services/permission.rs`, the clients of Keto and OpenFGA,
`20260701200001_permission_tuples.sql`.
-/

namespace SsoGateway

open Lib

/-! ## The mirror -/

/-- Source: `db/permission.rs` `PermissionTupleRow`. -/
structure PermissionTupleRow where
  id : String
  tenantId : String
  key : RelationTupleKey
deriving DecidableEq, Repr

/-- The table `permission_tuples`. -/
structure TupleMirror where
  rows : List PermissionTupleRow
  /-- `id TEXT PRIMARY KEY`. -/
  idKey : rows.Pairwise fun x y => x.id ≠ y.id

namespace TupleMirror

/-- An empty table. -/
def empty : TupleMirror := ⟨[], .nil⟩

/-- The rows `INSERT` adds for the keys, under the generated ids. -/
def newRows (ids : ℕ → String) (tenantId : String) (keys : List RelationTupleKey) :
    List PermissionTupleRow :=
  keys.zipIdx.map fun (key, n) => ⟨ids n, tenantId, key⟩

/-- Source: `create`, `create_many`. -/
def insert (m : TupleMirror) (ids : ℕ → String) (tenantId : String) (keys : List RelationTupleKey) :
    Except DbError TupleMirror :=
  if h : (newRows ids tenantId keys ++ m.rows).Pairwise (fun x y => x.id ≠ y.id) then .ok ⟨_, h⟩
  else .error Db.duplicateKey

/-- `DELETE FROM permission_tuples WHERE …`. -/
def delete (m : TupleMirror) (p : PermissionTupleRow → Bool) : TupleMirror :=
  ⟨m.rows.filter fun x => !p x, m.idKey.filter _⟩

/-- Source: `get`. -/
def get (m : TupleMirror) (tenantId id : String) : Option PermissionTupleRow :=
  m.rows.find? fun x => x.tenantId = tenantId ∧ x.id = id

theorem mem_newRows {ids : ℕ → String} {t : String} {keys : List RelationTupleKey}
    {x : PermissionTupleRow} : x ∈ newRows ids t keys ↔
      x.tenantId = t ∧ ∃ n, keys[n]? = some x.key ∧ x.id = ids n := by
  obtain ⟨i, t', k⟩ := x
  simp only [newRows, List.mem_map, Prod.exists, List.mem_zipIdx_iff_getElem?,
    PermissionTupleRow.mk.injEq]
  constructor
  · rintro ⟨k', n, hn, rfl, rfl, rfl⟩
    exact ⟨rfl, n, hn, rfl⟩
  · rintro ⟨rfl, n, hn, rfl⟩
    exact ⟨k, n, hn, rfl, rfl, rfl⟩

/-- The new rows have the keys that were given, and no others. -/
theorem exists_newRows {ids : ℕ → String} {t t' : String} {keys : List RelationTupleKey}
    {k : RelationTupleKey} : (∃ x ∈ newRows ids t keys, x.tenantId = t' ∧ x.key = k) ↔
      t' = t ∧ k ∈ keys := by
  constructor
  · rintro ⟨x, hx, rfl, rfl⟩
    obtain ⟨rfl, n, hn, -⟩ := mem_newRows.mp hx
    exact ⟨rfl, List.mem_of_getElem? hn⟩
  · rintro ⟨rfl, hk⟩
    obtain ⟨n, hn⟩ := List.mem_iff_getElem?.mp hk
    exact ⟨⟨ids n, t', k⟩, mem_newRows.mpr ⟨rfl, n, hn, rfl⟩, rfl, rfl⟩

theorem insert_ok {m m' : TupleMirror} {ids : ℕ → String} {t : String}
    {keys : List RelationTupleKey} (h : m.insert ids t keys = .ok m') :
    m'.rows = newRows ids t keys ++ m.rows := by
  unfold insert at h
  split at h
  · obtain rfl := Except.ok.inj h
    rfl
  · simp at h

/-- An id names one row. -/
theorem id_unique {m : TupleMirror} {x y : PermissionTupleRow} (hx : x ∈ m.rows) (hy : y ∈ m.rows)
    (h : x.id = y.id) : x = y := by
  by_contra hne
  have hsymm : Std.Symm fun x y : PermissionTupleRow => x.id ≠ y.id := ⟨fun _ _ h h' => h h'.symm⟩
  exact m.idKey.forall hx hy hne h

end TupleMirror

/-! ## Keto -/

/-- Source: `ory-client` `TupleSubject`, `KetoTupleSubject`. -/
inductive KetoSubject where
  | id (subjectId : String)
  | set (nspace object relation : String)
deriving DecidableEq, Repr

/-- Source: `ory-client` `KetoRelationTuple`. -/
structure KetoTuple where
  nspace : String
  object : String
  relation : String
  subject : KetoSubject
deriving DecidableEq, Repr

/-- Source: `tenant_object`. -/
def tenantObject (tenantId object : String) : String := tenantId ++ ":" ++ object

/-- Source: `keto_subject`. -/
def ketoSubject (tenantId subjectId : String) : KetoSubject :=
  match subjectSet subjectId with
  | some (nspace, object, relation) => .set nspace (tenantObject tenantId object) relation
  | none => .id subjectId

/-- The tuple Keto is asked to create or delete for a key of the tenant. -/
def ketoTuple (tenantId : String) (key : RelationTupleKey) : KetoTuple :=
  ⟨key.nspace, tenantObject tenantId key.object, key.relation, ketoSubject tenantId key.subjectId⟩

/-! ## OpenFGA -/

/-- Source: `openfga-client` `TupleKey` (without its condition). -/
structure FgaTuple where
  user : String
  relation : String
  object : String
deriving DecidableEq, Repr

/-- A store of OpenFGA with the tuples in it. -/
structure FgaStore where
  id : String
  name : String
  tuples : List FgaTuple
deriving DecidableEq, Repr

/-- Source: `typed_user`. -/
def typedUser (subjectId : String) : String :=
  if ':' ∈ subjectId.toList then subjectId else "user:" ++ subjectId

/-- Source: `client_tuple_key`. -/
def clientTupleKey (key : RelationTupleKey) : FgaTuple :=
  ⟨typedUser key.subjectId, key.relation, key.nspace ++ ":" ++ key.object⟩

/-- The batch is one that OpenFGA applies to these tuples. -/
def FgaAccepts (tuples writes deletes : List FgaTuple) : Prop :=
  (writes ++ deletes).Nodup ∧ (∀ x ∈ writes, x ∉ tuples) ∧ ∀ x ∈ deletes, x ∈ tuples

instance (ts ws ds : List FgaTuple) : Decidable (FgaAccepts ts ws ds) :=
  inferInstanceAs (Decidable (_ ∧ _ ∧ _))

/-- The store after a batch. -/
def FgaStore.apply (st : FgaStore) (writes deletes : List FgaTuple) : FgaStore :=
  { st with tuples := writes ++ st.tuples.filter fun x => x ∉ deletes }

/-! ## Errors -/

/-- Source: `openfga-client` `OpenFgaClientError`. -/
inductive OpenFgaClientError where
  | http (message : String)
  | serialization (message : String)
  | url (message : String)
  | openFga (status : ℕ) (message : String)
  | missingStore
  | invalidResponse (message : String)
deriving DecidableEq, Repr

/-- What the client of OpenFGA reports for a fault. -/
def OpenFgaClientError.ofFault : OryClientError → OpenFgaClientError
  | .http message => .http message
  | .serialization message => .serialization message
  | .url message => .url message
  | .ory status message => .openFga status message
  | .redirect location _ => .invalidResponse location
  | .missingTenant => .missingStore
  | .invalidResponse message => .invalidResponse message

/-- Source: `services/permission.rs` `PermissionBackendError`. -/
inductive BackendError where
  | ory (status : ℕ) (message : String)
  | openFga (status : ℕ) (message : String)
  | namespaceNotConfigured (message : String)
  | conflict (message : String)
  | configuration (message : String)
  | serialization (message : String)
  | unavailable (message : String)
deriving DecidableEq, Repr

/-- The display text of a backend error. -/
def BackendError.toText : BackendError → String
  | .ory status message => "ory backend error: " ++ toString status ++ " " ++ message
  | .openFga status message => "openfga backend error: " ++ toString status ++ " " ++ message
  | .namespaceNotConfigured message => "namespace not configured: " ++ message
  | .conflict message => "namespace type conflict: " ++ message
  | .configuration message => "configuration: " ++ message
  | .serialization message => "serialization: " ++ message
  | .unavailable message => "backend unavailable: " ++ message

/-- Source: `From<OryClientError> for PermissionBackendError`. -/
def BackendError.ofOryClientError : OryClientError → BackendError
  | .ory status message => .ory status message
  | .http message => .unavailable message
  | .serialization message => .serialization message
  | .url message => .configuration message
  | .invalidResponse message => .unavailable message
  | .missingTenant => .configuration "missing tenant context"
  | .redirect _ _ => .unavailable "unexpected redirect"

/-- Source: `From<OpenFgaClientError> for PermissionBackendError`. -/
def BackendError.ofOpenFgaClientError : OpenFgaClientError → BackendError
  | .openFga status message => .openFga status message
  | .http message => .unavailable message
  | .serialization message => .serialization message
  | .url message => .configuration message
  | .missingStore => .namespaceNotConfigured "missing OpenFGA store"
  | .invalidResponse message => .configuration message

/-- Source: `map_namespace_db_error`. -/
def BackendError.ofDbError : DbError → BackendError
  | .namespaceTypeConflict type => .conflict ("type " ++ type ++ " is already registered")
  | other => .unavailable ("namespace store: " ++ other.toText)

/-- Source: `From<PermissionBackendError> for ServiceError`. -/
def ServiceError.ofBackendError : BackendError → ServiceError
  | .ory status message => .ofStatus status message
  | .openFga status message => .ofStatus status message
  | .namespaceNotConfigured message => .invalidArgument message
  | .conflict message => .alreadyExists message
  | .configuration message => .configuration message
  | .serialization message => .serialization message
  | .unavailable message => .unavailable message

/-! ## The calls -/

/-- The state of the stores. -/
structure PermissionWorld where
  registry : Namespaces
  mirror : TupleMirror
  keto : List KetoTuple
  stores : List FgaStore

/-- What the environment decides for a call: whether it fails, the time, and the ids it generates. -/
structure PermissionChoice where
  fault : Option Fault
  now : ℤ
  ids : ℕ → String

/-- Every call of the permission service, of its backends and of the entitlement seeding. -/
inductive PermissionCall where
  /-- Source: `NamespaceMappingRepo`. -/
  | getNamespace (tenantId nspace : String)
  | getNamespaceByType (tenantId objectType : String)
  | upsertNamespace (q : UpsertRequest)
  | deleteNamespace (tenantId nspace : String)
  /-- Source: `PermissionTupleStore`. -/
  | createRows (tenantId : String) (keys : List RelationTupleKey)
  | getRow (tenantId id : String)
  | deleteRow (tenantId id : String)
  | deleteByKey (tenantId : String) (key : RelationTupleKey)
  | deleteByNamespace (tenantId nspace : String)
  /-- Source: `KetoClient`. -/
  | ketoCreate (tuple : KetoTuple)
  | ketoDelete (tuple : KetoTuple)
  /-- Source: `OpenFgaClient`. -/
  | findStoreByName (name : String)
  | createStore (name : String)
  | writeModel (storeId : String) (model : Value)
  | writeTuples (storeId modelId : String) (writes deletes : List FgaTuple)
  | readTuples (storeId : String) (key : FgaTuple)
  | deleteStore (storeId : String)

/-- The answers. -/
@[reducible] def PermissionCall.Res : PermissionCall → Type
  | .getNamespace _ _ => Except DbError (Option NamespaceRow)
  | .getNamespaceByType _ _ => Except DbError (Option NamespaceRow)
  | .upsertNamespace _ => Except DbError (Option NamespaceRow)
  | .deleteNamespace _ _ => Except DbError Unit
  | .createRows _ _ => Except DbError (List PermissionTupleRow)
  | .getRow _ _ => Except DbError PermissionTupleRow
  | .deleteRow _ _ => Except DbError Unit
  | .deleteByKey _ _ => Except DbError Unit
  | .deleteByNamespace _ _ => Except DbError Unit
  | .ketoCreate _ => Except OryClientError Unit
  | .ketoDelete _ => Except OryClientError Unit
  | .findStoreByName _ => Except OpenFgaClientError (Option String)
  | .createStore _ => Except OpenFgaClientError String
  | .writeModel _ _ => Except OpenFgaClientError String
  | .writeTuples _ _ _ _ => Except OpenFgaClientError Unit
  | .readTuples _ _ => Except OpenFgaClientError (List FgaTuple)
  | .deleteStore _ => Except OpenFgaClientError Unit

/-- The signature of the stores. -/
@[reducible] def PermissionStoreSig : Sig := ⟨PermissionCall, PermissionCall.Res⟩

namespace PermissionWorld

/-- An upsert, as one transaction. -/
def upsertNamespace (w : PermissionWorld) (q : UpsertRequest) (now : ℤ) :
    Except DbError (Option NamespaceRow) × PermissionWorld :=
  match w.registry.upsert q now with
  | .ok R => (.ok (R.get q.tenantId q.nspace), { w with registry := R })
  | .error e => (.error e, w)

/-- An insertion into the mirror. -/
def createRows (w : PermissionWorld) (ids : ℕ → String) (tenantId : String)
    (keys : List RelationTupleKey) : Except DbError (List PermissionTupleRow) × PermissionWorld :=
  match w.mirror.insert ids tenantId keys with
  | .ok m => (.ok (TupleMirror.newRows ids tenantId keys), { w with mirror := m })
  | .error e => (.error e, w)

/-- A deletion from the mirror. -/
def deleteRows (w : PermissionWorld) (p : PermissionTupleRow → Bool) : PermissionWorld :=
  { w with mirror := w.mirror.delete p }

/-- Source: `delete`. -/
def deleteRow (w : PermissionWorld) (tenantId id : String) : Except DbError Unit × PermissionWorld :=
  match w.mirror.get tenantId id with
  | some _ => (.ok (), w.deleteRows fun x => x.tenantId = tenantId ∧ x.id = id)
  | none => (.error .tupleNotFound, w)

/-- The store of that id. -/
def findStore (w : PermissionWorld) (storeId : String) : Option FgaStore :=
  w.stores.find? fun st => st.id = storeId

/-- A batch of OpenFGA. The client sends no empty one. -/
def writeTuples (w : PermissionWorld) (storeId : String) (writes deletes : List FgaTuple) :
    Except OpenFgaClientError Unit × PermissionWorld :=
  if writes = [] ∧ deletes = [] then (.ok (), w)
  else match w.findStore storeId with
    | none => (.error (.openFga 404 "store not found"), w)
    | some st =>
        if FgaAccepts st.tuples writes deletes then
          (.ok (), { w with stores := w.stores.map fun st =>
            if st.id = storeId then st.apply writes deletes else st })
        else (.error (.openFga 400 "write failed due to invalid input"), w)

/-- The tuples of a store that match a key, all of whose fields are given. -/
def readTuples (w : PermissionWorld) (storeId : String) (key : FgaTuple) :
    Except OpenFgaClientError (List FgaTuple) :=
  match w.findStore storeId with
  | none => .error (.openFga 404 "store not found")
  | some st => .ok (st.tuples.filter fun x => x = key)

/-- A deleted store takes its tuples with it. -/
def deleteStore (w : PermissionWorld) (storeId : String) :
    Except OpenFgaClientError Unit × PermissionWorld :=
  match w.findStore storeId with
  | none => (.error (.openFga 404 "store not found"), w)
  | some _ => (.ok (), { w with stores := w.stores.filter fun st => st.id ≠ storeId })

/-- A model needs its store. -/
def writeModel (w : PermissionWorld) (storeId modelId : String) :
    Except OpenFgaClientError String × PermissionWorld :=
  match w.findStore storeId with
  | none => (.error (.openFga 404 "store not found"), w)
  | some _ => (.ok modelId, w)

/-! ### What leaves the registry alone -/

variable {w : PermissionWorld}

@[simp] theorem createRows_registry (ids : ℕ → String) (t : String) (keys : List RelationTupleKey) :
    (w.createRows ids t keys).2.registry = w.registry := by
  unfold createRows
  split <;> rfl

@[simp] theorem deleteRow_registry (t i : String) : (w.deleteRow t i).2.registry = w.registry := by
  unfold deleteRow
  split <;> rfl

@[simp] theorem writeTuples_registry (s : String) (ws ds : List FgaTuple) :
    (w.writeTuples s ws ds).2.registry = w.registry := by
  unfold writeTuples
  split
  · rfl
  · split
    · rfl
    · split <;> rfl

@[simp] theorem deleteStore_registry (s : String) : (w.deleteStore s).2.registry = w.registry := by
  unfold deleteStore
  split <;> rfl

@[simp] theorem writeModel_registry (s i : String) : (w.writeModel s i).2.registry = w.registry := by
  unfold writeModel
  split <;> rfl

end PermissionWorld

/-- What the calls do. -/
def permissionStores : Handler PermissionStoreSig PermissionChoice PermissionWorld
  | .getNamespace t n, c, w =>
      Fault.answer Fault.sqlx w (.ok (w.registry.get t n), w) c.fault
  | .getNamespaceByType t y, c, w =>
      Fault.answer Fault.sqlx w (.ok (w.registry.getByType t y), w) c.fault
  | .upsertNamespace q, c, w => Fault.answer Fault.sqlx w (w.upsertNamespace q c.now) c.fault
  | .deleteNamespace t n, c, w =>
      Fault.answer Fault.sqlx w (.ok (), { w with registry := w.registry.remove t n }) c.fault
  | .createRows t keys, c, w => Fault.answer Fault.sqlx w (w.createRows c.ids t keys) c.fault
  | .getRow t i, c, w =>
      Fault.answer Fault.sqlx w (match w.mirror.get t i with
        | some row => .ok row
        | none => .error .tupleNotFound, w) c.fault
  | .deleteRow t i, c, w => Fault.answer Fault.sqlx w (w.deleteRow t i) c.fault
  | .deleteByKey t key, c, w =>
      Fault.answer Fault.sqlx w (.ok (), w.deleteRows fun x => x.tenantId = t ∧ x.key = key) c.fault
  | .deleteByNamespace t n, c, w =>
      Fault.answer Fault.sqlx w
        (.ok (), w.deleteRows fun x => x.tenantId = t ∧ x.key.nspace = n) c.fault
  | .ketoCreate x, c, w =>
      Fault.answer id w (.ok (), { w with keto := if x ∈ w.keto then w.keto else x :: w.keto }) c.fault
  | .ketoDelete x, c, w =>
      Fault.answer id w (.ok (), { w with keto := w.keto.filter fun y => y ≠ x }) c.fault
  | .findStoreByName name, c, w =>
      Fault.answer .ofFault w (.ok ((w.stores.find? fun st => st.name = name).map (·.id)), w) c.fault
  | .createStore name, c, w =>
      Fault.answer .ofFault w (.ok (c.ids 0), { w with stores := ⟨c.ids 0, name, []⟩ :: w.stores })
        c.fault
  | .writeModel s _, c, w => Fault.answer .ofFault w (w.writeModel s (c.ids 0)) c.fault
  | .writeTuples s _ ws ds, c, w => Fault.answer .ofFault w (w.writeTuples s ws ds) c.fault
  | .readTuples s key, c, w => Fault.answer .ofFault w (w.readTuples s key, w) c.fault
  | .deleteStore s, c, w => Fault.answer .ofFault w (w.deleteStore s) c.fault

/-- The call is one that writes the registry. -/
def PermissionCall.OnRegistry : PermissionCall → Prop
  | .upsertNamespace _ => True
  | .deleteNamespace _ _ => True
  | _ => False

/-- The choice without its fault. -/
def PermissionChoice.faultless (c : PermissionChoice) : PermissionChoice := { c with fault := none }

/-- A call has the effect it is for, or none. -/
theorem permissionStores_snd (op : PermissionCall) (c : PermissionChoice) (w : PermissionWorld) :
    (permissionStores op c w).2 = w ∨
      (permissionStores op c w).2 = (permissionStores op c.faultless w).2 := by
  cases op <;> exact Fault.answer_snd c.fault

/-- All other calls leave the registry alone. -/
theorem permissionStores_registry {op : PermissionCall} (hop : ¬ op.OnRegistry)
    (c : PermissionChoice) (w : PermissionWorld) :
    (permissionStores op c w).2.registry = w.registry := by
  rcases permissionStores_snd op c w with h | h
  · rw [h]
  · rw [h]
    cases op <;> first
      | exact absurd trivial hop
      | simp [permissionStores, PermissionChoice.faultless, PermissionWorld.deleteRows]

end SsoGateway
