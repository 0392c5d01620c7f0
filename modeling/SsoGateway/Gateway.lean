import SsoGateway.Directory
import SsoGateway.Entitlement

/-!
# The gateway's stores and backends

Everything a service of the gateway can call, as one signature, and the world those calls act on:
the database, the tuples of the permission backend, and the objects of Hydra and Kratos.

* `World` — the state.
* `Choice` — what the environment decides for one call: faults, a generated ULID, an id assigned by
  a backend, the instant, and the document a backend answers with where the model leaves it open.
* `Env` — parameters fixed for a run: the row a `LIMIT 1` query yields, the depth of a check.
* `Gateway`, `gateway` — the signature and its handler.

Each family of calls has its own type of operations (`MappingOp`, `ApplicationOp`, …) and its own
handler on the part of the world it touches. The calls of the entitlement service are atomic here:
the handler runs the programs of `EntitlementServiceImpl` on the tuples.
-/

namespace SsoGateway

open Lib

/-! ## The world -/

/-- Source: `db/transient_token.rs` `TransientTokenRow`. -/
structure TransientTokenRow where
  tenantId : String
  backend : Backend
  tokenType : String
  publicToken : String
  oryToken : String
  expiresAt : ℤ
deriving DecidableEq, Repr

/-- The objects of Hydra: clients, and pending consent and login requests, by their id. -/
structure Hydra where
  clients : List (String × Value)
  consentRequests : List (String × Value)
  loginRequests : List (String × Value)

/-- The objects of Kratos: identities by id, and sessions by cookie. -/
structure Kratos where
  identities : List (String × Value)
  sessions : List (String × Value)

/-- The state the gateway's calls act on. -/
structure World where
  db : Db
  transientTokens : List TransientTokenRow
  directory : Directory
  tuples : List StoredTuple
  hydra : Hydra
  kratos : Kratos

/-- The world of a fresh installation with the given tenants. -/
def World.empty (tenants : List TenantRow) : World where
  db := Db.empty tenants
  transientTokens := []
  directory := Directory.empty
  tuples := []
  hydra := ⟨[], [], []⟩
  kratos := ⟨[], []⟩

/-- What the environment decides for one call. -/
structure Choice where
  /-- The fault of the `n`-th request the call makes, if any. -/
  fault : ℕ → Option Fault
  /-- The ULID generated by the call. -/
  ulid : String
  /-- The id a backend gives a created object, where it does not take the id it was asked for. -/
  assigned : Option String
  /-- The instant of the call, in seconds. -/
  now : ℤ
  /-- The document a backend answers with, where the model leaves it open. -/
  doc : Value

/-- The choice under which nothing fails, with the given ULID and instant. -/
def Choice.plain (ulid : String) (now : ℤ) : Choice := ⟨fun _ => none, ulid, none, now, .null⟩

/-- No request of the call fails. -/
def Choice.FaultFree (c : Choice) : Prop := ∀ n, c.fault n = none

/-- The two queries that end in `LIMIT 1` without an order. -/
inductive LimitOneQuery where
  | tenantIdByOryId
  | publicIdByOryId
deriving DecidableEq, Repr

/-- Parameters of a run. -/
structure Env where
  /-- Which of the matching rows an unordered `LIMIT 1` yields, counted modulo their number. -/
  limitOne : LimitOneQuery → List IdMappingRow → ℕ
  /-- How deep the permission backend follows subject sets. -/
  checkDepth : ℕ
  /-- Whether the permission backend rejects the write of a tuple it has, and the delete of one it
  has not: OpenFGA does. -/
  rejectsDuplicates : Bool

/-- The parameters under which `LIMIT 1` yields the first row, checks go five tuples deep and
duplicate tuples are accepted. -/
def Env.firstRow : Env := ⟨fun _ _ => 0, 5, false⟩

/-- The row an unordered `LIMIT 1` yields. -/
def Env.pick (env : Env) (q : LimitOneQuery) (rows : List IdMappingRow) : Option IdMappingRow :=
  rows[env.limitOne q rows % rows.length]?

theorem Env.mem_of_pick {env : Env} {q : LimitOneQuery} {rows : List IdMappingRow}
    {m : IdMappingRow} (h : env.pick q rows = some m) : m ∈ rows :=
  List.mem_of_getElem? h

theorem Env.pick_eq_none {env : Env} {q : LimitOneQuery} {rows : List IdMappingRow} :
    env.pick q rows = none ↔ rows = [] := by
  unfold Env.pick
  rw [List.getElem?_eq_none_iff]
  constructor
  · intro h
    by_contra hne
    have hpos := List.length_pos_of_ne_nil hne
    have := Nat.mod_lt (env.limitOne q rows) hpos
    omega
  · rintro rfl
    simp

/-! ## The stores -/

/-- Source: `db/id_mapping.rs` `IdMappingStore`. -/
inductive MappingOp where
  | create (tenantId : String) (backend : Backend) (publicId oryGlobalId : String)
  | getOryId (tenantId : String) (backend : Backend) (publicId : String)
  | getOryIdByPublicId (backend : Backend) (publicId : String)
  | getPublicId (tenantId : String) (backend : Backend) (oryGlobalId : String)
  | getPublicIdByOryId (backend : Backend) (oryGlobalId : String)
  | delete (tenantId : String) (backend : Backend) (publicId : String)
  | listPublicIds (tenantId : String) (backend : Backend)
  | listMappings (tenantId : String) (backend : Backend)
  | getTenantIdByOryId (backend : Backend) (oryGlobalId : String)
  | updateTenant (backend : Backend) (publicId newTenantId : String)

/-- The answers of the mapping store. -/
@[reducible] def MappingOp.Res : MappingOp → Type
  | .create _ _ _ _ => Except DbError IdMappingRow
  | .getOryId _ _ _ => Except DbError String
  | .getOryIdByPublicId _ _ => Except DbError String
  | .getPublicId _ _ _ => Except DbError String
  | .getPublicIdByOryId _ _ => Except DbError String
  | .delete _ _ _ => Except DbError Unit
  | .listPublicIds _ _ => Except DbError (List String)
  | .listMappings _ _ => Except DbError (List IdMappingRow)
  | .getTenantIdByOryId _ _ => Except DbError (Option String)
  | .updateTenant _ _ _ => Except DbError Unit

/-- A reading statement: the answer, and the database unchanged. -/
def Db.read {α : Type} (db : Db) (c : Choice) (r : Except DbError α) : Except DbError α × Db :=
  Fault.answer Fault.sqlx db (r, db) (c.fault 0)

/-- A writing statement: the new database, or the error and no change. -/
def Db.write {α : Type} (db : Db) (c : Choice) (r : Except DbError Db) (a : α) :
    Except DbError α × Db :=
  Fault.answer Fault.sqlx db
    (match r with
      | .ok db' => (.ok a, db')
      | .error e => (.error e, db)) (c.fault 0)

/-- `query … fetch_optional … ok_or(err)`. -/
def orNotFound {α β : Type} (err : DbError) (f : α → β) : Option α → Except DbError β
  | some a => .ok (f a)
  | none => .error err

/-- Source: `db/id_mapping.rs` `PgIdMappingStore`. -/
def mappingHandler (env : Env) : (op : MappingOp) → Choice → Db → op.Res × Db
  | .create t b p o, c, db =>
      let m : IdMappingRow := ⟨t, b, p, o, c.now⟩
      db.write c (db.insertMapping m) m
  | .getOryId t b p, c, db =>
      db.read c (orNotFound .mappingNotFound (·.oryGlobalId)
        (db.idMappings.find? fun m => m.tenantId = t ∧ m.backend = b ∧ m.publicId = p))
  | .getOryIdByPublicId b p, c, db =>
      db.read c (orNotFound .mappingNotFound (·.oryGlobalId) (db.findByPublicId b p))
  | .getPublicId t b o, c, db =>
      db.read c (orNotFound .mappingNotFound (·.publicId) (db.findMapping t b o))
  | .getPublicIdByOryId b o, c, db =>
      db.read c (orNotFound .mappingNotFound (·.publicId)
        (env.pick .publicIdByOryId (db.rowsOf b o)))
  | .delete t b p, c, db => db.write c (db.deleteMapping t b p) ()
  | .listPublicIds t b, c, db => db.read c (.ok ((db.mappingRows t b).map (·.publicId)))
  | .listMappings t b, c, db => db.read c (.ok (db.mappingRows t b))
  | .getTenantIdByOryId b o, c, db =>
      db.read c (.ok ((env.pick .tenantIdByOryId (db.rowsOf b o)).map (·.tenantId)))
  | .updateTenant b p t, c, db => db.write c (db.updateTenant b p t) ()

/-- Source: `db/application.rs` `ApplicationStore`. -/
inductive ApplicationOp where
  | create (tenantId publicId : String) (crossTenant : Bool) (source : RegistrationSource)
  | get (tenantId publicId : String)
  | getByPublicId (publicId : String)
  | delete (tenantId publicId : String)

/-- The answers of the application store. -/
@[reducible] def ApplicationOp.Res : ApplicationOp → Type
  | .create _ _ _ _ => Except DbError ApplicationRow
  | .get _ _ => Except DbError ApplicationRow
  | .getByPublicId _ => Except DbError ApplicationRow
  | .delete _ _ => Except DbError Unit

/-- Source: `db/application.rs` `PgApplicationStore`. -/
def applicationHandler : (op : ApplicationOp) → Choice → Db → op.Res × Db
  | .create t p crossTenant source, c, db =>
      let a : ApplicationRow := ⟨t, p, crossTenant, source⟩
      db.write c (db.insertApplication a) a
  | .get t p, c, db =>
      db.read c (orNotFound .applicationNotFound id
        (db.applications.find? fun a => a.tenantId = t ∧ a.publicId = p))
  | .getByPublicId p, c, db =>
      db.read c (orNotFound .applicationNotFound id (db.findApplication p))
  | .delete t p, c, db => db.write c (db.deleteApplication t p) ()

/-- Source: `db/agent.rs` `AgentStore` (the calls modelled here). -/
inductive AgentOp where
  | create (tenantId : String) (ownerIdentityId : Option String) (name : String)
  | getStatus (id : String)
  | delete (tenantId id : String)

/-- The answers of the agent store. -/
@[reducible] def AgentOp.Res : AgentOp → Type
  | .create _ _ _ => Except DbError AgentRow
  | .getStatus _ => Except DbError String
  | .delete _ _ => Except DbError Unit

/-- Source: `db/agent.rs` `PgAgentStore`; a new agent takes a ULID and the status `active`. -/
def agentHandler : (op : AgentOp) → Choice → Db → op.Res × Db
  | .create t owner name, c, db =>
      let a : AgentRow := ⟨c.ulid, t, owner, name, "active"⟩
      db.write c (db.insertAgent a) a
  | .getStatus id, c, db =>
      db.read c (orNotFound .agentNotFound (·.status) (db.findAgent id))
  | .delete t id, c, db => db.write c (db.deleteAgent t id) ()

/-- The calls on schemas, memberships and SCIM groups. -/
inductive DirectoryOp where
  | getDefaultSchema (tenantId : String)
  | getBySchemaId (tenantId schemaId : String)
  | getMembership (tenantId publicId : String)
  | upsertMembership (tenantId publicId schemaId : String) (version : ℕ) (traits : Value)
  | createGroup (tenantId displayName : String)
  | updateGroup (tenantId id displayName : String)
  | deleteGroup (tenantId id : String)
  | addMember (tenantId groupId userId : String)
  | removeMember (groupId userId : String)
  | listMembers (groupId : String)
  | listUserGroups (userId : String)
  | removeUserFromAllGroups (userId : String)
  /-- `PermissionBackend::ensure_namespace` on `scim_group`. -/
  | ensureGroupNamespace (tenantId : String)
  /-- `PermissionBackend::create_relation_tuple` in `scim_group`. -/
  | createGroupTuple (tenantId groupId userId : String)
  /-- `PermissionBackend::delete_relation_tuple` in `scim_group`. -/
  | deleteGroupTuple (tenantId groupId userId : String)

/-- The answers to those calls. -/
@[reducible] def DirectoryOp.Res : DirectoryOp → Type
  | .getDefaultSchema _ => Except DbError IdentitySchemaRow
  | .getBySchemaId _ _ => Except DbError IdentitySchemaRow
  | .getMembership _ _ => Except DbError TenantMembershipRow
  | .upsertMembership _ _ _ _ _ => Except DbError TenantMembershipRow
  | .createGroup _ _ => Except DbError ScimGroupRow
  | .updateGroup _ _ _ => Except DbError ScimGroupRow
  | .deleteGroup _ _ => Except DbError Unit
  | .addMember _ _ _ => Except DbError Unit
  | .removeMember _ _ => Except DbError Unit
  | .listMembers _ => Except DbError (List String)
  | .listUserGroups _ => Except DbError (List String)
  | .removeUserFromAllGroups _ => Except DbError Unit
  | .ensureGroupNamespace _ => Except OryClientError Unit
  | .createGroupTuple _ _ _ => Except OryClientError Unit
  | .deleteGroupTuple _ _ _ => Except OryClientError Unit

/-- A writing statement on groups: the new tables, or the error and no change. -/
def Directory.write {α : Type} (d : Directory) (c : Choice) (r : Except DbError Directory) (a : α) :
    Except DbError α × Directory :=
  Fault.answer Fault.sqlx d
    (match r with
      | .ok d' => (.ok a, d')
      | .error e => (.error e, d)) (c.fault 0)

/-- Source: `db/identity_schema.rs`, `db/tenant_membership.rs`, `db/scim_group.rs`, and the backends
of `services/permission.rs`. -/
def directoryHandler (env : Env) : (op : DirectoryOp) → Choice → Directory → op.Res × Directory
  | .getDefaultSchema t, c, d =>
      Fault.answer Fault.sqlx d (orNotFound .schemaNotFound id
        (d.schemas.find? fun s => s.tenantId = t ∧ s.isDefault = true), d) (c.fault 0)
  | .getBySchemaId t i, c, d =>
      Fault.answer Fault.sqlx d (orNotFound .schemaNotFound id
        (d.schemas.find? fun s => s.tenantId = t ∧ s.schemaId = i), d) (c.fault 0)
  | .getMembership t p, c, d =>
      Fault.answer Fault.sqlx d (orNotFound .membershipNotFound id
        (d.memberships.find? fun m => m.tenantId = t ∧ m.publicId = p), d) (c.fault 0)
  | .upsertMembership t p i v traits, c, d =>
      let m : TenantMembershipRow := ⟨t, p, i, v, traits⟩
      Fault.answer Fault.sqlx d (.ok m, d.upsertMembership m) (c.fault 0)
  | .createGroup t name, c, d =>
      let row : ScimGroupRow := ⟨c.ulid, t, name⟩
      d.write c (d.insertGroup row) row
  | .updateGroup t i name, c, d =>
      Fault.answer Fault.sqlx d
        (match d.findGroup t i with
          | none => (.error .tenantNotFound, d)
          | some g => (.ok { g with displayName := name }, d.renameGroup t i name)) (c.fault 0)
  | .deleteGroup t i, c, d => d.write c (d.deleteGroup t i) ()
  | .addMember t g u, c, d => d.write c (d.insertMember t g u) ()
  | .removeMember g u, c, d => d.write c (.ok (d.keepMembers fun m => m ≠ (g, u))) ()
  | .listMembers g, c, d =>
      Fault.answer Fault.sqlx d
        (.ok ((d.groupMembers.filter fun m => m.1 = g).map fun m => m.2), d) (c.fault 0)
  | .listUserGroups u, c, d =>
      Fault.answer Fault.sqlx d
        (.ok ((d.groupMembers.filter fun m => m.2 = u).map fun m => m.1), d) (c.fault 0)
  | .removeUserFromAllGroups u, c, d => d.write c (.ok (d.keepMembers fun m => m.2 ≠ u)) ()
  | .ensureGroupNamespace _, c, d => Fault.answer id d (.ok (), d) (c.fault 0)
  | .createGroupTuple t g u, c, d =>
      Fault.answer id d
        (if env.rejectsDuplicates ∧ (t, g, u) ∈ d.groupTuples then
          (.error (.ory 400 "cannot write a tuple which already exists"), d)
        else (.ok (), { d with groupTuples := d.groupTuples.insert (t, g, u) })) (c.fault 0)
  | .deleteGroupTuple t g u, c, d =>
      Fault.answer id d
        (if env.rejectsDuplicates ∧ (t, g, u) ∉ d.groupTuples then
          (.error (.ory 400 "cannot delete a tuple which does not exist"), d)
        else (.ok (), { d with groupTuples := d.groupTuples.filter fun x => x ≠ (t, g, u) }))
        (c.fault 0)

/-! ## The entitlement service -/

/-- Source: `services/entitlement.rs` `EntitlementService`. -/
inductive EntitlementOp where
  | check (tenantId identityId appPublicId relation : String)
  | hasAnyTuples (tenantId appPublicId : String)
  | effectiveScopeCeiling (tenantId identityId : String)
  | grant (tenantId identityId appPublicId : String) (level : EntitlementLevel)
  | seedApplication (tenantId appPublicId : String) (groups : List String)
  | removeApplication (tenantId appPublicId : String)
  | setGroupMembership (tenantId groupName identityId : String) (member : Bool)
  | mintClaim (tenantId identityId appPublicId : String)

/-- The answers of the entitlement service. -/
@[reducible] def EntitlementOp.Res : EntitlementOp → Type
  | .check _ _ _ _ => Except ServiceError Bool
  | .hasAnyTuples _ _ => Except ServiceError Bool
  | .effectiveScopeCeiling _ _ => List String
  | .grant _ _ _ _ => Except ServiceError Unit
  | .seedApplication _ _ _ => Except ServiceError Unit
  | .removeApplication _ _ => Except ServiceError Unit
  | .setGroupMembership _ _ _ _ => Except ServiceError Unit
  | .mintClaim _ _ _ => Value

/-- The method of `EntitlementServiceImpl` behind a call. -/
def EntitlementOp.method : (op : EntitlementOp) → Prog PermissionSig op.Res
  | .check t i a r => (EntitlementServiceImpl.check t i a r).run
  | .hasAnyTuples t a => (EntitlementServiceImpl.hasAnyTuples t a).run
  | .effectiveScopeCeiling t i => EntitlementServiceImpl.effectiveScopeCeiling t i
  | .grant t i a level => (EntitlementServiceImpl.grant t i a level).run
  | .seedApplication t a groups => (EntitlementServiceImpl.seedApplication t a groups).run
  | .removeApplication t a => (EntitlementServiceImpl.removeApplication t a).run
  | .setGroupMembership t g i member =>
      (EntitlementServiceImpl.setGroupMembership t g i member).run
  | .mintClaim t i a => EntitlementServiceImpl.mintClaim t i a

/-- The service runs its method on the permission backend. -/
def entitlementHandler (env : Env) (op : EntitlementOp) (c : Choice) (tuples : List StoredTuple) :
    op.Res × List StoredTuple :=
  op.method.run (permissionHandler env.checkDepth) c.fault tuples

/-! ## Hydra and Kratos -/

/-- Query parameters and form fields: a finite map in the source. -/
abbrev Params := String → Option String

/-- The calls to Hydra. Source: `HydraOperations`, `ConsentHydra` and the Hydra traits of the other
services. -/
inductive HydraOp where
  | getConsentRequest (challenge : String)
  | acceptConsentRequest (challenge : String) (body : Value)
  | getLoginRequest (challenge : String)
  | acceptLoginRequest (challenge : String) (body : Value)
  | authorize (query : Params) (cookie : Option String)
  | token (form : Params) (clientCredentials : Option (String × String))
  | device (path : String) (form : Params) (clientCredentials : Option (String × String))
  | createOauth2Client (payload : Value)
  | getOauth2Client (id : String)
  | updateOauth2Client (id : String) (payload : Value)
  | deleteOauth2Client (id : String)

/-- The answers of Hydra. -/
@[reducible] def HydraOp.Res : HydraOp → Type
  | .deleteOauth2Client _ => Except OryClientError Unit
  | _ => Except OryClientError Value

/-- Hydra's answer for an object it does not know. -/
def notFound : OryClientError := .ory 404 "Unable to locate the resource"

/-- Look an object up by its id. -/
def lookupObject (objects : List (String × Value)) (id : String) : Except OryClientError Value :=
  match objects.lookup id with
  | some v => .ok v
  | none => .error notFound

/-- A request to an Ory backend under a possible fault. -/
def oryAnswer {α W : Type} (w : W) (c : Choice) (r : Except OryClientError α × W) :
    Except OryClientError α × W :=
  Fault.answer id w r (c.fault 0)

/-- The id Hydra gives a new client: the one it was given, unless it assigns its own. -/
def newClientId (payload : Value) (c : Choice) : String :=
  c.assigned.getD (((payload.get "client_id").bind Value.asStr).getD "")

/-- The document Hydra stores for a new client. -/
def newClient (payload : Value) (c : Choice) : Value :=
  payload.insert "client_id" (.str (newClientId payload c))

/-- What the calls do to Hydra. Accepting a challenge, and the public endpoints, answer with a
document of their own and leave the objects modelled here alone. A client update replaces the
whole document. -/
def hydraHandler : (op : HydraOp) → Choice → Hydra → op.Res × Hydra
  | .getConsentRequest ch, c, hy => oryAnswer hy c (lookupObject hy.consentRequests ch, hy)
  | .acceptConsentRequest _ _, c, hy => oryAnswer hy c (.ok c.doc, hy)
  | .getLoginRequest ch, c, hy => oryAnswer hy c (lookupObject hy.loginRequests ch, hy)
  | .acceptLoginRequest _ _, c, hy => oryAnswer hy c (.ok c.doc, hy)
  | .authorize _ _, c, hy => oryAnswer hy c (.ok c.doc, hy)
  | .token _ _, c, hy => oryAnswer hy c (.ok c.doc, hy)
  | .device _ _ _, c, hy => oryAnswer hy c (.ok c.doc, hy)
  | .createOauth2Client payload, c, hy =>
      oryAnswer hy c
        (match hy.clients.lookup (newClientId payload c) with
          | some _ => (.error (.ory 409 "Unable to insert or update resource"), hy)
          | none =>
              (.ok ((newClient payload c).insert "client_secret" c.doc),
                { hy with clients :=
                    (newClientId payload c, newClient payload c) :: hy.clients }))
  | .getOauth2Client id, c, hy => oryAnswer hy c (lookupObject hy.clients id, hy)
  | .updateOauth2Client id payload, c, hy =>
      oryAnswer hy c
        (match hy.clients.lookup id with
          | none => (.error notFound, hy)
          | some _ =>
              (.ok payload, { hy with clients :=
                (id, payload.insert "client_id" (.str id)) ::
                  (hy.clients.filter fun kv => kv.1 ≠ id) }))
  | .deleteOauth2Client id, c, hy =>
      oryAnswer hy c
        (match hy.clients.lookup id with
          | none => (.error notFound, hy)
          | some _ => (.ok (), { hy with clients := hy.clients.filter fun kv => kv.1 ≠ id }))

/-- The calls to Kratos. -/
inductive KratosOp where
  | getIdentity (id : String)
  | createIdentity (payload : Value)
  | updateIdentity (id : String) (payload : Value)
  | deleteIdentity (id : String)
  | listIdentitiesByIdentifier (tenantId identifier : String)
  | toSession (cookie : Option String)
  | submitSettingsFlow (flowId : String) (cookie : Option String) (body : Value)

/-- The answers of Kratos. -/
@[reducible] def KratosOp.Res : KratosOp → Type
  | .deleteIdentity _ => Except OryClientError Unit
  | _ => Except OryClientError Value

/-- An identity document after an update: the fields of the payload, and the old document's where
the payload has none. -/
def updatedIdentity (id : String) (old payload : Value) : Value :=
  ((payload.asObject.getD []).foldl (fun (doc : Value) field => doc.insert field.1 field.2)
    (.obj (old.asObject.getD []))).insert "id" (.str id)

/-- The identity of a session document. -/
def sessionIdentityId (session : Value) : Option String :=
  (session.get "identity").bind fun identity => (identity.index "id").asStr

/-- The identities after the settings of a session's identity were submitted: traits that are an
object replace its traits. -/
def submittedSettings (identities : List (String × Value)) (session body : Value) :
    List (String × Value) :=
  match sessionIdentityId session, (body.get "traits").bind Value.asObject with
  | some id, some traits =>
      match identities.lookup id with
      | some old =>
          (id, updatedIdentity id old (.obj [("traits", .obj traits)])) ::
            identities.filter fun kv => kv.1 ≠ id
      | none => identities
  | _, _ => identities

/-- Kratos' answer to a request without a session. -/
def noSession : OryClientError :=
  .ory 401 "No valid session credentials found in the request."

/-- What the calls do to Kratos. The id of a new identity is Kratos' own. -/
def kratosHandler : (op : KratosOp) → Choice → Kratos → op.Res × Kratos
  | .getIdentity id, c, k => oryAnswer k c (lookupObject k.identities id, k)
  | .createIdentity payload, c, k =>
      let id := c.assigned.getD c.ulid
      oryAnswer k c (.ok (payload.insert "id" (.str id)),
        { k with identities := (id, payload.insert "id" (.str id)) :: k.identities })
  | .updateIdentity id payload, c, k =>
      oryAnswer k c
        (match k.identities.lookup id with
          | none => (.error notFound, k)
          | some old =>
              (.ok (updatedIdentity id old payload), { k with identities :=
                (id, updatedIdentity id old payload) ::
                  (k.identities.filter fun kv => kv.1 ≠ id) }))
  | .deleteIdentity id, c, k =>
      oryAnswer k c
        (match k.identities.lookup id with
          | none => (.error notFound, k)
          | some _ => (.ok (), { k with identities := k.identities.filter fun kv => kv.1 ≠ id }))
  | .listIdentitiesByIdentifier _ _, c, k => oryAnswer k c (.ok c.doc, k)
  | .toSession cookie, c, k =>
      oryAnswer k c
        (match cookie.bind fun s => k.sessions.lookup s with
          | some session => .ok session
          | none => .error noSession, k)
  | .submitSettingsFlow _ cookie body, c, k =>
      oryAnswer k c
        (match cookie.bind fun s => k.sessions.lookup s with
          | some session =>
              (.ok c.doc, { k with identities := submittedSettings k.identities session body })
          | none => (.error noSession, k))

/-! ## The gateway's signature -/

/-- Every call a service can make. -/
inductive GatewayOp where
  | mapping (op : MappingOp)
  | application (op : ApplicationOp)
  | agent (op : AgentOp)
  | listTenants
  | directory (op : DirectoryOp)
  | getOryToken (tenantId : String) (backend : Backend) (tokenType publicToken : String)
  | getOryTokenGlobal (backend : Backend) (tokenType publicToken : String)
  | entitlement (op : EntitlementOp)
  | hydra (op : HydraOp)
  | kratos (op : KratosOp)
  /-- `Ulid::new()`. -/
  | newUlid
  /-- `OffsetDateTime::now_utc()`. -/
  | nowUtc

/-- The answers. -/
@[reducible] def GatewayOp.Res : GatewayOp → Type
  | .mapping op => op.Res
  | .application op => op.Res
  | .agent op => op.Res
  | .listTenants => Except DbError (List TenantRow)
  | .directory op => op.Res
  | .getOryToken _ _ _ _ => Except DbError String
  | .getOryTokenGlobal _ _ _ => Except DbError (String × String)
  | .entitlement op => op.Res
  | .hydra op => op.Res
  | .kratos op => op.Res
  | .newUlid => String
  | .nowUtc => ℤ

/-- The signature of the gateway's services. -/
@[reducible] def Gateway : Sig := ⟨GatewayOp, GatewayOp.Res⟩

/-- What every call does to the world. -/
def gateway (env : Env) : Handler Gateway Choice World
  | .mapping op, c, w =>
      let r := mappingHandler env op c w.db
      (r.1, { w with db := r.2 })
  | .application op, c, w =>
      let r := applicationHandler op c w.db
      (r.1, { w with db := r.2 })
  | .agent op, c, w =>
      let r := agentHandler op c w.db
      (r.1, { w with db := r.2 })
  | .listTenants, c, w =>
      Fault.answer Fault.sqlx w (.ok w.db.tenants, w) (c.fault 0)
  | .directory op, c, w =>
      let r := directoryHandler env op c w.directory
      (r.1, { w with directory := r.2 })
  | .getOryToken t b ty p, c, w =>
      let row := w.transientTokens.find? fun x => x.tenantId = t ∧ x.backend = b ∧
        x.tokenType = ty ∧ x.publicToken = p ∧ c.now < x.expiresAt
      Fault.answer Fault.sqlx w (orNotFound .mappingNotFound (·.oryToken) row, w) (c.fault 0)
  | .getOryTokenGlobal b ty p, c, w =>
      let row := w.transientTokens.find? fun x => x.backend = b ∧
        x.tokenType = ty ∧ x.publicToken = p ∧ c.now < x.expiresAt
      Fault.answer Fault.sqlx w
        (orNotFound .mappingNotFound (fun x => (x.tenantId, x.oryToken)) row, w) (c.fault 0)
  | .entitlement op, c, w =>
      let r := entitlementHandler env op c w.tuples
      (r.1, { w with tuples := r.2 })
  | .hydra op, c, w =>
      let r := hydraHandler op c w.hydra
      (r.1, { w with hydra := r.2 })
  | .kratos op, c, w =>
      let r := kratosHandler op c w.kratos
      (r.1, { w with kratos := r.2 })
  | .newUlid, c, w => (c.ulid, w)
  | .nowUtc, c, w => (c.now, w)

/-! ## Calls

The calls as programs, under the names of the source. -/

/-- A service method: a program that may end in a service error. -/
abbrev Service (α : Type) := ExceptT ServiceError (Prog Gateway) α

namespace IdMappingStore

abbrev create (tenantId : String) (backend : Backend) (publicId oryGlobalId : String) :
    Prog Gateway (Except DbError IdMappingRow) :=
  Prog.perform (S := Gateway) (.mapping (.create tenantId backend publicId oryGlobalId))

abbrev getOryId (tenantId : String) (backend : Backend) (publicId : String) :
    Prog Gateway (Except DbError String) :=
  Prog.perform (S := Gateway) (.mapping (.getOryId tenantId backend publicId))

abbrev getOryIdByPublicId (backend : Backend) (publicId : String) :
    Prog Gateway (Except DbError String) :=
  Prog.perform (S := Gateway) (.mapping (.getOryIdByPublicId backend publicId))

abbrev getPublicId (tenantId : String) (backend : Backend) (oryGlobalId : String) :
    Prog Gateway (Except DbError String) :=
  Prog.perform (S := Gateway) (.mapping (.getPublicId tenantId backend oryGlobalId))

abbrev getPublicIdByOryId (backend : Backend) (oryGlobalId : String) :
    Prog Gateway (Except DbError String) :=
  Prog.perform (S := Gateway) (.mapping (.getPublicIdByOryId backend oryGlobalId))

abbrev delete (tenantId : String) (backend : Backend) (publicId : String) :
    Prog Gateway (Except DbError Unit) :=
  Prog.perform (S := Gateway) (.mapping (.delete tenantId backend publicId))

abbrev listPublicIds (tenantId : String) (backend : Backend) :
    Prog Gateway (Except DbError (List String)) :=
  Prog.perform (S := Gateway) (.mapping (.listPublicIds tenantId backend))

abbrev listMappings (tenantId : String) (backend : Backend) :
    Prog Gateway (Except DbError (List IdMappingRow)) :=
  Prog.perform (S := Gateway) (.mapping (.listMappings tenantId backend))

abbrev getTenantIdByOryId (backend : Backend) (oryGlobalId : String) :
    Prog Gateway (Except DbError (Option String)) :=
  Prog.perform (S := Gateway) (.mapping (.getTenantIdByOryId backend oryGlobalId))

abbrev updateTenant (backend : Backend) (publicId newTenantId : String) :
    Prog Gateway (Except DbError Unit) :=
  Prog.perform (S := Gateway) (.mapping (.updateTenant backend publicId newTenantId))

end IdMappingStore

namespace ApplicationStore

abbrev create (tenantId publicId : String) (crossTenant : Bool) (source : RegistrationSource) :
    Prog Gateway (Except DbError ApplicationRow) :=
  Prog.perform (S := Gateway) (.application (.create tenantId publicId crossTenant source))

abbrev get (tenantId publicId : String) : Prog Gateway (Except DbError ApplicationRow) :=
  Prog.perform (S := Gateway) (.application (.get tenantId publicId))

abbrev getByPublicId (publicId : String) : Prog Gateway (Except DbError ApplicationRow) :=
  Prog.perform (S := Gateway) (.application (.getByPublicId publicId))

abbrev delete (tenantId publicId : String) : Prog Gateway (Except DbError Unit) :=
  Prog.perform (S := Gateway) (.application (.delete tenantId publicId))

end ApplicationStore

namespace EntitlementService

abbrev check (tenantId identityId appPublicId relation : String) :
    Prog Gateway (Except ServiceError Bool) :=
  Prog.perform (S := Gateway) (.entitlement (.check tenantId identityId appPublicId relation))

/-- Source: `EntitlementService::is_member`. -/
abbrev isMember (tenantId identityId appPublicId : String) :
    Prog Gateway (Except ServiceError Bool) :=
  check tenantId identityId appPublicId memberRel

abbrev hasAnyTuples (tenantId appPublicId : String) : Prog Gateway (Except ServiceError Bool) :=
  Prog.perform (S := Gateway) (.entitlement (.hasAnyTuples tenantId appPublicId))

abbrev effectiveScopeCeiling (tenantId identityId : String) : Prog Gateway (List String) :=
  Prog.perform (S := Gateway) (.entitlement (.effectiveScopeCeiling tenantId identityId))

abbrev grant (tenantId identityId appPublicId : String) (level : EntitlementLevel) :
    Prog Gateway (Except ServiceError Unit) :=
  Prog.perform (S := Gateway) (.entitlement (.grant tenantId identityId appPublicId level))

abbrev seedApplication (tenantId appPublicId : String) (groups : List String) :
    Prog Gateway (Except ServiceError Unit) :=
  Prog.perform (S := Gateway) (.entitlement (.seedApplication tenantId appPublicId groups))

abbrev removeApplication (tenantId appPublicId : String) : Prog Gateway (Except ServiceError Unit) :=
  Prog.perform (S := Gateway) (.entitlement (.removeApplication tenantId appPublicId))

abbrev setGroupMembership (tenantId groupName identityId : String) (member : Bool) :
    Prog Gateway (Except ServiceError Unit) :=
  Prog.perform (S := Gateway)
    (.entitlement (.setGroupMembership tenantId groupName identityId member))

abbrev mintClaim (tenantId identityId appPublicId : String) : Prog Gateway Value :=
  Prog.perform (S := Gateway) (.entitlement (.mintClaim tenantId identityId appPublicId))

end EntitlementService

/-- `Ulid::new()`. -/
abbrev newUlid : Prog Gateway String := Prog.perform (S := Gateway) .newUlid

/-- `OffsetDateTime::now_utc()`. -/
abbrev nowUtc : Prog Gateway ℤ := Prog.perform (S := Gateway) .nowUtc

/-- `TenantStore::list`. -/
abbrev listTenants : Prog Gateway (Except DbError (List TenantRow)) :=
  Prog.perform (S := Gateway) .listTenants

/-- A call to Hydra that answers with a document. -/
abbrev callHydra (op : HydraOp) : Prog Gateway op.Res := Prog.perform (S := Gateway) (.hydra op)

/-- A call to Kratos. -/
abbrev callKratos (op : KratosOp) : Prog Gateway op.Res := Prog.perform (S := Gateway) (.kratos op)

end SsoGateway
