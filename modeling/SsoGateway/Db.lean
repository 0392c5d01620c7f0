import SsoGateway.Errors
import Mathlib.Data.List.Sort
import Mathlib.Data.List.Pairwise
import Mathlib.Data.Int.Basic

/-!
# The gateway's tables

The rows the modelled services read and write, and the database they live in. The constraints of
the migrations (primary keys, unique keys, foreign keys, `ON DELETE CASCADE`) are fields of `Db`,
so a database that breaks one of them cannot be built; every statement that could break one is
refused, as PostgreSQL refuses it.

* `IdMappingRow`, `ApplicationRow`, `AgentRow`, `TenantRow` — the rows.
* `Db` — the tables with their constraints.
* `Db.insertMapping`, `Db.deleteMapping`, `Db.updateTenant`, `Db.insertApplication`,
  `Db.deleteApplication`, `Db.insertAgent`, `Db.deleteAgent` — the writing statements.
* `Db.mappingRows`, `Db.getPublicId`, … — the reading statements.
-/

namespace SsoGateway

/-! ## Enumerations -/

/-- The Ory backends an id can belong to.
Source: `20260701200000_init.sql` `CHECK (backend IN ('hydra', 'kratos', 'keto'))`. -/
inductive Backend where
  | hydra
  | kratos
  | keto
deriving DecidableEq, Repr

/-- How an application was registered.
Source: `20260804170000_application_registration_source.sql`. -/
inductive RegistrationSource where
  | admin
  | dcr
deriving DecidableEq, Repr

/-! ## Rows -/

/-- Source: `db/tenant.rs` `TenantRow`. -/
structure TenantRow where
  id : String
deriving DecidableEq, Repr

/-- Source: `db/id_mapping.rs` `IdMappingRow`. Instants are seconds. -/
structure IdMappingRow where
  tenantId : String
  backend : Backend
  publicId : String
  oryGlobalId : String
  createdAt : ℤ
deriving DecidableEq, Repr

/-- Source: `db/application.rs` `ApplicationRow`. -/
structure ApplicationRow where
  tenantId : String
  publicId : String
  crossTenant : Bool
  registrationSource : RegistrationSource
deriving DecidableEq, Repr

/-- Source: `db/agent.rs` `AgentRow`. -/
structure AgentRow where
  id : String
  tenantId : String
  ownerIdentityId : Option String
  name : String
  status : String
deriving DecidableEq, Repr

/-- Two mapping rows that the unique keys of `id_mappings` do not allow together. -/
def IdMappingRow.Conflicts (m m' : IdMappingRow) : Prop :=
  m.publicId = m'.publicId ∨
    (m.tenantId = m'.tenantId ∧ m.backend = m'.backend ∧ m.oryGlobalId = m'.oryGlobalId)

instance (m m' : IdMappingRow) : Decidable (m.Conflicts m') :=
  inferInstanceAs (Decidable (_ ∨ _))

theorem IdMappingRow.Conflicts.symm {m m' : IdMappingRow} (h : m.Conflicts m') :
    m'.Conflicts m := by
  rcases h with h | ⟨ht, hb, ho⟩
  · exact .inl h.symm
  · exact .inr ⟨ht.symm, hb.symm, ho.symm⟩

/-! ## The database -/

/-- The tables, with the constraints of the migrations. -/
structure Db where
  tenants : List TenantRow
  idMappings : List IdMappingRow
  applications : List ApplicationRow
  agents : List AgentRow
  /-- `public_id TEXT UNIQUE`, `UNIQUE (tenant_id, backend, ory_global_id)`. -/
  mappingKeys : idMappings.Pairwise fun m m' => ¬ m.Conflicts m'
  /-- `id_mappings.tenant_id REFERENCES tenants(id)`. -/
  mappingTenant : ∀ m ∈ idMappings, ∃ t ∈ tenants, t.id = m.tenantId
  /-- `applications.public_id PRIMARY KEY`. -/
  applicationKey : applications.Pairwise fun a a' => a.publicId ≠ a'.publicId
  /-- `applications.public_id REFERENCES id_mappings(public_id)`. -/
  applicationMapping : ∀ a ∈ applications, ∃ m ∈ idMappings, m.publicId = a.publicId
  /-- `applications.tenant_id REFERENCES tenants(id)`. -/
  applicationTenant : ∀ a ∈ applications, ∃ t ∈ tenants, t.id = a.tenantId
  /-- `agents.id PRIMARY KEY`. -/
  agentKey : agents.Pairwise fun a a' => a.id ≠ a'.id
  /-- `agents.tenant_id REFERENCES tenants(id)`. -/
  agentTenant : ∀ a ∈ agents, ∃ t ∈ tenants, t.id = a.tenantId

namespace Db

theorem noApplications_key : ([] : List ApplicationRow).Pairwise
    fun a a' => a.publicId ≠ a'.publicId := .nil

theorem noAgents_key : ([] : List AgentRow).Pairwise fun a a' => a.id ≠ a'.id := .nil

/-- The database of a fresh installation with the given tenants. -/
def empty (tenants : List TenantRow) : Db where
  tenants := tenants
  idMappings := []
  applications := []
  agents := []
  mappingKeys := .nil
  mappingTenant := by simp
  applicationKey := noApplications_key
  applicationMapping := by simp
  applicationTenant := by simp
  agentKey := noAgents_key
  agentTenant := by simp

/-- There is a tenant of that id. -/
def HasTenant (db : Db) (tenantId : String) : Prop := ∃ t ∈ db.tenants, t.id = tenantId

instance (db : Db) (tenantId : String) : Decidable (db.HasTenant tenantId) :=
  inferInstanceAs (Decidable (∃ t ∈ db.tenants, _))

/-! ## Reading statements -/

/-- `… FROM id_mappings WHERE backend = b AND ory_global_id = o`. -/
def rowsOf (db : Db) (backend : Backend) (oryGlobalId : String) : List IdMappingRow :=
  db.idMappings.filter fun m => m.backend = backend ∧ m.oryGlobalId = oryGlobalId

@[simp] theorem mem_rowsOf {db : Db} {b : Backend} {o : String} {m : IdMappingRow} :
    m ∈ db.rowsOf b o ↔ m ∈ db.idMappings ∧ m.backend = b ∧ m.oryGlobalId = o := by
  simp [rowsOf]

/-- `SELECT … WHERE tenant_id = t AND backend = b AND ory_global_id = o`. -/
def findMapping (db : Db) (tenantId : String) (backend : Backend) (oryGlobalId : String) :
    Option IdMappingRow :=
  db.idMappings.find? fun m =>
    m.tenantId = tenantId ∧ m.backend = backend ∧ m.oryGlobalId = oryGlobalId

/-- `SELECT … WHERE backend = b AND public_id = p`. -/
def findByPublicId (db : Db) (backend : Backend) (publicId : String) : Option IdMappingRow :=
  db.idMappings.find? fun m => m.backend = backend ∧ m.publicId = publicId

/-- `SELECT … WHERE tenant_id = t AND backend = b ORDER BY created_at DESC`. -/
def mappingRows (db : Db) (tenantId : String) (backend : Backend) : List IdMappingRow :=
  (db.idMappings.filter fun m => m.tenantId = tenantId ∧ m.backend = backend).insertionSort
    fun m m' => m'.createdAt ≤ m.createdAt

@[simp] theorem mem_mappingRows {db : Db} {t : String} {b : Backend} {m : IdMappingRow} :
    m ∈ db.mappingRows t b ↔ m ∈ db.idMappings ∧ m.tenantId = t ∧ m.backend = b := by
  simp [mappingRows, List.mem_insertionSort]

/-- `SELECT … FROM applications WHERE public_id = p`. -/
def findApplication (db : Db) (publicId : String) : Option ApplicationRow :=
  db.applications.find? fun a => a.publicId = publicId

/-- `SELECT … FROM agents WHERE id = i`. -/
def findAgent (db : Db) (id : String) : Option AgentRow := db.agents.find? fun a => a.id = id

/-! ## Writing statements

A statement whose result would break a constraint is refused and changes nothing. -/

/-- The driver's report of a refused unique or primary key. -/
def duplicateKey : DbError := .sqlx "duplicate key value violates unique constraint"

/-- The driver's report of a refused foreign key. -/
def missingReference : DbError := .sqlx "insert or update violates foreign key constraint"

/-- `INSERT INTO id_mappings`. -/
def insertMapping (db : Db) (m : IdMappingRow) : Except DbError Db :=
  if hkeys : (m :: db.idMappings).Pairwise fun m m' => ¬ m.Conflicts m' then
    if htenant : db.HasTenant m.tenantId then
      .ok { db with
        idMappings := m :: db.idMappings
        mappingKeys := hkeys
        mappingTenant := fun m' hm' => by
          rcases List.mem_cons.mp hm' with rfl | hm'
          · exact htenant
          · exact db.mappingTenant m' hm'
        applicationMapping := fun a ha => by
          obtain ⟨m', hm', hp⟩ := db.applicationMapping a ha
          exact ⟨m', List.mem_cons_of_mem m hm', hp⟩ }
    else .error missingReference
  else .error duplicateKey

/-- `DELETE FROM id_mappings WHERE tenant_id = t AND backend = b AND public_id = p`, with the
cascade into `applications`. -/
def deleteMapping (db : Db) (tenantId : String) (backend : Backend) (publicId : String) :
    Except DbError Db :=
  if ∃ m ∈ db.idMappings, m.tenantId = tenantId ∧ m.backend = backend ∧ m.publicId = publicId then
    .ok { db with
      idMappings := db.idMappings.filter fun m => m.publicId ≠ publicId
      applications := db.applications.filter fun a => a.publicId ≠ publicId
      mappingKeys := db.mappingKeys.filter _
      mappingTenant := fun m hm => db.mappingTenant m (List.mem_of_mem_filter hm)
      applicationKey := db.applicationKey.filter _
      applicationMapping := fun a ha => by
        obtain ⟨ha, hne⟩ := List.mem_filter.mp ha
        obtain ⟨m, hm, hp⟩ := db.applicationMapping a ha
        exact ⟨m, List.mem_filter.mpr ⟨hm, by simpa [hp] using hne⟩, hp⟩
      applicationTenant := fun a ha => db.applicationTenant a (List.mem_of_mem_filter ha) }
  else .error .mappingNotFound

/-- The row as `UPDATE id_mappings SET tenant_id = t WHERE backend = b AND public_id = p` leaves
it. -/
def rehome (backend : Backend) (publicId newTenantId : String) (m : IdMappingRow) : IdMappingRow :=
  if m.backend = backend ∧ m.publicId = publicId then { m with tenantId := newTenantId } else m

@[simp] theorem rehome_publicId (b : Backend) (p t : String) (m : IdMappingRow) :
    (rehome b p t m).publicId = m.publicId := by
  unfold rehome
  split <;> rfl

/-- `UPDATE id_mappings SET tenant_id = t WHERE backend = b AND public_id = p`. -/
def updateTenant (db : Db) (backend : Backend) (publicId newTenantId : String) :
    Except DbError Db :=
  if ∃ m ∈ db.idMappings, m.backend = backend ∧ m.publicId = publicId then
    if hkeys : (db.idMappings.map (rehome backend publicId newTenantId)).Pairwise
        fun m m' => ¬ m.Conflicts m' then
      if htenant : db.HasTenant newTenantId then
        .ok { db with
          idMappings := db.idMappings.map (rehome backend publicId newTenantId)
          mappingKeys := hkeys
          mappingTenant := fun m hm => by
            obtain ⟨m', hm', rfl⟩ := List.mem_map.mp hm
            unfold rehome
            split
            · exact htenant
            · exact db.mappingTenant m' hm'
          applicationMapping := fun a ha => by
            obtain ⟨m, hm, hp⟩ := db.applicationMapping a ha
            exact ⟨_, List.mem_map_of_mem hm, by simpa using hp⟩ }
      else .error missingReference
    else .error duplicateKey
  else .error .mappingNotFound

/-- `INSERT INTO applications`. -/
def insertApplication (db : Db) (a : ApplicationRow) : Except DbError Db :=
  if hkey : (a :: db.applications).Pairwise fun a a' => a.publicId ≠ a'.publicId then
    if hrefs : (∃ m ∈ db.idMappings, m.publicId = a.publicId) ∧ db.HasTenant a.tenantId then
      .ok { db with
        applications := a :: db.applications
        applicationKey := hkey
        applicationMapping := fun a' ha' => by
          rcases List.mem_cons.mp ha' with rfl | ha'
          · exact hrefs.1
          · exact db.applicationMapping a' ha'
        applicationTenant := fun a' ha' => by
          rcases List.mem_cons.mp ha' with rfl | ha'
          · exact hrefs.2
          · exact db.applicationTenant a' ha' }
    else .error missingReference
  else .error duplicateKey

/-- `DELETE FROM applications WHERE tenant_id = t AND public_id = p`. -/
def deleteApplication (db : Db) (tenantId publicId : String) : Except DbError Db :=
  if ∃ a ∈ db.applications, a.tenantId = tenantId ∧ a.publicId = publicId then
    .ok { db with
      applications := db.applications.filter fun a => a.publicId ≠ publicId
      applicationKey := db.applicationKey.filter _
      applicationMapping := fun a ha => db.applicationMapping a (List.mem_of_mem_filter ha)
      applicationTenant := fun a ha => db.applicationTenant a (List.mem_of_mem_filter ha) }
  else .error .applicationNotFound

/-- `INSERT INTO agents`. -/
def insertAgent (db : Db) (a : AgentRow) : Except DbError Db :=
  if hkey : (a :: db.agents).Pairwise fun a a' => a.id ≠ a'.id then
    if htenant : db.HasTenant a.tenantId then
      .ok { db with
        agents := a :: db.agents
        agentKey := hkey
        agentTenant := fun a' ha' => by
          rcases List.mem_cons.mp ha' with rfl | ha'
          · exact htenant
          · exact db.agentTenant a' ha' }
    else .error missingReference
  else .error duplicateKey

/-- `DELETE FROM agents WHERE tenant_id = t AND id = i`. -/
def deleteAgent (db : Db) (tenantId id : String) : Except DbError Db :=
  if ∃ a ∈ db.agents, a.tenantId = tenantId ∧ a.id = id then
    .ok { db with
      agents := db.agents.filter fun a => a.id ≠ id
      agentKey := db.agentKey.filter _
      agentTenant := fun a ha => db.agentTenant a (List.mem_of_mem_filter ha) }
  else .error .agentNotFound

end Db

end SsoGateway
