import SsoGateway.Db
import SsoGateway.Lib.Json

/-!
# The tables about identities

Identity schemas, tenant memberships, SCIM groups and their members, with the constraints of the
migrations as fields, and the tuples of the namespace `scim_group` in the permission backend.

* `Directory` — the tables.
* `Directory.insertGroup`, `Directory.renameGroup`, `Directory.deleteGroup`,
  `Directory.insertMember`, `Directory.keepMembers` — the writing statements on groups.

Source: `db/identity_schema.rs`, `db/tenant_membership.rs`, `db/scim_group.rs`.
-/

namespace SsoGateway

open Lib

/-! ## Rows -/

/-- Source: `db/identity_schema.rs` `IdentitySchemaRow`. -/
structure IdentitySchemaRow where
  tenantId : String
  schemaId : String
  version : ℕ
  schemaJson : Value
  isDefault : Bool

/-- Source: `db/tenant_membership.rs` `TenantMembershipRow`. -/
structure TenantMembershipRow where
  tenantId : String
  publicId : String
  schemaId : String
  version : ℕ
  traits : Value

/-- Source: `db/scim_group.rs` `ScimGroupRow`; the timestamps only order listings. -/
structure ScimGroupRow where
  id : String
  tenantId : String
  displayName : String
deriving DecidableEq, Repr

/-! ## The tables -/

/-- The tables about identities: schemas, memberships, SCIM groups, and their members as
`(group, user)`. The tuples of the namespace `scim_group` in the permission backend, which no other
service reads or writes, are `(tenant, group, user)`. -/
structure Directory where
  schemas : List IdentitySchemaRow
  memberships : List TenantMembershipRow
  groups : List ScimGroupRow
  groupMembers : List (String × String)
  groupTuples : List (String × String × String)
  /-- `tenant_memberships PRIMARY KEY (tenant_id, identity_id)`. -/
  membershipKey : memberships.Pairwise fun r r' =>
    ¬ (r.tenantId = r'.tenantId ∧ r.publicId = r'.publicId)
  /-- `scim_groups.id PRIMARY KEY`. -/
  groupKey : groups.Pairwise fun g g' => g.id ≠ g'.id
  /-- `scim_group_members.group_id REFERENCES scim_groups(id)`. -/
  memberGroup : ∀ m ∈ groupMembers, ∃ g ∈ groups, g.id = m.1

namespace Directory

theorem noMemberships_key : ([] : List TenantMembershipRow).Pairwise fun r r' =>
    ¬ (r.tenantId = r'.tenantId ∧ r.publicId = r'.publicId) := .nil

theorem noGroups_key : ([] : List ScimGroupRow).Pairwise fun g g' => g.id ≠ g'.id := .nil

theorem noMembers_group (groups : List ScimGroupRow) :
    ∀ m ∈ ([] : List (String × String)), ∃ g ∈ groups, g.id = m.1 :=
  fun _ hm => absurd hm List.not_mem_nil

/-- The tables of a fresh installation. -/
def empty : Directory :=
  ⟨[], [], [], [], [], noMemberships_key, noGroups_key, noMembers_group []⟩

/-- `SELECT … FROM scim_groups WHERE tenant_id = t AND id = i`. -/
def findGroup (d : Directory) (tenantId id : String) : Option ScimGroupRow :=
  d.groups.find? fun g => g.tenantId = tenantId ∧ g.id = id

/-- The tenant has a group of that id. -/
def HasGroup (d : Directory) (tenantId id : String) : Prop :=
  ∃ g ∈ d.groups, g.tenantId = tenantId ∧ g.id = id

instance (d : Directory) (tenantId id : String) : Decidable (d.HasGroup tenantId id) :=
  inferInstanceAs (Decidable (∃ g ∈ d.groups, _))

theorem hasGroup_of_findGroup {d : Directory} {t i : String} {g : ScimGroupRow}
    (h : d.findGroup t i = some g) : d.HasGroup t i := by
  have hg := List.find?_some h
  exact ⟨g, List.mem_of_find?_eq_some h, by simpa using hg⟩

/-! ## Writing statements -/

/-- `INSERT INTO tenant_memberships … ON CONFLICT (tenant_id, identity_id) DO UPDATE`. -/
def upsertMembership (d : Directory) (row : TenantMembershipRow) : Directory :=
  { d with
    memberships := row :: d.memberships.filter fun r =>
      ¬ (r.tenantId = row.tenantId ∧ r.publicId = row.publicId)
    membershipKey := by
      refine List.pairwise_cons.mpr ⟨fun r hr hsame => ?_, d.membershipKey.filter _⟩
      have hne := (List.mem_filter.mp hr).2
      simp [hsame.1, hsame.2] at hne }

@[simp] theorem mem_upsertMembership {d : Directory} {row r : TenantMembershipRow} :
    r ∈ (d.upsertMembership row).memberships ↔ r = row ∨ (r ∈ d.memberships ∧
      ¬ (r.tenantId = row.tenantId ∧ r.publicId = row.publicId)) := by
  simp only [upsertMembership, List.mem_cons, List.mem_filter, decide_eq_true_eq]

/-- `INSERT INTO scim_groups`. -/
def insertGroup (d : Directory) (row : ScimGroupRow) : Except DbError Directory :=
  if hkey : (row :: d.groups).Pairwise fun g g' => g.id ≠ g'.id then
    .ok { d with
      groups := row :: d.groups
      groupKey := hkey
      memberGroup := fun m hm => by
        obtain ⟨g, hg, hid⟩ := d.memberGroup m hm
        exact ⟨g, List.mem_cons_of_mem row hg, hid⟩ }
  else .error Db.duplicateKey

/-- The row as `UPDATE scim_groups SET display_name = n WHERE tenant_id = t AND id = i` leaves
it. -/
def renamed (tenantId id displayName : String) (g : ScimGroupRow) : ScimGroupRow :=
  if g.tenantId = tenantId ∧ g.id = id then { g with displayName := displayName } else g

@[simp] theorem renamed_id (t i n : String) (g : ScimGroupRow) : (renamed t i n g).id = g.id := by
  unfold renamed
  split <;> rfl

@[simp] theorem renamed_tenantId (t i n : String) (g : ScimGroupRow) :
    (renamed t i n g).tenantId = g.tenantId := by
  unfold renamed
  split <;> rfl

/-- `UPDATE scim_groups SET display_name = n WHERE tenant_id = t AND id = i`. -/
def renameGroup (d : Directory) (tenantId id displayName : String) : Directory :=
  { d with
    groups := d.groups.map (renamed tenantId id displayName)
    groupKey := List.pairwise_map.mpr (d.groupKey.imp fun h => by simpa using h)
    memberGroup := fun m hm => by
      obtain ⟨g, hg, hid⟩ := d.memberGroup m hm
      exact ⟨_, List.mem_map_of_mem hg, by simpa using hid⟩ }

/-- `DELETE FROM scim_groups WHERE tenant_id = t AND id = i`, with the cascade into
`scim_group_members`. -/
def deleteGroup (d : Directory) (tenantId id : String) : Except DbError Directory :=
  if d.HasGroup tenantId id then
    .ok { d with
      groups := d.groups.filter fun g => g.id ≠ id
      groupMembers := d.groupMembers.filter fun m => m.1 ≠ id
      groupKey := d.groupKey.filter _
      memberGroup := fun m hm => by
        obtain ⟨hm, hne⟩ := List.mem_filter.mp hm
        obtain ⟨g, hg, hid⟩ := d.memberGroup m hm
        exact ⟨g, List.mem_filter.mpr ⟨hg, by simpa [hid] using hne⟩, hid⟩ }
  else .error .tenantNotFound

/-- `INSERT INTO scim_group_members … ON CONFLICT DO NOTHING`, after the check that the tenant has
the group. -/
def insertMember (d : Directory) (tenantId groupId userId : String) : Except DbError Directory :=
  if hgroup : d.HasGroup tenantId groupId then
    .ok { d with
      groupMembers := d.groupMembers.insert (groupId, userId)
      memberGroup := fun m hm => by
        rcases List.mem_insert_iff.mp hm with rfl | hm
        · obtain ⟨g, hg, -, hid⟩ := hgroup
          exact ⟨g, hg, hid⟩
        · exact d.memberGroup m hm }
  else .error .tenantNotFound

/-- `DELETE FROM scim_group_members WHERE …`: the rows that are kept. -/
def keepMembers (d : Directory) (keep : String × String → Bool) : Directory :=
  { d with
    groupMembers := d.groupMembers.filter keep
    memberGroup := fun m hm => d.memberGroup m (List.mem_of_mem_filter hm) }

end Directory

end SsoGateway
