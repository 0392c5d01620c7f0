import Mathlib.Data.List.Dedup
import Mathlib.Data.List.Sort
import SsoGateway.Db
import SsoGateway.Errors
import SsoGateway.Lib.Json

/-!
# The registry of permission namespaces

Two tables: the namespaces of a tenant with their models, and the index of the object types that the
models define relations for, each owned by one namespace.

* `Namespaces` — the tables with their constraints.
* `Namespaces.get`, `Namespaces.getByType`, `Namespaces.remove` — the statements outside of `upsert`.
* `UpsertRequest`, `UpsertWrites` — the statements of `upsert`, on what the transaction has written so
  far; `Namespaces.commit` — its end.
* `Namespaces.upsert` — the statements one after another.
* `Namespaces.Consistent` — the index has exactly the types of the models.

That a tenant exists is left to the callers.

Source: `db/permission_namespace.rs`, `20260715161500_permission_namespaces.sql`.
-/

namespace SsoGateway

open Lib

/-! ## Tables -/

/-- Source: `permission_namespaces`. Instants are seconds. -/
structure NamespaceRow where
  tenantId : String
  nspace : String
  model : Value
  storeId : Option String
  modelId : Option String
  createdAt : ℤ
  updatedAt : ℤ

/-- Source: `permission_namespace_types`. -/
structure NamespaceTypeRow where
  tenantId : String
  type : String
  nspace : String
deriving DecidableEq, Repr

/-- The row is of that namespace. -/
def NamespaceRow.IsOf (r : NamespaceRow) (tenantId nspace : String) : Prop :=
  r.tenantId = tenantId ∧ r.nspace = nspace

/-- The type is indexed under that namespace. -/
def NamespaceTypeRow.IsOf (x : NamespaceTypeRow) (tenantId nspace : String) : Prop :=
  x.tenantId = tenantId ∧ x.nspace = nspace

instance (t n : String) : DecidablePred fun r : NamespaceRow => r.IsOf t n :=
  fun r => inferInstanceAs (Decidable (r.tenantId = t ∧ r.nspace = n))

instance (t n : String) : DecidablePred fun x : NamespaceTypeRow => x.IsOf t n :=
  fun x => inferInstanceAs (Decidable (x.tenantId = t ∧ x.nspace = n))

/-- The two tables. -/
structure Namespaces where
  records : List NamespaceRow
  types : List NamespaceTypeRow
  /-- `PRIMARY KEY (tenant_id, namespace)`. -/
  recordKey : records.Pairwise fun r r' => ¬ r.IsOf r'.tenantId r'.nspace
  /-- `PRIMARY KEY (tenant_id, type)`. -/
  typeKey : types.Pairwise fun x x' => ¬ (x.tenantId = x'.tenantId ∧ x.type = x'.type)
  /-- `FOREIGN KEY (tenant_id, namespace) REFERENCES permission_namespaces`. -/
  typeRecord : ∀ x ∈ types, ∃ r ∈ records, r.IsOf x.tenantId x.nspace

/-- Source: `relation_bearing_type_names`. -/
def relationBearingTypeNames (model : Value) : List String :=
  match (model.get "type_definitions").bind Value.asArray with
  | some defs =>
      let bearing := defs.filter fun d => match (d.get "relations").bind Value.asObject with
        | some relations => relations ≠ []
        | none => false
      (bearing.filterMap fun d => (d.get "type").bind Value.asStr).insertionSort (· ≤ ·)
  | none => []

namespace Namespaces

/-- A fresh registry. -/
def empty : Namespaces where
  records := []
  types := []
  recordKey := .nil
  typeKey := .nil
  typeRecord := by simp

/-- The index has exactly the types that the models define relations for. -/
def Consistent (R : Namespaces) : Prop :=
  ∀ r ∈ R.records, ∀ type, (⟨r.tenantId, type, r.nspace⟩ : NamespaceTypeRow) ∈ R.types ↔
    type ∈ relationBearingTypeNames r.model

/-! ## Reading -/

/-- Source: `SELECT_ROW … WHERE n.tenant_id = t AND n.namespace = n`: a row and its indexed types. -/
def get (R : Namespaces) (tenantId nspace : String) : Option NamespaceRow :=
  R.records.find? fun r => r.IsOf tenantId nspace

/-- The types aggregated next to a row. -/
def typesOf (R : Namespaces) (tenantId nspace : String) : List String :=
  ((R.types.filter fun x => x.IsOf tenantId nspace).map (·.type)).insertionSort (· ≤ ·)

/-- `SELECT namespace FROM permission_namespace_types WHERE tenant_id = t AND type = y`. -/
def ownerOf (R : Namespaces) (tenantId type : String) : Option String :=
  (R.types.find? fun x => x.tenantId = tenantId ∧ x.type = type).map (·.nspace)

/-- Source: `get_by_type`. -/
def getByType (R : Namespaces) (tenantId objectType : String) : Option NamespaceRow :=
  match (R.ownerOf tenantId objectType).bind (R.get tenantId) with
  | some row => some row
  | none => R.get tenantId objectType

/-! ## Deleting -/

/-- Source: `delete`. The types go with their namespace. -/
def remove (R : Namespaces) (tenantId nspace : String) : Namespaces where
  records := R.records.filter fun r => ¬ r.IsOf tenantId nspace
  types := R.types.filter fun x => ¬ x.IsOf tenantId nspace
  recordKey := R.recordKey.filter _
  typeKey := R.typeKey.filter _
  typeRecord := by
    intro x hx
    obtain ⟨hx, hof⟩ := List.mem_filter.mp hx
    obtain ⟨r, hr, hrx⟩ := R.typeRecord x hx
    refine ⟨r, List.mem_filter.mpr ⟨hr, decide_eq_true fun h => of_decide_eq_true hof ?_⟩, hrx⟩
    exact ⟨hrx.1.symm.trans h.1, hrx.2.symm.trans h.2⟩

end Namespaces

/-! ## The statements of an upsert -/

/-- The arguments of `upsert`. -/
structure UpsertRequest where
  tenantId : String
  nspace : String
  model : Value
  storeId : Option String
  modelId : Option String

/-- The types that are to be indexed. -/
def UpsertRequest.indexTypes (q : UpsertRequest) : List String := relationBearingTypeNames q.model

/-- What a transaction has written so far: the row of the namespace, and the types of the tenant it
has removed from the index and added to it. -/
structure UpsertWrites where
  record : NamespaceRow
  deleted : List String
  inserted : List String

namespace Namespaces

/-- The first statement: types that another namespace owns. -/
def conflicts (R : Namespaces) (q : UpsertRequest) : List String :=
  (R.types.filter fun x => x.tenantId = q.tenantId ∧ x.type ∈ q.indexTypes ∧
    x.nspace ≠ q.nspace).map (·.type)

/-- The row of `INSERT … ON CONFLICT (tenant_id, namespace) DO UPDATE`. -/
def mergedRow (R : Namespaces) (q : UpsertRequest) (now : ℤ) : NamespaceRow :=
  match R.get q.tenantId q.nspace with
  | some row =>
      ⟨q.tenantId, q.nspace, q.model, q.storeId <|> row.storeId, q.modelId <|> row.modelId,
        row.createdAt, now⟩
  | none => ⟨q.tenantId, q.nspace, q.model, q.storeId, q.modelId, now, now⟩

/-- The second statement. -/
def recordStatement (R : Namespaces) (q : UpsertRequest) (now : ℤ) : UpsertWrites :=
  ⟨R.mergedRow q now, [], []⟩

/-- The third statement: `DELETE … WHERE tenant_id = t AND namespace = n AND NOT (type = ANY(…))`. -/
def pruneStatement (R : Namespaces) (q : UpsertRequest) (W : UpsertWrites) : UpsertWrites :=
  { W with deleted := (R.types.filter fun x => x.IsOf q.tenantId q.nspace ∧
      x.type ∉ q.indexTypes).map (·.type) }

/-- The fourth statement: `INSERT … ON CONFLICT (tenant_id, type) DO NOTHING`. -/
def indexStatement (R : Namespaces) (q : UpsertRequest) (W : UpsertWrites) : UpsertWrites :=
  { W with inserted := q.indexTypes.dedup.filter fun type =>
      ¬ ∃ x ∈ R.types, x.tenantId = q.tenantId ∧ x.type = type }

/-- The index as the transaction sees it, and leaves it. -/
def typesAfter (R : Namespaces) (q : UpsertRequest) (W : UpsertWrites) : List NamespaceTypeRow :=
  W.inserted.map (fun type => ⟨q.tenantId, type, q.nspace⟩) ++
    R.types.filter fun x => ¬ (x.tenantId = q.tenantId ∧ x.type ∈ W.deleted)

/-- The rows as the transaction leaves them. -/
def recordsAfter (R : Namespaces) (q : UpsertRequest) (W : UpsertWrites) : List NamespaceRow :=
  W.record :: R.records.filter fun r => ¬ r.IsOf q.tenantId q.nspace

/-- The end of the transaction. -/
def commit (R : Namespaces) (q : UpsertRequest) (W : UpsertWrites) : Except DbError Namespaces :=
  if h : (R.recordsAfter q W).Pairwise (fun r r' => ¬ r.IsOf r'.tenantId r'.nspace) ∧
      (R.typesAfter q W).Pairwise (fun x x' => ¬ (x.tenantId = x'.tenantId ∧ x.type = x'.type)) ∧
      ∀ x ∈ R.typesAfter q W, ∃ r ∈ R.recordsAfter q W, r.IsOf x.tenantId x.nspace then
    .ok ⟨R.recordsAfter q W, R.typesAfter q W, h.1, h.2.1, h.2.2⟩
  else .error Db.duplicateKey

/-- Source: `upsert`, with nothing between its statements. -/
def upsert (R : Namespaces) (q : UpsertRequest) (now : ℤ) : Except DbError Namespaces :=
  match R.conflicts q with
  | type :: _ => .error (.namespaceTypeConflict type)
  | [] => R.commit q (R.indexStatement q (R.pruneStatement q (R.recordStatement q now)))

/-! ## Lemmas -/

variable {R R' : Namespaces} {q : UpsertRequest} {W : UpsertWrites}

theorem commit_ok (h : R.commit q W = .ok R') :
    R'.records = R.recordsAfter q W ∧ R'.types = R.typesAfter q W := by
  unfold commit at h
  split at h
  · obtain rfl := Except.ok.inj h
    exact ⟨rfl, rfl⟩
  · simp at h

/-- A type has one owner. -/
theorem type_unique {x x' : NamespaceTypeRow} (hx : x ∈ R.types) (hx' : x' ∈ R.types)
    (ht : x.tenantId = x'.tenantId) (htype : x.type = x'.type) : x = x' := by
  have hsymm : Std.Symm fun x x' : NamespaceTypeRow =>
      ¬ (x.tenantId = x'.tenantId ∧ x.type = x'.type) := ⟨fun _ _ h h' => h ⟨h'.1.symm, h'.2.symm⟩⟩
  by_contra hne
  exact R.typeKey.forall hx hx' hne ⟨ht, htype⟩

/-- A namespace has one row. -/
theorem record_unique {r r' : NamespaceRow} (hr : r ∈ R.records) (hr' : r' ∈ R.records)
    (h : r.IsOf r'.tenantId r'.nspace) : r = r' := by
  have hsymm : Std.Symm fun r r' : NamespaceRow => ¬ r.IsOf r'.tenantId r'.nspace :=
    ⟨fun _ _ h h' => h ⟨h'.1.symm, h'.2.symm⟩⟩
  by_contra hne
  exact R.recordKey.forall hr hr' hne h

@[simp] theorem mem_recordsAfter {r : NamespaceRow} :
    r ∈ R.recordsAfter q W ↔ r = W.record ∨ (r ∈ R.records ∧ ¬ r.IsOf q.tenantId q.nspace) := by
  simp [recordsAfter]

@[simp] theorem mem_typesAfter {x : NamespaceTypeRow} :
    x ∈ R.typesAfter q W ↔ (x.IsOf q.tenantId q.nspace ∧ x.type ∈ W.inserted) ∨
      (x ∈ R.types ∧ ¬ (x.tenantId = q.tenantId ∧ x.type ∈ W.deleted)) := by
  obtain ⟨t, y, n⟩ := x
  simp only [typesAfter, List.mem_append, List.mem_map, NamespaceTypeRow.mk.injEq, List.mem_filter,
    NamespaceTypeRow.IsOf, decide_eq_true_eq]
  constructor
  · rintro (⟨y', hy', rfl, rfl, rfl⟩ | h)
    · exact .inl ⟨⟨rfl, rfl⟩, hy'⟩
    · exact .inr h
  · rintro (⟨⟨rfl, rfl⟩, hy⟩ | h)
    · exact .inl ⟨y, hy, rfl, rfl, rfl⟩
    · exact .inr h

theorem mem_pruned {type : String} : type ∈ (R.pruneStatement q W).deleted ↔
    (⟨q.tenantId, type, q.nspace⟩ : NamespaceTypeRow) ∈ R.types ∧ type ∉ q.indexTypes := by
  simp only [pruneStatement, List.mem_map, List.mem_filter, decide_eq_true_eq]
  constructor
  · rintro ⟨⟨t, y, n⟩, ⟨hx, ⟨rfl, rfl⟩, hy⟩, rfl⟩
    exact ⟨hx, hy⟩
  · rintro ⟨hx, hy⟩
    exact ⟨_, ⟨hx, ⟨rfl, rfl⟩, hy⟩, rfl⟩

theorem mem_indexed {type : String} : type ∈ (R.indexStatement q W).inserted ↔
    type ∈ q.indexTypes ∧ ∀ x ∈ R.types, x.tenantId = q.tenantId → x.type ≠ type := by
  simp [indexStatement]

theorem conflicts_eq_nil : R.conflicts q = [] ↔
    ∀ x ∈ R.types, x.tenantId = q.tenantId → x.type ∈ q.indexTypes → x.nspace = q.nspace := by
  simp [conflicts]

@[simp] theorem mergedRow_isOf (now : ℤ) : (R.mergedRow q now).IsOf q.tenantId q.nspace := by
  unfold mergedRow
  split <;> exact ⟨rfl, rfl⟩

@[simp] theorem mergedRow_model (now : ℤ) : (R.mergedRow q now).model = q.model := by
  unfold mergedRow
  split <;> rfl

/-- What an upsert that succeeds makes of the registry: nothing it indexes had another owner, the
row is the merged one, and the namespace owns just the types of the model. -/
theorem upsert_ok {now : ℤ} (h : R.upsert q now = .ok R') :
    (∀ x ∈ R.types, x.tenantId = q.tenantId → x.type ∈ q.indexTypes → x.nspace = q.nspace) ∧
      (∀ r, r ∈ R'.records ↔ r = R.mergedRow q now ∨
        (r ∈ R.records ∧ ¬ r.IsOf q.tenantId q.nspace)) ∧
      ∀ x, x ∈ R'.types ↔ (x.IsOf q.tenantId q.nspace ∧ x.type ∈ q.indexTypes) ∨
        (x ∈ R.types ∧ ¬ x.IsOf q.tenantId q.nspace) := by
  unfold upsert at h
  split at h
  · simp at h
  rename_i hnone
  have hfree := conflicts_eq_nil.mp hnone
  obtain ⟨hrecords, htypes⟩ := commit_ok h
  refine ⟨hfree, fun r => ?_, fun x => ?_⟩
  · rw [hrecords, mem_recordsAfter]
    rfl
  · rw [htypes, mem_typesAfter]
    simp only [mem_indexed]
    constructor
    · rintro (⟨hof, htype, -⟩ | ⟨hx, hkept⟩)
      · exact .inl ⟨hof, htype⟩
      · by_cases hof : x.IsOf q.tenantId q.nspace
        · -- a type of the namespace that was not pruned is one of the model
          refine .inl ⟨hof, ?_⟩
          by_contra hgone
          obtain ⟨t, y, n⟩ := x
          obtain ⟨rfl, rfl⟩ := hof
          exact hkept ⟨rfl, (mem_pruned (W := R.recordStatement q now)).mpr ⟨hx, hgone⟩⟩
        · exact .inr ⟨hx, hof⟩
    · rintro (⟨hof, htype⟩ | ⟨hx, hof⟩)
      · by_cases hin : x ∈ R.types
        · refine .inr ⟨hin, fun hgone => ?_⟩
          exact ((mem_pruned (W := R.recordStatement q now)).mp hgone.2).2 htype
        · refine .inl ⟨hof, htype, fun x' hx' ht hy => hin ?_⟩
          -- an entry of the type is one of the namespace, and so is this very entry
          obtain ⟨t, y, n⟩ := x
          obtain ⟨rfl, rfl⟩ := hof
          have hn := hfree x' hx' ht (hy ▸ htype)
          obtain ⟨t', y', n'⟩ := x'
          simp only at ht hy hn
          exact ht ▸ hy ▸ hn ▸ hx'
      · refine .inr ⟨hx, fun hgone => hof ⟨hgone.1, ?_⟩⟩
        have hpruned := ((mem_pruned (W := R.recordStatement q now)).mp hgone.2).1
        rw [type_unique hx hpruned hgone.1 rfl]

/-! ### Reading what is there -/

theorem get_eq_some {t n : String} {r : NamespaceRow} :
    R.get t n = some r ↔ r ∈ R.records ∧ r.IsOf t n := by
  constructor
  · intro h
    exact ⟨List.mem_of_find?_eq_some h, by simpa using List.find?_some h⟩
  · rintro ⟨hr, rfl, rfl⟩
    rcases h : R.get r.tenantId r.nspace with _ | r'
    · have hno : ¬ r.IsOf r.tenantId r.nspace := by simpa using List.find?_eq_none.mp h r hr
      exact absurd ⟨rfl, rfl⟩ hno
    · have hr' : r' ∈ R.records := List.mem_of_find?_eq_some h
      have hof : r'.IsOf r.tenantId r.nspace := by simpa using List.find?_some h
      rw [record_unique hr' hr hof]

theorem get_eq_none {t n : String} : R.get t n = none ↔ ∀ r ∈ R.records, ¬ r.IsOf t n := by
  simp [get]

theorem ownerOf_eq_some {t y n : String} :
    R.ownerOf t y = some n ↔ (⟨t, y, n⟩ : NamespaceTypeRow) ∈ R.types := by
  unfold ownerOf
  constructor
  · intro h
    obtain ⟨⟨t', y', n'⟩, hx, rfl⟩ := Option.map_eq_some_iff.mp h
    obtain ⟨rfl, rfl⟩ : t' = t ∧ y' = y := by simpa using List.find?_some hx
    exact List.mem_of_find?_eq_some hx
  · intro hx
    rcases h : R.types.find? (fun x => x.tenantId = t ∧ x.type = y) with _ | x'
    · simpa using List.find?_eq_none.mp h _ hx
    · obtain ⟨ht, hy⟩ : x'.tenantId = t ∧ x'.type = y := by simpa using List.find?_some h
      obtain rfl := type_unique (List.mem_of_find?_eq_some h) hx ht hy
      exact Option.map_eq_some_iff.mpr ⟨_, h, rfl⟩

end Namespaces

end SsoGateway
