import SsoGateway.PermissionService

/-!
# Mirror and backend

What the mirror says a tenant has, what the backend holds for it, and what each write makes of the
two.

* `Mirrored` — the tuples the mirror's rows of a tenant stand for, as a backend writes them.
* `OfTenant`, `InStores` — the tuples Keto and OpenFGA hold for a tenant.
* `FgaReady` — what the registry says about the stores: names without a colon, stores of one tenant,
  ids of one store.
* `Housed` — the tuple of a row is in the store its namespace resolves to, and in no other.
* `mirrored_insert`, `inStores_apply`, … — one lemma for each write.
-/

namespace SsoGateway

open Lib

variable {T : String} {w : PermissionWorld}

/-! ## The mirror -/

/-- The tuple is that of a row of the tenant. -/
def Mirrored {τ : Type} (enc : RelationTupleKey → τ) (T : String) (rows : List PermissionTupleRow)
    (x : τ) : Prop :=
  ∃ row ∈ rows, row.tenantId = T ∧ enc row.key = x

section mirror

variable {τ : Type} {enc : RelationTupleKey → τ} {rows : List PermissionTupleRow} {x : τ}

/-- After an insertion. -/
theorem mirrored_insert {ids : ℕ → String} {keys : List RelationTupleKey} :
    Mirrored enc T (TupleMirror.newRows ids T keys ++ rows) x ↔
      Mirrored enc T rows x ∨ ∃ k ∈ keys, enc k = x := by
  unfold Mirrored
  constructor
  · rintro ⟨row, hrow, ht, hx⟩
    rcases List.mem_append.mp hrow with hnew | hold
    · obtain ⟨-, n, hn, -⟩ := TupleMirror.mem_newRows.mp hnew
      exact .inr ⟨row.key, List.mem_of_getElem? hn, hx⟩
    · exact .inl ⟨row, hold, ht, hx⟩
  · rintro (⟨row, hold, ht, hx⟩ | ⟨k, hk, hx⟩)
    · exact ⟨row, List.mem_append_right _ hold, ht, hx⟩
    · obtain ⟨row, hnew, ht, rfl⟩ := TupleMirror.exists_newRows.mpr ⟨rfl, hk⟩
      exact ⟨row, List.mem_append_left _ hnew, ht, hx⟩

/-- After a deletion of rows, if whether a row goes depends on its tuple only. -/
theorem mirrored_delete {p : PermissionTupleRow → Bool} {Y : τ → Prop}
    (hp : ∀ row ∈ rows, row.tenantId = T → (p row = true ↔ Y (enc row.key))) :
    Mirrored enc T (rows.filter fun row => !p row) x ↔ Mirrored enc T rows x ∧ ¬ Y x := by
  unfold Mirrored
  constructor
  · rintro ⟨row, hrow, ht, rfl⟩
    obtain ⟨hold, hkept⟩ := List.mem_filter.mp hrow
    refine ⟨⟨row, hold, ht, rfl⟩, fun hy => ?_⟩
    simp [(hp row hold ht).mpr hy] at hkept
  · rintro ⟨⟨row, hold, ht, rfl⟩, hy⟩
    refine ⟨row, List.mem_filter.mpr ⟨hold, ?_⟩, ht, rfl⟩
    have hno : ¬ p row = true := fun h => hy ((hp row hold ht).mp h)
    simpa using hno

/-- Rows of other tenants do not matter. -/
theorem mirrored_congr {rows' : List PermissionTupleRow}
    (h : ∀ row, row.tenantId = T → (row ∈ rows' ↔ row ∈ rows)) :
    Mirrored enc T rows' x ↔ Mirrored enc T rows x := by
  unfold Mirrored
  constructor
  · rintro ⟨row, hrow, ht, hx⟩
    exact ⟨row, (h row ht).mp hrow, ht, hx⟩
  · rintro ⟨row, hrow, ht, hx⟩
    exact ⟨row, (h row ht).mpr hrow, ht, hx⟩

end mirror

/-! ## Keto -/

/-- The object of the tuple is one of the tenant. -/
def OfTenant (T : String) (x : KetoTuple) : Prop := ∃ object, x.object = tenantObject T object

theorem tenantObject_inj {t t' o o' : String} (ht : ':' ∉ t.toList) (ht' : ':' ∉ t'.toList)
    (h : tenantObject t o = tenantObject t' o') : t = t' ∧ o = o' := append_sep_inj ht ht' h

theorem ofTenant_ketoTuple (T : String) (k : RelationTupleKey) : OfTenant T (ketoTuple T k) :=
  ⟨k.object, rfl⟩

/-- A tuple of another tenant is none of this one. -/
theorem not_ofTenant {t : String} (hT : ':' ∉ T.toList) (ht : ':' ∉ t.toList) (hne : t ≠ T)
    (k : RelationTupleKey) : ¬ OfTenant T (ketoTuple t k) := by
  rintro ⟨object, h⟩
  exact hne (tenantObject_inj ht hT h).1

/-- A subject set is read back as it was written. -/
theorem subjectSet_eq_some {s n o r : String} (h : subjectSet s = some (n, o, r)) :
    s = n ++ ":" ++ o ++ "#" ++ r := by
  unfold subjectSet at h
  split at h
  · simp at h
  · rename_i left relation hleft
    split at h
    · simp at h
    · rename_i nspace object hobject
      split at h
      · obtain ⟨rfl, rfl, rfl⟩ : nspace = n ∧ object = o ∧ relation = r := by simpa using h
        obtain ⟨-, rfl⟩ := splitOnce_eq_some.mp hleft
        obtain ⟨-, rfl⟩ := splitOnce_eq_some.mp hobject
        rfl
      · simp at h

theorem tenantObject_cancel {t o o' : String} (h : tenantObject t o = tenantObject t o') : o = o' := by
  have hlists := congrArg String.toList h
  simp only [tenantObject, String.toList_append] at hlists
  exact String.toList_inj.mp (List.append_cancel_left hlists)

theorem ketoSubject_inj {t s s' : String} (h : ketoSubject t s = ketoSubject t s') : s = s' := by
  unfold ketoSubject at h
  split at h
  · rename_i n o r hs
    split at h
    · rename_i n' o' r' hs'
      obtain ⟨rfl, ho, rfl⟩ := KetoSubject.set.inj h
      obtain rfl := tenantObject_cancel ho
      rw [subjectSet_eq_some hs, subjectSet_eq_some hs']
    · simp at h
  · split at h
    · simp at h
    · exact KetoSubject.id.inj h

/-- A tenant writes different keys as different tuples. -/
theorem ketoTuple_inj {t : String} {k k' : RelationTupleKey} (h : ketoTuple t k = ketoTuple t k') :
    k = k' := by
  obtain ⟨n, o, r, s⟩ := k
  obtain ⟨n', o', r', s'⟩ := k'
  obtain ⟨hn, ho, hr, hs⟩ := KetoTuple.mk.inj h
  simp only at hn hr
  obtain rfl := tenantObject_cancel ho
  obtain rfl := ketoSubject_inj hs
  rw [hn, hr]

/-! ## OpenFGA -/

/-- The store is the one of a namespace of the tenant. -/
def OwnStore (T : String) (R : Namespaces) (st : FgaStore) : Prop :=
  st.id ≠ "" ∧ ∃ r ∈ R.records, r.tenantId = T ∧ OpenFga.storeOf r = st.id

/-- The tuple is in a store of the tenant. -/
def InStores (T : String) (R : Namespaces) (stores : List FgaStore) (x : FgaTuple) : Prop :=
  ∃ st ∈ stores, OwnStore T R st ∧ x ∈ st.tuples

/-- What the registry and OpenFGA guarantee of the stores of the tenant. -/
structure FgaReady (T : String) (R : Namespaces) (stores : List FgaStore) : Prop where
  storeKey : stores.Pairwise fun st st' => st.id ≠ st'.id
  plainName : ∀ r ∈ R.records, r.tenantId = T → ':' ∉ r.nspace.toList
  plainType : ∀ x ∈ R.types, x.tenantId = T → ':' ∉ x.type.toList
  apart : ∀ r ∈ R.records, ∀ r' ∈ R.records, r.tenantId = T → r'.tenantId ≠ T →
    OpenFga.storeOf r ≠ "" → OpenFga.storeOf r ≠ OpenFga.storeOf r'

/-- The tuple of a row is in no store but the one its namespace resolves to. -/
def Housed (T : String) (R : Namespaces) (rows : List PermissionTupleRow) (stores : List FgaStore) :
    Prop :=
  ∀ row ∈ rows, row.tenantId = T → ∀ st ∈ stores, OwnStore T R st →
    clientTupleKey row.key ∈ st.tuples →
      ∃ r, R.getByType T row.key.nspace = some r ∧ OpenFga.storeOf r = st.id

/-! ### Resolving a type -/

section resolve

variable {R : Namespaces} {t y : String} {r : NamespaceRow}

/-- A type resolves to a namespace of the tenant that owns it, or is called so. -/
theorem mem_of_getByType (h : R.getByType t y = some r) : r ∈ R.records ∧ r.tenantId = t ∧
    ((⟨t, y, r.nspace⟩ : NamespaceTypeRow) ∈ R.types ∨ r.nspace = y) := by
  unfold Namespaces.getByType at h
  split at h
  · rename_i row howner
    obtain rfl := Option.some.inj h
    obtain ⟨n, hn, hrow⟩ := Option.bind_eq_some_iff.mp howner
    obtain ⟨hmem, ht, rfl⟩ := Namespaces.get_eq_some.mp hrow
    exact ⟨hmem, ht, .inl (Namespaces.ownerOf_eq_some.mp hn)⟩
  · obtain ⟨hmem, ht, hn⟩ := Namespaces.get_eq_some.mp h
    exact ⟨hmem, ht, .inr hn⟩

theorem FgaReady.plain_of_getByType {stores : List FgaStore} (hready : FgaReady T R stores)
    (h : R.getByType T y = some r) : ':' ∉ y.toList := by
  obtain ⟨hmem, ht, hindexed | rfl⟩ := mem_of_getByType h
  · exact hready.plainType _ hindexed rfl
  · exact hready.plainName r hmem ht

/-- What resolves to another namespace still does after a deletion. -/
theorem getByType_remove {n : String} (h : R.getByType t y = some r) (hne : r.nspace ≠ n) :
    (R.remove t n).getByType t y = some r := by
  obtain ⟨hmem, ht, -⟩ := mem_of_getByType h
  have hkept : (R.remove t n).get t r.nspace = some r := by
    refine Namespaces.get_eq_some.mpr ⟨List.mem_filter.mpr ⟨hmem, ?_⟩, ht, rfl⟩
    exact decide_eq_true fun hof => hne hof.2
  unfold Namespaces.getByType at h
  split at h
  · rename_i row howner
    obtain rfl := Option.some.inj h
    obtain ⟨m, hm, hrow⟩ := Option.bind_eq_some_iff.mp howner
    obtain ⟨-, -, rfl⟩ := Namespaces.get_eq_some.mp hrow
    have hindexed : (⟨t, y, row.nspace⟩ : NamespaceTypeRow) ∈ (R.remove t n).types :=
      List.mem_filter.mpr ⟨Namespaces.ownerOf_eq_some.mp hm, decide_eq_true fun hof => hne hof.2⟩
    simp [Namespaces.getByType, Namespaces.ownerOf_eq_some.mpr hindexed, hkept]
  · rename_i hnone
    obtain ⟨-, -, rfl⟩ := Namespaces.get_eq_some.mp h
    have howner : (R.remove t n).ownerOf t r.nspace = none := by
      rcases ho : (R.remove t n).ownerOf t r.nspace with _ | m
      · rfl
      · -- an owner there is now was there before, with its record
        have hx := (List.mem_filter.mp (Namespaces.ownerOf_eq_some.mp ho)).1
        obtain ⟨row, hrow, hof⟩ := R.typeRecord _ hx
        have hget := Namespaces.get_eq_some.mpr ⟨hrow, hof⟩
        simp [Namespaces.ownerOf_eq_some.mpr hx, hget] at hnone
    simp [Namespaces.getByType, howner, hkept]

end resolve

/-- Keys of names without a colon that are written alike are of one namespace. -/
theorem clientTupleKey_nspace {k k' : RelationTupleKey} (hk : ':' ∉ k.nspace.toList)
    (hk' : ':' ∉ k'.nspace.toList) (h : clientTupleKey k = clientTupleKey k') :
    k.nspace = k'.nspace :=
  (append_sep_inj hk hk' (FgaTuple.mk.inj h).2.2).1

/-! ### A batch -/

/-- The store a key is written to. -/
def storeFor (T : String) (R : Namespaces) (k : RelationTupleKey) : String :=
  ((R.getByType T k.nspace).map OpenFga.storeOf).getD ""

/-- The keys that go to a store, as OpenFGA takes them. -/
def groupOf (T : String) (R : Namespaces) (keys : List RelationTupleKey) (s : String) :
    List FgaTuple :=
  (keys.filter fun k => storeFor T R k = s).map clientTupleKey

/-- The stores after a batch went to those listed. -/
def applyBatch (l : List String) (ws ds : String → List FgaTuple) (stores : List FgaStore) :
    List FgaStore :=
  stores.map fun st => if st.id ∈ l then st.apply (ws st.id) (ds st.id) else st

/-- The batch is as OpenFGA takes it: every key resolves, and each of the stores takes its part. -/
structure Batch (T : String) (R : Namespaces) (stores : List FgaStore)
    (ws ds : List RelationTupleKey) (l : List String) : Prop where
  resolves : ∀ k, k ∈ ws ∨ k ∈ ds → ∃ r, R.getByType T k.nspace = some r ∧ OpenFga.Provisioned r
  covers : ∀ k, k ∈ ws ∨ k ∈ ds → storeFor T R k ∈ l
  accepts : ∀ s ∈ l, ∃ st ∈ stores, st.id = s ∧
    FgaAccepts st.tuples (groupOf T R ws s) (groupOf T R ds s)

section batch

variable {R : Namespaces} {stores : List FgaStore} {ws ds : List RelationTupleKey} {l : List String}

theorem mem_groupOf {keys : List RelationTupleKey} {s : String} {x : FgaTuple} :
    x ∈ groupOf T R keys s ↔ ∃ k ∈ keys, storeFor T R k = s ∧ clientTupleKey k = x := by
  simp [groupOf, and_assoc]

theorem storeFor_of_getByType {k : RelationTupleKey} {r : NamespaceRow}
    (h : R.getByType T k.nspace = some r) : storeFor T R k = OpenFga.storeOf r := by
  simp [storeFor, h]

theorem mem_applyBatch {st' : FgaStore} {ws ds : String → List FgaTuple} :
    st' ∈ applyBatch l ws ds stores ↔ ∃ st ∈ stores,
      st' = if st.id ∈ l then st.apply (ws st.id) (ds st.id) else st := by
  simp only [applyBatch, List.mem_map]
  constructor
  · rintro ⟨st, hst, rfl⟩
    exact ⟨st, hst, rfl⟩
  · rintro ⟨st, hst, rfl⟩
    exact ⟨st, hst, rfl⟩

/-- What a store holds after the batch, and which one it is. -/
theorem applied_id {st : FgaStore} {ws ds : String → List FgaTuple} :
    (if st.id ∈ l then st.apply (ws st.id) (ds st.id) else st).id = st.id := by
  split <;> rfl

theorem mem_applied {st : FgaStore} {ws ds : String → List FgaTuple} {x : FgaTuple} :
    x ∈ (if st.id ∈ l then st.apply (ws st.id) (ds st.id) else st).tuples ↔
      (st.id ∈ l ∧ x ∈ ws st.id) ∨ (x ∈ st.tuples ∧ ¬ (st.id ∈ l ∧ x ∈ ds st.id)) := by
  by_cases hl : st.id ∈ l
  · simp [hl, FgaStore.apply]
  · simp [hl]

theorem ownStore_congr {st st' : FgaStore} (h : st'.id = st.id) :
    OwnStore T R st' ↔ OwnStore T R st := by
  simp [OwnStore, h]

/-- Two keys that are written alike resolve alike. -/
theorem FgaReady.getByType_congr (hready : FgaReady T R stores) {k k' : RelationTupleKey}
    {r r' : NamespaceRow} (hk : R.getByType T k.nspace = some r)
    (hk' : R.getByType T k'.nspace = some r') (h : clientTupleKey k = clientTupleKey k') : r = r' := by
  have hn := clientTupleKey_nspace (hready.plain_of_getByType hk) (hready.plain_of_getByType hk') h
  rw [hn, hk'] at hk
  exact (Option.some.inj hk).symm

/-- **A batch in the stores.** Its writes are there and its deletes are not, if no row stands for a
deleted tuple under another key. -/
theorem inStores_applyBatch {rows : List PermissionTupleRow} (hready : FgaReady T R stores)
    (hagree : ∀ x, Mirrored clientTupleKey T rows x ↔ InStores T R stores x)
    (hhoused : Housed T R rows stores) (hbatch : Batch T R stores ws ds l)
    (halias : ∀ k ∈ ds, ∀ row ∈ rows, row.tenantId = T → clientTupleKey row.key = clientTupleKey k →
      row.key = k) (x : FgaTuple) :
    InStores T R (applyBatch l (groupOf T R ws) (groupOf T R ds) stores) x ↔
      (InStores T R stores x ∨ ∃ k ∈ ws, clientTupleKey k = x) ∧ ∀ k ∈ ds, clientTupleKey k ≠ x := by
  -- a deleted tuple that is in a store of the tenant is in the one its key resolves to
  have hdeleted {st : FgaStore} (hst : st ∈ stores) (hown : OwnStore T R st) (hx : x ∈ st.tuples)
      {k : RelationTupleKey} (hk : k ∈ ds) (hkx : clientTupleKey k = x) : storeFor T R k = st.id := by
    obtain ⟨row, hrow, ht, rfl⟩ := (hagree x).mpr ⟨st, hst, hown, hx⟩
    obtain rfl := halias k hk row hrow ht hkx.symm
    obtain ⟨r, hr, hid⟩ := hhoused row hrow ht st hst hown hx
    exact (storeFor_of_getByType hr).trans hid
  constructor
  · rintro ⟨st', hst', hown', hx⟩
    obtain ⟨st, hst, rfl⟩ := mem_applyBatch.mp hst'
    have hown := (ownStore_congr applied_id).mp hown'
    rcases mem_applied.mp hx with ⟨hl, hw⟩ | ⟨hx, hkept⟩
    · obtain ⟨k, hk, hkst, rfl⟩ := mem_groupOf.mp hw
      refine ⟨.inr ⟨k, hk, rfl⟩, fun k' hk' hkk' => ?_⟩
      -- OpenFGA takes no tuple as a write and a delete at once
      obtain ⟨r, hr, -⟩ := hbatch.resolves k (.inl hk)
      obtain ⟨r', hr', -⟩ := hbatch.resolves k' (.inr hk')
      obtain rfl := hready.getByType_congr hr' hr hkk'
      have hk'st : storeFor T R k' = st.id :=
        (storeFor_of_getByType hr').trans ((storeFor_of_getByType hr).symm.trans hkst)
      obtain ⟨st₀, -, -, hnodup, -, -⟩ := hbatch.accepts st.id hl
      have hdel : clientTupleKey k ∈ groupOf T R ds st.id := mem_groupOf.mpr ⟨k', hk', hk'st, hkk'⟩
      exact (List.nodup_append.mp hnodup).2.2 _ hw _ hdel rfl
    · refine ⟨.inl ⟨st, hst, hown, hx⟩, fun k hk hkx => hkept ?_⟩
      have hkst := hdeleted hst hown hx hk hkx
      exact ⟨hkst ▸ hbatch.covers k (.inr hk), mem_groupOf.mpr ⟨k, hk, hkst, hkx⟩⟩
  · rintro ⟨⟨st, hst, hown, hx⟩ | ⟨k, hk, rfl⟩, hnone⟩
    · refine ⟨_, mem_applyBatch.mpr ⟨st, hst, rfl⟩, (ownStore_congr applied_id).mpr hown,
        mem_applied.mpr (.inr ⟨hx, fun hdel => ?_⟩)⟩
      obtain ⟨k, hk, -, hkx⟩ := mem_groupOf.mp hdel.2
      exact hnone k hk hkx
    · obtain ⟨r, hr, hprov⟩ := hbatch.resolves k (.inl hk)
      have hid := storeFor_of_getByType hr
      obtain ⟨st, hst, hst', -⟩ := hbatch.accepts _ (hbatch.covers k (.inl hk))
      obtain ⟨hmem, ht, -⟩ := mem_of_getByType hr
      have hsid : OpenFga.storeOf r = st.id := (hst'.trans hid).symm
      have hown : OwnStore T R st := ⟨hsid ▸ hprov.1, r, hmem, ht, hsid⟩
      refine ⟨_, mem_applyBatch.mpr ⟨st, hst, rfl⟩, (ownStore_congr applied_id).mpr hown,
        mem_applied.mpr (.inl ⟨?_, mem_groupOf.mpr ⟨k, hk, hst'.symm, rfl⟩⟩)⟩
      exact hst' ▸ hbatch.covers k (.inl hk)

/-- After a batch the tuples of the rows are housed as before. -/
theorem housed_applyBatch {rows rows' : List PermissionTupleRow} (hready : FgaReady T R stores)
    (hagree : ∀ x, Mirrored clientTupleKey T rows x ↔ InStores T R stores x)
    (hhoused : Housed T R rows stores) (hbatch : Batch T R stores ws ds l)
    (hrows : ∀ row ∈ rows', row.tenantId = T → row ∈ rows ∨ row.key ∈ ws) :
    Housed T R rows' (applyBatch l (groupOf T R ws) (groupOf T R ds) stores) := by
  intro row hrow ht st' hst' hown' hx
  obtain ⟨st, hst, rfl⟩ := mem_applyBatch.mp hst'
  have hown := (ownStore_congr applied_id).mp hown'
  rw [applied_id]
  -- the row's key resolves, and some key written alike resolves to this store
  have hrow : ∃ r, R.getByType T row.key.nspace = some r := by
    rcases hrows row hrow ht with hold | hnew
    · obtain ⟨st₀, hst₀, hown₀, hx₀⟩ := (hagree _).mp ⟨row, hold, ht, rfl⟩
      obtain ⟨r, hr, -⟩ := hhoused row hold ht st₀ hst₀ hown₀ hx₀
      exact ⟨r, hr⟩
    · obtain ⟨r, hr, -⟩ := hbatch.resolves _ (.inl hnew)
      exact ⟨r, hr⟩
  have halike : ∃ k r, clientTupleKey k = clientTupleKey row.key ∧
      R.getByType T k.nspace = some r ∧ OpenFga.storeOf r = st.id := by
    rcases mem_applied.mp hx with ⟨-, hw⟩ | ⟨hx, -⟩
    · obtain ⟨k, hk, hkst, hkx⟩ := mem_groupOf.mp hw
      obtain ⟨r, hr, -⟩ := hbatch.resolves k (.inl hk)
      exact ⟨k, r, hkx, hr, (storeFor_of_getByType hr).symm.trans hkst⟩
    · obtain ⟨row₀, hrow₀, ht₀, hkx⟩ := (hagree _).mpr ⟨st, hst, hown, hx⟩
      obtain ⟨r, hr, hid⟩ := hhoused row₀ hrow₀ ht₀ st hst hown (hkx ▸ hx)
      exact ⟨row₀.key, r, hkx, hr, hid⟩
  obtain ⟨r, hr⟩ := hrow
  obtain ⟨k, r', hkx, hr', hid⟩ := halike
  obtain rfl := hready.getByType_congr hr' hr hkx
  exact ⟨r', hr, hid⟩

theorem FgaReady.applyBatch (hready : FgaReady T R stores) (ws ds : String → List FgaTuple) :
    FgaReady T R (applyBatch l ws ds stores) where
  storeKey := by
    refine List.pairwise_map.mpr (hready.storeKey.imp fun h => ?_)
    rwa [applied_id, applied_id]
  plainName := hready.plainName
  plainType := hready.plainType
  apart := hready.apart

end batch

/-! ### A namespace that goes -/

section remove

variable {R : Namespaces} {stores : List FgaStore} {rows : List PermissionTupleRow} {n : String}
  {record : NamespaceRow}

/-- The stores without the one of the namespace. -/
def dropStores (s : String) (stores : List FgaStore) : List FgaStore :=
  if s = "" then stores else stores.filter fun st => st.id ≠ s

/-- The rows of the namespace are those whose tuples are in its store. -/
def TearsDown (T : String) (stores : List FgaStore) (rows : List PermissionTupleRow) (n s : String) :
    Prop :=
  ∀ row ∈ rows, row.tenantId = T → (row.key.nspace = n ↔
    s ≠ "" ∧ ∃ st ∈ stores, st.id = s ∧ clientTupleKey row.key ∈ st.tuples)

theorem mem_dropStores {s : String} {st : FgaStore} (hid : st.id ≠ "") :
    st ∈ dropStores s stores ↔ st ∈ stores ∧ st.id ≠ s := by
  unfold dropStores
  by_cases hs : s = ""
  · subst hs
    simp [hid]
  · simp [hs]

/-- The other stores are the tenant's as before. -/
theorem ownStore_remove (hrecord : R.get T n = some record) {st : FgaStore}
    (hst : st.id ≠ OpenFga.storeOf record) : OwnStore T (R.remove T n) st ↔ OwnStore T R st := by
  constructor
  · rintro ⟨hid, r, hr, ht, hs⟩
    exact ⟨hid, r, (List.mem_filter.mp hr).1, ht, hs⟩
  · rintro ⟨hid, r, hr, ht, hs⟩
    refine ⟨hid, r, List.mem_filter.mpr ⟨hr, decide_eq_true fun hof => hst ?_⟩, ht, hs⟩
    obtain ⟨hmem, hof'⟩ := Namespaces.get_eq_some.mp hrecord
    have heq : r = record := Namespaces.record_unique hr hmem ⟨ht.trans hof'.1.symm,
      hof.2.trans hof'.2.symm⟩
    rw [← heq, hs]

/-- A store of the tenant that is left is not the one that was dropped. -/
theorem mem_dropStores_own {st : FgaStore} (hst : st ∈ dropStores (OpenFga.storeOf record) stores)
    (hid : st.id ≠ "") : st ∈ stores ∧ st.id ≠ OpenFga.storeOf record :=
  (mem_dropStores hid).mp hst

/-- **A namespace that goes** takes its rows and its tuples, if these are the same. -/
theorem inStores_remove (hrecord : R.get T n = some record)
    (hagree : ∀ x, Mirrored clientTupleKey T rows x ↔ InStores T R stores x)
    (hhoused : Housed T R rows stores) (htears : TearsDown T stores rows n (OpenFga.storeOf record))
    {p : PermissionTupleRow → Bool}
    (hp : ∀ row ∈ rows, row.tenantId = T → (p row = true ↔ row.key.nspace = n)) (x : FgaTuple) :
    Mirrored clientTupleKey T (rows.filter fun row => !p row) x ↔
      InStores T (R.remove T n) (dropStores (OpenFga.storeOf record) stores) x := by
  constructor
  · rintro ⟨row, hrow, ht, rfl⟩
    obtain ⟨hold, hkept⟩ := List.mem_filter.mp hrow
    have hn : row.key.nspace ≠ n := by
      intro hn
      simp [(hp row hold ht).mpr hn] at hkept
    obtain ⟨st, hst, hown, hx⟩ := (hagree _).mp ⟨row, hold, ht, rfl⟩
    have hother : st.id ≠ OpenFga.storeOf record := by
      intro hid
      exact hn ((htears row hold ht).mpr ⟨hid ▸ hown.1, st, hst, hid, hx⟩)
    exact ⟨st, (mem_dropStores hown.1).mpr ⟨hst, hother⟩, (ownStore_remove hrecord hother).mpr hown, hx⟩
  · rintro ⟨st, hst, hown, hx⟩
    obtain ⟨hst, hother⟩ := mem_dropStores_own hst hown.1
    have hown := (ownStore_remove hrecord hother).mp hown
    obtain ⟨row, hrow, ht, rfl⟩ := (hagree x).mpr ⟨st, hst, hown, hx⟩
    refine ⟨row, List.mem_filter.mpr ⟨hrow, ?_⟩, ht, rfl⟩
    have hkept : ¬ p row = true := by
      intro hrowp
      -- a row of the namespace has its tuple in the dropped store as well
      obtain ⟨hne, st₀, hst₀, hid₀, hx₀⟩ := (htears row hrow ht).mp ((hp row hrow ht).mp hrowp)
      obtain ⟨hmem, ⟨htr, -⟩⟩ := Namespaces.get_eq_some.mp hrecord
      have hown₀ : OwnStore T R st₀ := ⟨hid₀ ▸ hne, record, hmem, htr, hid₀.symm⟩
      obtain ⟨r, hr, hrid⟩ := hhoused row hrow ht st hst hown hx
      obtain ⟨r₀, hr₀, hr₀id⟩ := hhoused row hrow ht st₀ hst₀ hown₀ hx₀
      rw [hr] at hr₀
      obtain rfl := Option.some.inj hr₀
      exact hother (hrid.symm.trans (hr₀id.trans hid₀))
    simpa using hkept

theorem housed_remove (hrecord : R.get T n = some record) (hhoused : Housed T R rows stores)
    {rows' : List PermissionTupleRow} (hrows : ∀ row ∈ rows', row ∈ rows) :
    Housed T (R.remove T n) rows' (dropStores (OpenFga.storeOf record) stores) := by
  intro row hrow ht st hst hown hx
  obtain ⟨hst, hother⟩ := mem_dropStores_own hst hown.1
  obtain ⟨r, hr, hid⟩ := hhoused row (hrows row hrow) ht st hst
    ((ownStore_remove hrecord hother).mp hown) hx
  refine ⟨r, getByType_remove hr fun hn => hother ?_, hid⟩
  obtain ⟨hmem, htr, -⟩ := mem_of_getByType hr
  have hget := Namespaces.get_eq_some.mpr ⟨hmem, htr, hn⟩
  rw [hget] at hrecord
  obtain rfl := Option.some.inj hrecord
  exact hid.symm

/-- Deletions keep what the registry guarantees. -/
theorem FgaReady.remove (hready : FgaReady T R stores) (t n : String) {stores' : List FgaStore}
    (hsub : stores'.Sublist stores) : FgaReady T (R.remove t n) stores' where
  storeKey := hready.storeKey.sublist hsub
  plainName := fun r hr => hready.plainName r (List.mem_filter.mp hr).1
  plainType := fun x hx => hready.plainType x (List.mem_filter.mp hx).1
  apart := fun r hr r' hr' => hready.apart r (List.mem_filter.mp hr).1 r' (List.mem_filter.mp hr').1

end remove

end SsoGateway
