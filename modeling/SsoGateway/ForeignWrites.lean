import SsoGateway.MirrorEffects

/-!
# Writes of other tenants

What is a tenant's in the mirror, in Keto and in OpenFGA stays as it is while other tenants are
served, whatever fails.

* `PermissionCall.Spares` — the calls that leave the tenant's part alone.
* `LeftAlone` — the tenant's part is as before; `leftAlone_call` for one call.
* `spares_request` — the calls of another tenant's request.
-/

namespace SsoGateway

open Lib Prog

variable {T : String} {R : Namespaces} {w₀ w : PermissionWorld}

/-! ## The part of a tenant -/

/-- The store is none of the tenant's. -/
def ForeignStore (T : String) (R : Namespaces) (s : String) : Prop :=
  ∀ r ∈ R.records, r.tenantId = T → OpenFga.storeOf r ≠ "" → OpenFga.storeOf r ≠ s

/-- The call leaves the tenant's part alone. -/
def PermissionCall.Spares (T : String) (R : Namespaces) : PermissionCall → Prop
  | .getNamespace _ _ => True
  | .getNamespaceByType _ _ => True
  | .getRow _ _ => True
  | .findStoreByName _ => True
  | .readTuples _ _ => True
  | .createRows t _ => t ≠ T
  | .deleteRow t _ => t ≠ T
  | .deleteByKey t _ => t ≠ T
  | .deleteByNamespace t _ => t ≠ T
  | .deleteNamespace t _ => t ≠ T
  | .ketoCreate x => ¬ OfTenant T x
  | .ketoDelete x => ¬ OfTenant T x
  | .writeTuples s _ _ _ => ForeignStore T R s
  | .deleteStore s => ForeignStore T R s
  | .upsertNamespace _ => False
  | .createStore _ => False
  | .writeModel _ _ => False

/-- What is the tenant's is as before, and no record is new. -/
structure LeftAlone (T : String) (w w' : PermissionWorld) : Prop where
  rows : ∀ row, row.tenantId = T → (row ∈ w'.mirror.rows ↔ row ∈ w.mirror.rows)
  tuples : ∀ x, OfTenant T x → (x ∈ w'.keto ↔ x ∈ w.keto)
  records : ∀ r, r.tenantId = T → (r ∈ w'.registry.records ↔ r ∈ w.registry.records)
  types : ∀ x, x.tenantId = T → (x ∈ w'.registry.types ↔ x ∈ w.registry.types)
  fewer : ∀ r ∈ w'.registry.records, r ∈ w.registry.records
  stores : ∀ st, OwnStore T w.registry st → (st ∈ w'.stores ↔ st ∈ w.stores)
  storeKey : (w.stores.Pairwise fun st st' => st.id ≠ st'.id) →
    w'.stores.Pairwise fun st st' => st.id ≠ st'.id

theorem LeftAlone.refl (T : String) (w : PermissionWorld) : LeftAlone T w w where
  rows _ _ := Iff.rfl
  tuples _ _ := Iff.rfl
  records _ _ := Iff.rfl
  types _ _ := Iff.rfl
  fewer _ := id
  stores _ _ := Iff.rfl
  storeKey := id

/-! ## One call -/

theorem ForeignStore.ne {s : String} (hs : ForeignStore T R s) {st : FgaStore}
    (hown : OwnStore T R st) : st.id ≠ s := by
  obtain ⟨hid, r, hr, ht, hrid⟩ := hown
  exact hrid ▸ hs r hr ht (hrid ▸ hid)

section steps

variable (h : LeftAlone T w₀ w)

include h

theorem LeftAlone.createRows {t : String} (ht : t ≠ T) (ids : ℕ → String)
    (keys : List RelationTupleKey) : LeftAlone T w₀ (w.createRows ids t keys).2 := by
  unfold PermissionWorld.createRows
  rcases hins : w.mirror.insert ids t keys with _ | m
  · exact h
  · refine { h with rows := fun row hrow => ?_ }
    simp only [TupleMirror.insert_ok hins, List.mem_append]
    constructor
    · rintro (hnew | hold)
      · exact absurd ((TupleMirror.mem_newRows.mp hnew).1.symm.trans hrow) ht
      · exact (h.rows row hrow).mp hold
    · intro hold
      exact .inr ((h.rows row hrow).mpr hold)

theorem LeftAlone.deleteRows {p : PermissionTupleRow → Bool}
    (hp : ∀ row, row.tenantId = T → p row = false) : LeftAlone T w₀ (w.deleteRows p) := by
  refine { h with rows := fun row hrow => ?_ }
  simp only [PermissionWorld.deleteRows, TupleMirror.delete, List.mem_filter, hp row hrow]
  simpa using h.rows row hrow

theorem LeftAlone.deleteRow {t : String} (ht : t ≠ T) (i : String) :
    LeftAlone T w₀ (w.deleteRow t i).2 := by
  unfold PermissionWorld.deleteRow
  split
  · refine h.deleteRows fun row hrow => ?_
    simp [hrow, ht.symm]
  · exact h

theorem LeftAlone.remove {t : String} (ht : t ≠ T) (n : String) :
    LeftAlone T w₀ { w with registry := w.registry.remove t n } := by
  refine { h with
    records := fun r hr => ?_
    types := fun x hx => ?_
    fewer := fun r hr => h.fewer r (List.mem_filter.mp hr).1 }
  · rw [← h.records r hr]
    simp [Namespaces.remove, NamespaceRow.IsOf, hr, ht.symm]
  · rw [← h.types x hx]
    simp [Namespaces.remove, NamespaceTypeRow.IsOf, hx, ht.symm]

/-- Stores that are none of the tenant's may change in any way. -/
theorem LeftAlone.mapStores {s : String} (hs : ForeignStore T w₀.registry s)
    (ws ds : List FgaTuple) : LeftAlone T w₀
      { w with stores := w.stores.map fun st => if st.id = s then st.apply ws ds else st } := by
  have hid (st : FgaStore) : (if st.id = s then st.apply ws ds else st).id = st.id := by
    split <;> rfl
  refine { h with stores := fun st hown => ?_, storeKey := fun hkey => ?_ }
  · rw [← h.stores st hown]
    have hne := hs.ne hown
    constructor
    · intro hst
      obtain ⟨st', hst', heq⟩ := List.mem_map.mp hst
      have hne' : st'.id ≠ s := by
        rw [← hid st', heq]
        exact hne
      rw [if_neg hne'] at heq
      exact heq ▸ hst'
    · intro hst
      exact List.mem_map.mpr ⟨st, hst, if_neg hne⟩
  · refine List.pairwise_map.mpr ((h.storeKey hkey).imp fun hne => ?_)
    rwa [hid, hid]

theorem LeftAlone.writeTuples {s : String} (hs : ForeignStore T w₀.registry s)
    (ws ds : List FgaTuple) : LeftAlone T w₀ (w.writeTuples s ws ds).2 := by
  unfold PermissionWorld.writeTuples
  split
  · exact h
  · split
    · exact h
    · split
      · exact h.mapStores hs ws ds
      · exact h

theorem LeftAlone.deleteStore {s : String} (hs : ForeignStore T w₀.registry s) :
    LeftAlone T w₀ (w.deleteStore s).2 := by
  unfold PermissionWorld.deleteStore
  split
  · exact h
  · refine { h with
      stores := fun st hown => ?_
      storeKey := fun hkey => (h.storeKey hkey).sublist List.filter_sublist }
    rw [← h.stores st hown]
    simp [hs.ne hown]

/-- **A call that spares the tenant** leaves its part as it is, whether it fails or not. -/
theorem leftAlone_call {op : PermissionCall} (hop : op.Spares T w₀.registry) (c : PermissionChoice) :
    LeftAlone T w₀ (permissionStores op c w).2 := by
  rcases permissionStores_snd op c w with hw | hw
  · rw [hw]
    exact h
  · rw [hw]
    cases op with
    | getNamespace t n => exact h
    | getNamespaceByType t y => exact h
    | upsertNamespace q => exact hop.elim
    | deleteNamespace t n => exact h.remove hop n
    | createRows t keys => exact h.createRows hop c.ids keys
    | getRow t i => exact h
    | deleteRow t i => exact h.deleteRow hop i
    | deleteByKey t key => exact h.deleteRows fun row hrow => by simp [hrow, Ne.symm hop]
    | deleteByNamespace t n => exact h.deleteRows fun row hrow => by simp [hrow, Ne.symm hop]
    | ketoCreate x =>
        refine { h with tuples := fun y hy => ?_ }
        have hne : y ≠ x := fun heq => hop (heq ▸ hy)
        rw [← h.tuples y hy]
        simp only [permissionStores, PermissionChoice.faultless, Fault.answer_none]
        split
        · exact Iff.rfl
        · simp [hne]
    | ketoDelete x =>
        refine { h with tuples := fun y hy => ?_ }
        have hne : y ≠ x := fun heq => hop (heq ▸ hy)
        rw [← h.tuples y hy]
        simp [permissionStores, PermissionChoice.faultless, hne]
    | findStoreByName name => exact h
    | createStore name => exact hop.elim
    | writeModel s model => exact hop.elim
    | writeTuples s model ws ds => exact h.writeTuples hop ws ds
    | readTuples s key => exact h
    | deleteStore s => exact h.deleteStore hop

end steps

/-! ## The calls of a request -/

/-- The contract of a request of another tenant. -/
def sparingTenant (T : String) (R : Namespaces) : Contract PermissionStoreSig PermissionChoice PermissionWorld :=
  Contract.alone (fun _ _ _ => True) fun op _ _ => op.Spares T R

/-- All calls of the program leave the tenant's part alone; `P` is what a success ensures. -/
def SparesAll {ε α : Type} (T : String) (R : Namespaces) (x : ExceptT ε (Prog PermissionStoreSig) α)
    (P : α → PermissionWorld → Prop) (w : PermissionWorld) : Prop :=
  x.run.Sat permissionStores (sparingTenant T R) (OnOk P) w

section programs

variable {t : String} {ε α : Type}

/-- Calls that leave the registry alone as well. -/
theorem spares_calls {x : ExceptT ε (Prog PermissionStoreSig) α}
    (hx : x.run.Calls fun op : PermissionCall => op.Spares T R ∧ ¬ op.OnRegistry) (hw : w.registry = R) :
    SparesAll T R x (fun _ w' => w'.registry = R) w := by
  refine Sat.post (Calls.sat (I := fun w' => w'.registry = R) hx ?_ ?_ hw) fun r w' hr => ?_
  · rintro w₁ w₂ h rfl
    exact h
  · intro op c w' hop h _
    exact ⟨hop.1, (permissionStores_registry hop.2 c w').trans h⟩
  · exact onOk_iff.mpr fun _ _ => hr

/-- A reading call, in case it succeeds. -/
theorem onOk_answer_read {W : Type} {report : OryClientError → ε} {P : α → W → Prop} {w : W}
    {a : Except ε α} {f : Option Fault} (ha : OnOk P a w) :
    OnOk P (Fault.answer report w (a, w) f).1 (Fault.answer report w (a, w) f).2 := by
  rcases Fault.answer_read f with h | ⟨e, -, h⟩
  · rw [h]
    exact ha
  · rw [h]
    trivial

theorem spares_getNamespace (t n : String) :
    SparesAll T R (registryCall (Prog.perform (S := PermissionStoreSig) (.getNamespace t n)))
      (fun record w' => w' = w ∧ record = w.registry.get t n) w := by
  refine onOk_run_orThrow ?_
  rintro w' rfl c -
  refine ⟨trivial, ?_⟩
  show OnOk _ (permissionStores (.getNamespace t n) c w).1 (permissionStores (.getNamespace t n) c w).2
  exact onOk_answer_read ⟨rfl, rfl⟩

theorem spares_resolveMapping (t n : String) :
    SparesAll T R (OpenFga.resolveMapping t n)
      (fun record w' => w' = w ∧ record ∈ w.registry.records ∧ record.tenantId = t) w := by
  refine onOk_run_bind (P := fun record w' => w' = w ∧ record = w.registry.getByType t n) ?_ ?_
  · refine onOk_run_orThrow ?_
    rintro w' rfl c -
    refine ⟨trivial, ?_⟩
    show OnOk _ (permissionStores (.getNamespaceByType t n) c w).1
      (permissionStores (.getNamespaceByType t n) c w).2
    exact onOk_answer_read ⟨rfl, rfl⟩
  · rintro record w' ⟨rfl, rfl⟩
    refine onOk_run_mk fun r hr => ?_
    unfold OpenFga.usable at hr
    split at hr
    · rename_i record hrecord
      split at hr
      · obtain rfl := Except.ok.inj hr
        obtain ⟨hmem, ht, -⟩ := mem_of_getByType hrecord
        exact ⟨rfl, hmem, ht⟩
      · simp at hr
    · simp at hr

/-- The records are of the tenant. -/
def RecordsOf (t : String) (R : Namespaces) (records : List (String × NamespaceRow)) : Prop :=
  ∀ x ∈ records, x.2 ∈ R.records ∧ x.2.tenantId = t

theorem spares_resolveInto {records : List (String × NamespaceRow)}
    (hrecords : RecordsOf t w.registry records) (key : RelationTupleKey) :
    SparesAll T R (OpenFga.resolveInto t records key)
      (fun records' w' => w' = w ∧ RecordsOf t w.registry records') w := by
  unfold OpenFga.resolveInto
  split
  · exact ⟨rfl, hrecords⟩
  · refine onOk_run_bind (spares_resolveMapping t key.nspace) ?_
    rintro record w' ⟨rfl, hrecord⟩
    refine ⟨rfl, fun x hx => ?_⟩
    rcases List.mem_append.mp hx with hold | hnew
    · exact hrecords x hold
    · obtain rfl := List.mem_singleton.mp hnew
      exact hrecord

theorem spares_resolveAll (keys : List RelationTupleKey) {records : List (String × NamespaceRow)}
    (hrecords : RecordsOf t w.registry records) :
    SparesAll T R (keys.foldlM (OpenFga.resolveInto t) records)
      (fun records' w' => w' = w ∧ RecordsOf t w.registry records') w := by
  induction keys generalizing records with
  | nil => exact ⟨rfl, hrecords⟩
  | cons key keys ih =>
      rw [List.foldlM_cons]
      refine onOk_run_bind (spares_resolveInto hrecords key) ?_
      rintro records' w' ⟨rfl, hrecords'⟩
      exact ih hrecords'

/-- No record of another tenant points to a store of the tenant. -/
def StoresApart (T : String) (R : Namespaces) : Prop :=
  ∀ r ∈ R.records, r.tenantId ≠ T → ForeignStore T R (OpenFga.storeOf r)

theorem FgaReady.storesApart {stores : List FgaStore} (h : FgaReady T R stores) : StoresApart T R :=
  fun r' hr' ht' r hr ht hne => h.apart r hr r' hr' ht ht' hne

/-- The store of another tenant's key is none of the tenant's. -/
theorem foreign_storeOfKey (hapart : StoresApart T R) (ht : t ≠ T)
    {records : List (String × NamespaceRow)} (hrecords : RecordsOf t R records)
    (key : RelationTupleKey) : ForeignStore T R (OpenFga.storeOfKey records key) := by
  intro r hr hrT hne
  unfold OpenFga.storeOfKey
  rcases hkey : records.lookup key.nspace with _ | record
  · exact hne
  · obtain ⟨l₁, l₂, rfl, -⟩ := List.lookup_eq_some_iff.mp hkey
    obtain ⟨hmem, rfl⟩ := hrecords (key.nspace, record) (by simp)
    exact hapart record hmem ht r hr hrT hne

theorem spares_writeTuples (hapart : StoresApart T R) (hw : w.registry = R) (ht : t ≠ T)
    {order : List String → List String} (horder : ∀ l, (order l).Perm l)
    (ws ds : List RelationTupleKey) :
    SparesAll T R (OpenFga.writeTuples order t ws ds) (fun _ w' => w'.registry = R) w := by
  subst hw
  refine onOk_run_bind (spares_resolveAll (ws ++ ds) (by simp [RecordsOf])) ?_
  rintro records w' ⟨rfl, hrecords⟩
  refine spares_calls (calls_run_forM fun s hs => calls_run_orThrow (calls_perform ⟨?_, id⟩)) rfl
  obtain ⟨key, -, rfl⟩ := List.mem_map.mp (List.mem_dedup.mp ((horder _).mem_iff.mp hs))
  exact foreign_storeOfKey hapart ht hrecords key

theorem spares_deleteNamespace (hapart : StoresApart T R) (hw : w.registry = R) (ht : t ≠ T)
    (n : String) : SparesAll T R (OpenFga.deleteNamespace t n) (fun _ w' => w'.registry = R) w := by
  refine onOk_run_bind (spares_getNamespace t n) ?_
  rintro record w' ⟨rfl, rfl⟩
  rcases hget : w'.registry.get t n with _ | record
  · exact hw
  · subst hw
    refine spares_calls ?_ rfl
    unfold OpenFga.dropStore
    simp only
    split
    · trivial
    · obtain ⟨hmem, rfl, -⟩ := Namespaces.get_eq_some.mp hget
      exact calls_map (calls_perform ⟨hapart record hmem ht, id⟩)

end programs

/-! ## Requests -/

/-- The tenant a request is served for, if it passes its checks. -/
def PermissionRequest.tenant? : PermissionRequest → Option String
  | .ensureNamespace ctx n model => (checkEnsure ctx n model).toOption.map Prod.fst
  | .deleteNamespace ctx _ => (requireTenantScope ctx scopePermissionAdmin).toOption
  | .createTuple ctx _ => (requireTenantScope ctx scopePermissionAdmin).toOption
  | .deleteTuple ctx _ => (requireTenantScope ctx scopePermissionAdmin).toOption
  | .writeTuples ctx ws ds => (checkWrite ctx ws ds).toOption
  | .seed t => some t

/-- The request is one of those that write tuples or take a namespace away. -/
def PermissionRequest.OnTuples : PermissionRequest → Prop
  | .ensureNamespace _ _ _ => False
  | .seed _ => False
  | _ => True

section requests

variable {ε α β : Type} {t : String}

/-- A check, and what is done for the tenant it finds. -/
theorem spares_checked {r : Except ε String} {f : String → ExceptT ε (Prog PermissionStoreSig) β}
    {P : β → PermissionWorld → Prop} (hf : ∀ t, r = .ok t → SparesAll T R (f t) P w) :
    SparesAll T R ((ExceptT.mk (Pure.pure r) : ExceptT ε (Prog PermissionStoreSig) String) >>= f) P w := by
  rcases r with e | t
  · trivial
  · exact hf t rfl

/-- A call of the mirror for another tenant. -/
theorem spares_mirror (op : PermissionCall) (view : PermissionCall.Res op → Except DbError α)
    (hop : op.Spares T R ∧ ¬ op.OnRegistry) (hw : w.registry = R) :
    SparesAll T R (mirrorCall (Prog.call op fun a => Prog.pure (view a)))
      (fun _ w' => w'.registry = R) w :=
  spares_calls (calls_run_orThrow ⟨hop, fun _ => trivial⟩) hw

/-- The last calls of a request. -/
theorem spares_last {x : ExceptT ε (Prog PermissionStoreSig) α}
    (hx : x.run.Calls fun op : PermissionCall => op.Spares T R) :
    SparesAll T R x (fun _ _ => True) w := by
  refine Sat.post (Calls.sat (I := fun _ => True) hx (fun _ _ _ _ => trivial) ?_ trivial) ?_
  · intro op c w' hop _ _
    exact ⟨hop, trivial⟩
  · exact fun r w' _ => onOk_iff.mpr fun _ _ => trivial

/-- A call of the backend, seen from the service. -/
theorem spares_backend {x : BackendMethod α} {P : α → PermissionWorld → Prop}
    (hx : SparesAll T R x P w) : SparesAll T R (backendCall x) P w := onOk_run_orThrow hx

/-- What the deployment guarantees for a tenant `T` and another one. -/
structure OtherTenant (b : PermissionBackend) (T t : String) (R : Namespaces) : Prop where
  other : t ≠ T
  plain : ':' ∉ T.toList ∧ ':' ∉ t.toList
  apart : b = .openFga → StoresApart T R

section request

variable {b : PermissionBackend} {order : List String → List String} {ctx : RequestContext}
  (h : OtherTenant b T t R) (hw : w.registry = R)

include h hw

theorem spares_ketoCreate (key : RelationTupleKey) :
    SparesAll T R (Keto.createRelationTuple t key) (fun _ w' => w'.registry = R) w :=
  spares_calls (calls_run_orThrow (calls_perform
    ⟨not_ofTenant h.plain.1 h.plain.2 h.other key, id⟩)) hw

theorem spares_ketoDelete (key : RelationTupleKey) :
    SparesAll T R (Keto.deleteRelationTuple t key) (fun _ w' => w'.registry = R) w :=
  spares_calls (calls_run_orThrow (calls_perform
    ⟨not_ofTenant h.plain.1 h.plain.2 h.other key, id⟩)) hw

theorem spares_ketoBatch (ws ds : List RelationTupleKey) :
    SparesAll T R (Keto.writeTuples t ws ds) (fun _ w' => w'.registry = R) w := by
  have hforeign (key : RelationTupleKey) := not_ofTenant h.plain.1 h.plain.2 h.other key
  refine spares_calls (calls_run_bind ?_ fun _ => ?_) hw
  · exact calls_run_forM fun key _ => calls_run_orThrow (calls_perform ⟨hforeign key, id⟩)
  · exact calls_run_forM fun key _ => calls_run_orThrow (calls_perform ⟨hforeign key, id⟩)

theorem spares_backendCreate (horder : ∀ l, (order l).Perm l) (key : RelationTupleKey) :
    SparesAll T R (b.createRelationTuple order t key) (fun _ w' => w'.registry = R) w := by
  cases b with
  | keto => exact spares_ketoCreate h hw key
  | openFga => exact spares_writeTuples (h.apart rfl) hw h.other horder [key] []

theorem spares_backendDelete (horder : ∀ l, (order l).Perm l) (key : RelationTupleKey) :
    SparesAll T R (b.deleteRelationTuple order t key) (fun _ w' => w'.registry = R) w := by
  cases b with
  | keto => exact spares_ketoDelete h hw key
  | openFga => exact spares_writeTuples (h.apart rfl) hw h.other horder [] [key]

theorem spares_backendWrite (horder : ∀ l, (order l).Perm l) (ws ds : List RelationTupleKey) :
    SparesAll T R (b.writeTuples order t ws ds) (fun _ w' => w'.registry = R) w := by
  cases b with
  | keto => exact spares_ketoBatch h hw ws ds
  | openFga => exact spares_writeTuples (h.apart rfl) hw h.other horder ws ds

theorem spares_backendTearDown (n : String) :
    SparesAll T R (b.deleteNamespace t n) (fun _ w' => w'.registry = R) w := by
  cases b with
  | keto => exact hw
  | openFga => exact spares_deleteNamespace (h.apart rfl) hw h.other n

end request

/-- **A request of another tenant** makes no call that concerns the tenant. -/
theorem spares_request {b : PermissionBackend} {s : PermissionStep} (hs : s.request.OnTuples)
    (horder : ∀ l, (s.order l).Perm l)
    (hother : ∀ t, s.request.tenant? = some t → OtherTenant b T t w.registry) :
    SparesAll T w.registry (s.program b) (fun _ _ => True) w := by
  obtain ⟨request, order, choices⟩ := s
  cases request with
  | ensureNamespace ctx n model => exact hs.elim
  | seed t => exact hs.elim
  | createTuple ctx key =>
      refine spares_checked fun t ht => ?_
      have h := hother t (by simp [PermissionRequest.tenant?, ht, Except.toOption])
      refine onOk_run_bind (spares_mirror (.createRows t [key]) id ⟨h.other, id⟩ rfl) ?_
      intro _ w' hw'
      exact Sat.post (spares_backend (spares_backendCreate h hw' horder key)) fun _ _ =>
        OnOk.mono fun _ _ _ => trivial
  | deleteTuple ctx i =>
      refine spares_checked fun t ht => ?_
      have h := hother t (by simp [PermissionRequest.tenant?, ht, Except.toOption])
      refine onOk_run_bind (spares_mirror (.getRow t i) id ⟨trivial, id⟩ rfl) ?_
      intro row w' hw'
      refine onOk_run_bind (spares_backend (spares_backendDelete h hw' horder row.key)) ?_
      intro _ w'' _
      exact spares_last (calls_run_orThrow (calls_perform h.other))
  | writeTuples ctx ws ds =>
      refine onOk_run_map (spares_checked fun t ht => ?_)
      have h := hother t (by simp [PermissionRequest.tenant?, ht, Except.toOption])
      refine onOk_run_bind (spares_backend (spares_backendWrite h rfl horder ws ds)) ?_
      intro _ w' _
      refine spares_last (calls_run_bind ?_ fun _ => trivial)
      have hdeletes : (ds.forM fun key => mirrorCall (Prog.perform (S := PermissionStoreSig)
          (.deleteByKey t key))).run.Calls fun op : PermissionCall => op.Spares T w.registry :=
        calls_run_forM fun key _ => calls_run_orThrow (calls_perform h.other)
      unfold mirrorBatch
      split
      · exact calls_run_bind (calls_run_orThrow (calls_perform h.other)) fun _ => hdeletes
      · exact hdeletes
  | deleteNamespace ctx n =>
      refine spares_checked fun t ht => ?_
      have h := hother t (by simp [PermissionRequest.tenant?, ht, Except.toOption])
      refine onOk_run_bind (spares_backend (spares_getNamespace t n)) ?_
      rintro record w' ⟨rfl, rfl⟩
      rcases w'.registry.get t n with _ | record
      · trivial
      · refine onOk_run_bind (spares_backend (spares_backendTearDown h rfl n)) ?_
        intro _ w'' _
        refine spares_last (calls_run_bind (calls_run_orThrow (calls_perform h.other)) fun _ => ?_)
        exact calls_run_orThrow (calls_run_orThrow (calls_perform h.other))

/-- **A request of another tenant**, whatever fails. -/
theorem leftAlone_step {b : PermissionBackend} {s : PermissionStep} {w' : PermissionWorld}
    (hs : s.request.OnTuples) (horder : ∀ l, (s.order l).Perm l)
    (hother : ∀ t, s.request.tenant? = some t → OtherTenant b T t w.registry)
    (hstep : permissionStep b w s = some w') : LeftAlone T w w' := by
  obtain rfl := Option.some.inj hstep
  refine Sat.run_invariant (K := sparingTenant T w.registry) (I := LeftAlone T w) (fun _ => rfl) ?_
    (spares_request hs horder hother) (fun _ _ => trivial) (LeftAlone.refl T w)
  intro op c w' _ hop h
  exact leftAlone_call h hop c

end requests

end SsoGateway
