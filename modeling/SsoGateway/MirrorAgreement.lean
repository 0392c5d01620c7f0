import SsoGateway.ForeignWrites
import SsoGateway.OrderlyCalls
import SsoGateway.ReservedNamespace

/-!
# The mirror agrees with the backend

Requests that write tuples keep the mirror and the backend in agreement, if none of their calls fails
once something was written, and if they are none of those that the two take differently: a tuple for
a namespace without a store, a row that is not the only one of its tuple, a batch of which a later
store refuses its part, a namespace whose rows are not those of its store.

* `KetoAgrees`, `FgaSynced` — the agreement, for OpenFGA with what keeps it.
* `CreateOk`, `DeleteOk`, `WriteOk`, `TearDownOk` — what the stores have to be like for a request.
* `keto_request`, `fga_request` — one request of the tenant; `keto_foreign`, `fga_foreign` — one of
  another.
* `mirror_agrees` — along every run.
* `mirror_drifts` — one failed call.
-/

namespace SsoGateway

open Lib Prog

variable {T : String} {w w' : PermissionWorld} {tr : PermissionTrace}

/-! ## Calls of the mirror -/

/-- An insertion adds the rows, or nothing was written. -/
theorem serves_createRows (T : String) (keys : List RelationTupleKey) :
    Serves (mirrorCall (Prog.perform (S := PermissionStoreSig) (.createRows T keys))).run
      (fun r w' tr' => (∀ rows, r = .ok rows → ¬ NothingWritten tr' ∧
        ∃ ids m, m.rows = TupleMirror.newRows ids T keys ++ w.mirror.rows ∧
          w' = { w with mirror := m }) ∧
        (∀ e, r = .error e → w' = w ∧ NothingWritten tr)) w tr := by
  refine serves_write (.createRows T keys) id id (fun c => rfl) (fun c tr' hnew hwritten => ?_)
    (fun f tr' _ hun => ⟨fun rows h => by simp at h, fun _ _ => ⟨rfl, hun⟩⟩)
  have hins : w.mirror.insert c.ids T keys = .ok ⟨_, hnew⟩ := dif_pos hnew
  simp only [PermissionWorld.createRows, hins]
  exact ⟨fun rows _ => ⟨hwritten, c.ids, _, rfl, rfl⟩, fun e he => by simp [Except.mapError] at he⟩

/-- A deletion of rows. -/
theorem serves_deleteRows (op : PermissionCall) (hquery : ¬ op.IsQuery)
    (view : PermissionCall.Res op → Except DbError Unit) {p : PermissionTupleRow → Bool}
    (hop : ∀ c, (view (permissionStores op c w).1, (permissionStores op c w).2) =
      Fault.answer Fault.sqlx w (.ok (), w.deleteRows p) c.fault) :
    Serves (mirrorCall (Prog.call op fun a => Prog.pure (view a))).run
      (fun r w' tr' => (r = .ok () → ¬ NothingWritten tr' ∧ w' = w.deleteRows p) ∧
        (∀ e, r = .error e → w' = w ∧ NothingWritten tr)) w tr := by
  refine serves_write op view hquery hop (fun c tr' _ hwritten => ?_)
    (fun f tr' _ hun => ⟨fun h => by simp at h, fun _ _ => ⟨rfl, hun⟩⟩)
  exact ⟨fun _ => ⟨hwritten, rfl⟩, fun e he => by simp [Except.mapError] at he⟩

/-- The deletes of a batch, one by one. -/
theorem serves_deleteKeys (T : String) (ds : List RelationTupleKey) :
    ∀ {w : PermissionWorld} {tr : PermissionTrace}, ¬ NothingWritten tr →
      Serves (ds.forM fun key => mirrorCall (Prog.perform (S := PermissionStoreSig)
        (.deleteByKey T key))).run (fun r w' _ => r = .ok () ∧ ∃ m,
          (∀ row, row ∈ m.rows ↔ row ∈ w.mirror.rows ∧ ¬ (row.tenantId = T ∧ row.key ∈ ds)) ∧
          w' = { w with mirror := m }) w tr := by
  induction ds with
  | nil =>
      intro w tr _
      exact ⟨rfl, w.mirror, by simp, rfl⟩
  | cons key ds ih =>
      intro w tr hwritten
      show Serves (mirrorCall _ >>= fun _ => ds.forM _).run _ w tr
      refine serves_run_bind (serves_deleteRows (.deleteByKey T key) id id fun c => rfl) ?_ ?_
      · rintro ⟨⟩ w' tr' ⟨hok, -⟩
        obtain ⟨hwritten', rfl⟩ := hok rfl
        refine (ih hwritten').post ?_
        rintro r w'' tr'' ⟨rfl, m, hm, rfl⟩
        refine ⟨rfl, m, fun row => ?_, rfl⟩
        rw [hm row]
        simp only [PermissionWorld.deleteRows, TupleMirror.delete, List.mem_filter, List.mem_cons]
        by_cases ht : row.tenantId = T
        · by_cases hk : row.key = key
          · simp [ht, hk]
          · simp [ht, hk]
        · simp [ht]
      · rintro e w' tr' ⟨-, herr⟩
        exact absurd (herr e rfl).2 hwritten

/-- The rows after a batch: those of its writes next to the old ones, without those of its deletes. -/
def BatchRows (T : String) (ws ds : List RelationTupleKey) (rows rows' : List PermissionTupleRow) :
    Prop :=
  ∃ ids, ∀ row, row ∈ rows' ↔ row ∈ TupleMirror.newRows ids T ws ++ rows ∧
    ¬ (row.tenantId = T ∧ row.key ∈ ds)

/-- The mirror's part of a batch, once the backend has been written. -/
theorem serves_mirrorBatch (T : String) (ws ds : List RelationTupleKey)
    (hwritten : ¬ NothingWritten tr) :
    Serves (mirrorBatch T ws ds).run (fun r w' _ => r = .ok () ∧
      ∃ m, BatchRows T ws ds w.mirror.rows m.rows ∧ w' = { w with mirror := m }) w tr := by
  have hdeletes {w : PermissionWorld} {tr : PermissionTrace} (hwritten : ¬ NothingWritten tr)
      (ids : ℕ → String) {rows : List PermissionTupleRow}
      (hrows : w.mirror.rows = TupleMirror.newRows ids T ws ++ rows) :
      Serves (ds.forM fun key => mirrorCall (Prog.perform (S := PermissionStoreSig)
        (.deleteByKey T key))).run (fun r w' _ => r = .ok () ∧
          ∃ m, BatchRows T ws ds rows m.rows ∧ w' = { w with mirror := m }) w tr := by
    refine (serves_deleteKeys T ds hwritten).post ?_
    rintro r w' tr' ⟨rfl, m, hm, rfl⟩
    exact ⟨rfl, m, ⟨ids, fun row => by rw [hm row, hrows]⟩, rfl⟩
  unfold mirrorBatch
  split
  · refine serves_run_bind (serves_createRows T ws) ?_ ?_
    · rintro rows w' tr' ⟨hok, -⟩
      obtain ⟨hwritten', ids, m, hm, rfl⟩ := hok rows rfl
      refine (hdeletes hwritten' ids hm).post ?_
      rintro r w'' tr'' ⟨rfl, m', hm', rfl⟩
      exact ⟨rfl, m', hm', rfl⟩
    · rintro e w' tr' ⟨-, herr⟩
      exact absurd (herr e rfl).2 hwritten
  · rename_i hws
    obtain rfl : ws = [] := by simpa using hws
    exact hdeletes hwritten (fun _ => "") rfl

/-- What the mirror says after a batch, if a deleted tuple has rows of the deleted key only. -/
theorem mirrored_batch {τ : Type} {enc : RelationTupleKey → τ} {ws ds : List RelationTupleKey}
    {rows rows' : List PermissionTupleRow} (hrows : BatchRows T ws ds rows rows')
    (halias : ∀ k ∈ ds, (∀ row ∈ rows, row.tenantId = T → enc row.key = enc k → row.key = k) ∧
      ∀ k' ∈ ws, enc k' = enc k → k' = k) (x : τ) :
    Mirrored enc T rows' x ↔
      (Mirrored enc T rows x ∨ ∃ k ∈ ws, enc k = x) ∧ ∀ k ∈ ds, enc k ≠ x := by
  obtain ⟨ids, hrows⟩ := hrows
  have hins : Mirrored enc T (TupleMirror.newRows ids T ws ++ rows) x ↔ _ := mirrored_insert
  rw [← hins]
  constructor
  · rintro ⟨row, hrow, ht, rfl⟩
    obtain ⟨hmem, hkept⟩ := (hrows row).mp hrow
    refine ⟨⟨row, hmem, ht, rfl⟩, fun k hk hkx => hkept ⟨ht, ?_⟩⟩
    rcases List.mem_append.mp hmem with hnew | hold
    · obtain ⟨-, n, hn, -⟩ := TupleMirror.mem_newRows.mp hnew
      rwa [(halias k hk).2 row.key (List.mem_of_getElem? hn) hkx.symm]
    · rwa [(halias k hk).1 row hold ht hkx.symm]
  · rintro ⟨⟨row, hmem, ht, rfl⟩, hnone⟩
    exact ⟨row, (hrows row).mpr ⟨hmem, fun h => hnone row.key h.2 rfl⟩, ht, rfl⟩

/-! ## Keto -/

/-- The mirror agrees with Keto. -/
def KetoAgrees (T : String) (w : PermissionWorld) : Prop :=
  ∀ x, Mirrored (ketoTuple T) T w.mirror.rows x ↔ x ∈ w.keto ∧ OfTenant T x

/-- A tuple of the tenant is created. -/
theorem serves_ketoCreate (T : String) (key : RelationTupleKey) :
    Serves (Keto.createRelationTuple T key).run (fun r w' tr' =>
      (r = .ok () → ¬ NothingWritten tr' ∧ ∃ kt,
        (∀ x, x ∈ kt ↔ x ∈ w.keto ∨ ketoTuple T key = x) ∧ w' = { w with keto := kt }) ∧
      (∀ e, r = .error e → w' = w ∧ NothingWritten tr)) w tr := by
  refine serves_write (.ketoCreate (ketoTuple T key)) id id (fun c => rfl)
    (fun c tr' _ hwritten => ?_) (fun f tr' _ hun => ⟨fun h => by simp at h, fun _ _ => ⟨rfl, hun⟩⟩)
  refine ⟨fun _ => ⟨hwritten, _, fun x => ?_, rfl⟩, fun e he => by simp [Except.mapError] at he⟩
  split
  · rename_i hmem
    constructor
    · exact .inl
    · rintro (hx | rfl)
      · exact hx
      · exact hmem
  · rw [List.mem_cons, or_comm, eq_comm]

/-- A tuple of the tenant is deleted. -/
theorem serves_ketoDelete (T : String) (key : RelationTupleKey) :
    Serves (Keto.deleteRelationTuple T key).run (fun r w' tr' =>
      (r = .ok () → ¬ NothingWritten tr' ∧ ∃ kt,
        (∀ x, x ∈ kt ↔ x ∈ w.keto ∧ ketoTuple T key ≠ x) ∧ w' = { w with keto := kt }) ∧
      (∀ e, r = .error e → w' = w ∧ NothingWritten tr)) w tr := by
  refine serves_write (.ketoDelete (ketoTuple T key)) id id (fun c => rfl)
    (fun c tr' _ hwritten => ?_) (fun f tr' _ hun => ⟨fun h => by simp at h, fun _ _ => ⟨rfl, hun⟩⟩)
  refine ⟨fun _ => ⟨hwritten, _, fun x => ?_, rfl⟩, fun e he => by simp [Except.mapError] at he⟩
  simp [ne_comm]

/-- Tuples of the tenant are created. -/
theorem serves_ketoCreates (T : String) (keys : List RelationTupleKey) :
    ∀ {w : PermissionWorld} {tr : PermissionTrace},
      Serves (keys.forM (Keto.createRelationTuple T)).run (fun r w' tr' =>
        (r = .ok () → (NothingWritten tr' → NothingWritten tr ∧ keys = [] ∧ w' = w) ∧ ∃ kt,
          (∀ x, x ∈ kt ↔ x ∈ w.keto ∨ ∃ k ∈ keys, ketoTuple T k = x) ∧
            w' = { w with keto := kt }) ∧
        (∀ e, r = .error e → w' = w ∧ NothingWritten tr)) w tr := by
  induction keys with
  | nil =>
      intro w tr
      exact ⟨fun _ => ⟨fun h => ⟨h, rfl, rfl⟩, w.keto, by simp, rfl⟩, fun e he => by simp at he⟩
  | cons key keys ih =>
      intro w tr
      show Serves (Keto.createRelationTuple T key >>= fun _ =>
        keys.forM (Keto.createRelationTuple T)).run _ w tr
      refine serves_run_bind (serves_ketoCreate T key) ?_ ?_
      · rintro ⟨⟩ w' tr' ⟨hok, -⟩
        obtain ⟨hwritten, kt, hkt, rfl⟩ := hok rfl
        refine ih.post ?_
        rintro r w'' tr'' ⟨hok, herr⟩
        refine ⟨fun h => ?_, fun e he => absurd (herr e he).2 hwritten⟩
        obtain ⟨hnothing, kt', hkt', rfl⟩ := hok h
        refine ⟨fun h => absurd (hnothing h).1 hwritten, kt', fun x => ?_, rfl⟩
        simp [hkt', hkt, or_assoc]
      · rintro e w' tr' ⟨-, herr⟩
        exact ⟨fun h => by simp at h, fun _ _ => herr e rfl⟩

/-- Tuples of the tenant are deleted. -/
theorem serves_ketoDeletes (T : String) (keys : List RelationTupleKey) :
    ∀ {w : PermissionWorld} {tr : PermissionTrace},
      Serves (keys.forM (Keto.deleteRelationTuple T)).run (fun r w' tr' =>
        (r = .ok () → (NothingWritten tr' → NothingWritten tr ∧ keys = []) ∧ ∃ kt,
          (∀ x, x ∈ kt ↔ x ∈ w.keto ∧ ∀ k ∈ keys, ketoTuple T k ≠ x) ∧
            w' = { w with keto := kt }) ∧
        (∀ e, r = .error e → w' = w ∧ NothingWritten tr)) w tr := by
  induction keys with
  | nil =>
      intro w tr
      exact ⟨fun _ => ⟨fun h => ⟨h, rfl⟩, w.keto, by simp, rfl⟩, fun e he => by simp at he⟩
  | cons key keys ih =>
      intro w tr
      show Serves (Keto.deleteRelationTuple T key >>= fun _ =>
        keys.forM (Keto.deleteRelationTuple T)).run _ w tr
      refine serves_run_bind (serves_ketoDelete T key) ?_ ?_
      · rintro ⟨⟩ w' tr' ⟨hok, -⟩
        obtain ⟨hwritten, kt, hkt, rfl⟩ := hok rfl
        refine ih.post ?_
        rintro r w'' tr'' ⟨hok, herr⟩
        refine ⟨fun h => ?_, fun e he => absurd (herr e he).2 hwritten⟩
        obtain ⟨hnothing, kt', hkt', rfl⟩ := hok h
        refine ⟨fun h => absurd (hnothing h).1 hwritten, kt', fun x => ?_, rfl⟩
        simp [hkt', hkt, and_assoc]
      · rintro e w' tr' ⟨-, herr⟩
        exact ⟨fun h => by simp at h, fun _ _ => herr e rfl⟩

/-- What a batch makes of the tuples of Keto. -/
def BatchTuples (T : String) (ws ds : List RelationTupleKey) (kt kt' : List KetoTuple) : Prop :=
  ∀ x, x ∈ kt' ↔ (x ∈ kt ∨ ∃ k ∈ ws, ketoTuple T k = x) ∧ ∀ k ∈ ds, ketoTuple T k ≠ x

/-- A batch of Keto, tuple by tuple. -/
theorem serves_ketoBatch (T : String) (ws ds : List RelationTupleKey) :
    Serves (Keto.writeTuples T ws ds).run (fun r w' tr' =>
      (r = .ok () → (NothingWritten tr' → NothingWritten tr ∧ ws = [] ∧ ds = []) ∧
        ∃ kt, BatchTuples T ws ds w.keto kt ∧ w' = { w with keto := kt }) ∧
      (∀ e, r = .error e → w' = w ∧ NothingWritten tr)) w tr := by
  refine serves_run_bind (serves_ketoCreates T ws) ?_ ?_
  · rintro ⟨⟩ w' tr' ⟨hok, -⟩
    obtain ⟨hnothing, kt, hkt, rfl⟩ := hok rfl
    refine (serves_ketoDeletes T ds).post ?_
    rintro r w'' tr'' ⟨hok, herr⟩
    refine ⟨fun h => ?_, fun e he => ?_⟩
    · obtain ⟨hnothing', kt', hkt', rfl⟩ := hok h
      refine ⟨fun h => ?_, kt', fun x => ?_, rfl⟩
      · obtain ⟨hun, hds⟩ := hnothing' h
        exact ⟨(hnothing hun).1, (hnothing hun).2.1, hds⟩
      · rw [hkt', hkt]
    · -- a delete that fails comes after no write, so that nothing was created
      obtain ⟨rfl, hun⟩ := herr e he
      exact ⟨(hnothing hun).2.2, (hnothing hun).1⟩
  · rintro e w' tr' ⟨-, herr⟩
    exact ⟨fun h => by simp at h, fun _ _ => herr e rfl⟩

/-! ## Requests of the tenant -/

/-- A tuple can be created: with OpenFGA, its namespace has a store. -/
def CreateOk (b : PermissionBackend) (T : String) (w : PermissionWorld) (key : RelationTupleKey) :
    Prop :=
  match b with
  | .keto => True
  | .openFga => ∃ r, w.registry.getByType T key.nspace = some r ∧ OpenFga.Provisioned r ∧
      ∃ st ∈ w.stores, st.id = OpenFga.storeOf r

/-- The row is the only one of its tuple. -/
def DeleteOk (b : PermissionBackend) (T : String) (w : PermissionWorld) (id : String) : Prop :=
  ∀ row ∈ w.mirror.rows, row.tenantId = T → row.id = id → ∀ row' ∈ w.mirror.rows, row'.tenantId = T →
    (match b with
      | .keto => row'.key = row.key
      | .openFga => clientTupleKey row'.key = clientTupleKey row.key) → row' = row

/-- With OpenFGA, no key stands for the tuple of a deleted one, and every store takes its part or the
first of them refuses. -/
def WriteOk (b : PermissionBackend) (order : List String → List String) (T : String)
    (w : PermissionWorld) (ws ds : List RelationTupleKey) : Prop :=
  match b with
  | .keto => True
  | .openFga =>
      (∀ k ∈ ds, (∀ row ∈ w.mirror.rows, row.tenantId = T →
          clientTupleKey row.key = clientTupleKey k → row.key = k) ∧
        ∀ k' ∈ ws, clientTupleKey k' = clientTupleKey k → k' = k) ∧
      ((∀ k, k ∈ ws ∨ k ∈ ds → Configured T w.registry k.nspace) →
        StoresAccept order T w.registry w.stores ws ds)

/-- The rows of the namespace are those whose tuples go with it: with Keto, none. -/
def TearDownOk (b : PermissionBackend) (T : String) (w : PermissionWorld) (n : String) : Prop :=
  ∀ record, w.registry.get T n = some record →
    match b with
    | .keto => ∀ row ∈ w.mirror.rows, row.tenantId = T → row.key.nspace ≠ n
    | .openFga => TearsDown T w.stores w.mirror.rows n (OpenFga.storeOf record)

/-! ### With Keto -/

/-- Both sides after the same batch. -/
theorem KetoAgrees.batch (h : KetoAgrees T w) (ws ds : List RelationTupleKey) {m : TupleMirror}
    {kt : List KetoTuple}
    (hm : ∀ x, Mirrored (ketoTuple T) T m.rows x ↔ (Mirrored (ketoTuple T) T w.mirror.rows x ∨
      ∃ k ∈ ws, ketoTuple T k = x) ∧ ∀ k ∈ ds, ketoTuple T k ≠ x)
    (hkt : BatchTuples T ws ds w.keto kt) : KetoAgrees T { w with mirror := m, keto := kt } := by
  intro x
  simp only [hm x, h x, hkt x]
  constructor
  · rintro ⟨⟨hx, hT⟩ | ⟨k, hk, rfl⟩, hds⟩
    · exact ⟨⟨.inl hx, hds⟩, hT⟩
    · exact ⟨⟨.inr ⟨k, hk, rfl⟩, hds⟩, ofTenant_ketoTuple T k⟩
  · rintro ⟨⟨hx | hk, hds⟩, hT⟩
    · exact ⟨.inl ⟨hx, hT⟩, hds⟩
    · exact ⟨.inr hk, hds⟩

theorem keto_create (h : KetoAgrees T w) (order : List String → List String)
    (key : RelationTupleKey) {ctx : RequestContext}
    (hctx : requireTenantScope ctx scopePermissionAdmin = .ok T) :
    Serves (createRelationTuple .keto order ctx key).run (fun _ w' _ => KetoAgrees T w') w [] := by
  refine serves_checked hctx (serves_run_bind (serves_createRows T [key]) ?_ ?_)
  · rintro rows w' tr' ⟨hok, -⟩
    obtain ⟨hwritten, ids, m, hm, rfl⟩ := hok rows rfl
    refine (serves_backendCall (serves_ketoCreate T key)).post ?_
    rintro (e | ⟨⟩) w'' tr'' ⟨hok, herr⟩
    · obtain ⟨e', -, herr⟩ := herr e rfl
      exact absurd (herr e' rfl).2 hwritten
    · obtain ⟨-, kt, hkt, rfl⟩ := (hok () rfl).1 rfl
      refine h.batch [key] [] (fun x => ?_) (fun x => by simpa using hkt x)
      simp [hm, mirrored_insert]
  · rintro e w' tr' ⟨-, herr⟩
    rw [(herr e rfl).1]
    exact h

/-- The row of a request, or nothing is done. -/
theorem serves_getRow (T i : String) :
    Serves (mirrorCall (Prog.perform (S := PermissionStoreSig) (.getRow T i))).run
      (fun r w' tr' => Reads w w' tr tr' ∧ ∀ row, r = .ok row → w.mirror.get T i = some row) w tr := by
  refine serves_query (.getRow T i) id trivial (fun c => rfl) (fun tr' htr => ?_)
    (fun e tr' htr _ => ⟨⟨rfl, htr⟩, fun row h => by simp at h⟩)
  refine ⟨⟨rfl, htr⟩, fun row hrow => ?_⟩
  rcases hget : w.mirror.get T i with _ | row'
  · simp [hget, Except.mapError] at hrow
  · simpa [hget, Except.mapError] using hrow

theorem mirror_get {m : TupleMirror} {i : String} {row : PermissionTupleRow}
    (h : m.get T i = some row) : row ∈ m.rows ∧ row.tenantId = T ∧ row.id = i := by
  have hof : row.tenantId = T ∧ row.id = i := by simpa using List.find?_some h
  exact ⟨List.mem_of_find?_eq_some h, hof⟩

/-- The deletion of a row that is there. -/
theorem serves_deleteRow {i : String} {row : PermissionTupleRow} (hget : w.mirror.get T i = some row) :
    Serves (mirrorCall (Prog.perform (S := PermissionStoreSig) (.deleteRow T i))).run
      (fun r w' tr' => (r = .ok () → ¬ NothingWritten tr' ∧
          w' = w.deleteRows fun x => x.tenantId = T ∧ x.id = i) ∧
        (∀ e, r = .error e → w' = w ∧ NothingWritten tr)) w tr := by
  refine serves_deleteRows (.deleteRow T i) id id fun c => ?_
  simp [permissionStores, PermissionWorld.deleteRow, hget]

/-- What the mirror says after the deletion of a row that is the only one of its tuple. -/
theorem mirrored_deleteRow {τ : Type} {enc : RelationTupleKey → τ} {i : String}
    {row : PermissionTupleRow} (hget : w.mirror.get T i = some row)
    (hsole : ∀ row' ∈ w.mirror.rows, row'.tenantId = T → enc row'.key = enc row.key → row' = row)
    (x : τ) : Mirrored enc T (w.deleteRows fun y => y.tenantId = T ∧ y.id = i).mirror.rows x ↔
      Mirrored enc T w.mirror.rows x ∧ enc row.key ≠ x := by
  obtain ⟨hmem, ht, hid⟩ := mirror_get hget
  refine (mirrored_delete (Y := fun y => enc row.key = y) fun row' hrow' ht' => ?_).trans Iff.rfl
  rw [decide_eq_true_eq]
  constructor
  · rintro ⟨-, hid'⟩
    rw [TupleMirror.id_unique hrow' hmem (hid'.trans hid.symm)]
  · intro henc
    obtain rfl := hsole row' hrow' ht' henc.symm
    exact ⟨ht, hid⟩

theorem keto_delete (h : KetoAgrees T w) (order : List String → List String) (i : String)
    {ctx : RequestContext} (hctx : requireTenantScope ctx scopePermissionAdmin = .ok T)
    (hok : DeleteOk .keto T w i) :
    Serves (deleteRelationTuple .keto order ctx i).run (fun _ w' _ => KetoAgrees T w') w [] := by
  refine serves_checked hctx (serves_run_bind (serves_getRow T i) ?_ ?_)
  · rintro row w' tr' ⟨⟨rfl, htr⟩, hrow⟩
    have hget := hrow row rfl
    obtain ⟨hmem, ht, hid⟩ := mirror_get hget
    refine serves_run_bind (serves_backendCall (serves_ketoDelete T row.key)) ?_ ?_
    · rintro ⟨⟩ w'' tr'' ⟨hdel, -⟩
      obtain ⟨hwritten, kt, hkt, rfl⟩ := (hdel () rfl).1 rfl
      refine (serves_deleteRow (w := { w' with keto := kt }) hget).post ?_
      rintro (e | ⟨⟩) w₃ tr₃ ⟨hrow, herr⟩
      · exact absurd (herr e rfl).2 hwritten
      · obtain ⟨-, rfl⟩ := hrow rfl
        refine h.batch [] [row.key] (fun x => ?_) (fun x => by simpa using hkt x)
        have hmirror := mirrored_deleteRow hget (fun row' hrow' ht' henc =>
          hok row hmem ht hid row' hrow' ht' (ketoTuple_inj (t := T) henc)) x
        exact hmirror.trans (by simp)
    · rintro e w'' tr'' ⟨-, herr⟩
      obtain ⟨e', -, herr⟩ := herr e rfl
      rw [(herr e' rfl).1]
      exact h
  · rintro e w' tr' ⟨⟨rfl, -⟩, -⟩
    exact h

theorem checkWrite_ne_nil {ctx : RequestContext} {ws ds : List RelationTupleKey}
    (h : checkWrite ctx ws ds = .ok T) : ¬ (ws = [] ∧ ds = []) := by
  rintro ⟨rfl, rfl⟩
  obtain ⟨t, -, h⟩ := except_bind_eq_ok.mp h
  simp at h

theorem keto_write (h : KetoAgrees T w) (order : List String → List String)
    {ws ds : List RelationTupleKey} {ctx : RequestContext} (hctx : checkWrite ctx ws ds = .ok T) :
    Serves (writeRelationTuples .keto order ctx ws ds).run (fun _ w' _ => KetoAgrees T w') w [] := by
  refine serves_checked hctx (serves_run_bind (serves_backendCall (serves_ketoBatch T ws ds)) ?_ ?_)
  · rintro ⟨⟩ w' tr' ⟨hok, -⟩
    obtain ⟨hnothing, kt, hkt, rfl⟩ := (hok () rfl).1 rfl
    have hwritten : ¬ NothingWritten tr' := fun hn => checkWrite_ne_nil hctx (hnothing hn).2
    refine serves_run_bind (serves_mirrorBatch T ws ds hwritten) ?_ ?_
    · rintro ⟨⟩ w'' tr'' ⟨-, m, hm, rfl⟩
      refine h.batch ws ds (fun x => mirrored_batch hm (fun k hk => ⟨fun row hrow ht henc => ?_,
        fun k' hk' henc => ?_⟩) x) hkt
      · exact ketoTuple_inj henc
      · exact ketoTuple_inj henc
    · rintro e w'' tr'' ⟨he, -⟩
      simp at he
  · rintro e w' tr' ⟨-, herr⟩
    obtain ⟨e', -, herr⟩ := herr e rfl
    rw [(herr e' rfl).1]
    exact h

/-- The record of a namespace, or nothing is done. -/
theorem serves_getNamespace (T n : String) :
    Serves (registryCall (Prog.perform (S := PermissionStoreSig) (.getNamespace T n))).run
      (fun r w' tr' => Reads w w' tr tr' ∧ (∀ record, r = .ok record → record = w.registry.get T n) ∧
        (∀ e, r = .error e → NothingWritten tr)) w tr := by
  refine serves_query (.getNamespace T n) id trivial (fun c => rfl) (fun tr' htr => ?_)
    (fun e tr' htr hun => ⟨⟨rfl, htr⟩, fun record h => by simp at h, fun _ _ => hun⟩)
  refine ⟨⟨rfl, htr⟩, fun record h => ?_, fun e he => by simp [Except.mapError] at he⟩
  exact (Except.ok.inj h).symm

/-- The record goes. -/
theorem serves_deleteRecord (T n : String) :
    Serves (registryCall (Prog.perform (S := PermissionStoreSig) (.deleteNamespace T n))).run
      (fun r w' _ => (r = .ok () → w' = { w with registry := w.registry.remove T n }) ∧
        (∀ e, r = .error e → w' = w ∧ NothingWritten tr)) w tr := by
  refine serves_write (.deleteNamespace T n) id id (fun c => rfl) (fun c tr' _ _ => ?_)
    (fun f tr' _ hun => ⟨fun h => by simp at h, fun _ _ => ⟨rfl, hun⟩⟩)
  exact ⟨fun _ => rfl, fun e he => by simp [Except.mapError] at he⟩

theorem keto_tearDown (h : KetoAgrees T w) {n : String} {ctx : RequestContext}
    (hctx : requireTenantScope ctx scopePermissionAdmin = .ok T) (hok : TearDownOk .keto T w n) :
    Serves (deletePermissionNamespace .keto ctx n).run (fun _ w' _ => KetoAgrees T w') w [] := by
  refine serves_checked hctx (serves_run_bind (serves_backendCall (serves_getNamespace T n)) ?_ ?_)
  · rintro record w' _ ⟨hget, -⟩
    obtain ⟨⟨rfl, -⟩, hrecord, -⟩ := hget record rfl
    obtain rfl := hrecord record rfl
    rcases hreg : w'.registry.get T n with _ | record
    · exact h
    · have hrows := hok record hreg
      refine serves_run_bind (P := fun _ w'' _ => w'' = w') rfl ?_ ?_
      · rintro ⟨⟩ w'' _ rfl
        have hmirror : KetoAgrees T
            (w''.deleteRows fun x => x.tenantId = T ∧ x.key.nspace = n) := by
          intro x
          refine (mirrored_congr fun row ht => ?_).trans (h x)
          simp only [PermissionWorld.deleteRows, TupleMirror.delete, List.mem_filter]
          constructor
          · exact And.left
          · intro hrow
            exact ⟨hrow, by simpa [ht] using hrows row hrow ht⟩
        refine serves_run_bind (serves_deleteRows (.deleteByNamespace T n) id id fun c => rfl) ?_ ?_
        · rintro ⟨⟩ w₁ tr₁ ⟨hok, -⟩
          obtain ⟨-, rfl⟩ := hok rfl
          refine (serves_backendCall (serves_deleteRecord T n)).post ?_
          rintro (e | ⟨⟩) w₂ tr₂ ⟨hok, herr⟩
          · obtain ⟨e', -, herr⟩ := herr e rfl
            rw [(herr e' rfl).1]
            exact hmirror
          · rw [(hok () rfl).1 rfl]
            exact hmirror
        · rintro e w₁ tr₁ ⟨-, herr⟩
          rw [(herr e rfl).1]
          exact h
      · rintro e w'' _ rfl
        exact h
  · rintro e w' tr' ⟨-, herr⟩
    obtain ⟨e', ⟨rfl, -⟩, -⟩ := herr e rfl
    exact h

/-! ### With OpenFGA -/

/-- The mirror agrees with OpenFGA, and what keeps it so. -/
structure FgaSynced (T : String) (w : PermissionWorld) : Prop where
  ready : FgaReady T w.registry w.stores
  agrees : ∀ x, Mirrored clientTupleKey T w.mirror.rows x ↔ InStores T w.registry w.stores x
  housed : Housed T w.registry w.mirror.rows w.stores

/-- Both sides after the same batch. -/
theorem FgaSynced.batch (h : FgaSynced T w) {ws ds : List RelationTupleKey} {l : List String}
    {m : TupleMirror} (hbatch : Batch T w.registry w.stores ws ds l)
    (halias : ∀ k ∈ ds, ∀ row ∈ w.mirror.rows, row.tenantId = T →
      clientTupleKey row.key = clientTupleKey k → row.key = k)
    (hm : ∀ x, Mirrored clientTupleKey T m.rows x ↔ (Mirrored clientTupleKey T w.mirror.rows x ∨
      ∃ k ∈ ws, clientTupleKey k = x) ∧ ∀ k ∈ ds, clientTupleKey k ≠ x)
    (hrows : ∀ row ∈ m.rows, row.tenantId = T → row ∈ w.mirror.rows ∨ row.key ∈ ws) :
    FgaSynced T { w with
      mirror := m
      stores := applyBatch l (groupOf T w.registry ws) (groupOf T w.registry ds) w.stores } where
  ready := h.ready.applyBatch _ _
  agrees := by
    intro x
    rw [hm x, h.agrees x]
    exact (inStores_applyBatch h.ready h.agrees h.housed hbatch halias x).symm
  housed := housed_applyBatch h.ready h.agrees h.housed hbatch hrows

/-- A row whose tuple is there already. -/
theorem FgaSynced.again (h : FgaSynced T w) {k : RelationTupleKey} {r : NamespaceRow}
    (hr : w.registry.getByType T k.nspace = some r)
    (hthere : InStores T w.registry w.stores (clientTupleKey k)) {ids : ℕ → String} {m : TupleMirror}
    (hm : m.rows = TupleMirror.newRows ids T [k] ++ w.mirror.rows) :
    FgaSynced T { w with mirror := m } where
  ready := h.ready
  agrees := by
    intro x
    simp only [hm, mirrored_insert, h.agrees x]
    constructor
    · rintro (hx | ⟨k', hk', rfl⟩)
      · exact hx
      · obtain rfl := List.mem_singleton.mp hk'
        exact hthere
    · exact .inl
  housed := by
    intro row hrow ht st hst hown hx
    simp only [hm] at hrow
    rcases List.mem_append.mp hrow with hnew | hold
    · obtain ⟨-, n, hn, -⟩ := TupleMirror.mem_newRows.mp hnew
      obtain hkey : row.key = k := List.mem_singleton.mp (List.mem_of_getElem? hn)
      obtain ⟨row₀, hrow₀, ht₀, henc⟩ := (h.agrees _).mpr ⟨st, hst, hown, hx⟩
      obtain ⟨r₀, hr₀, hid⟩ := h.housed row₀ hrow₀ ht₀ st hst hown (henc ▸ hx)
      obtain rfl := h.ready.getByType_congr hr₀ hr (by rw [henc, hkey])
      exact ⟨r₀, by rw [hkey]; exact hr, hid⟩
    · exact h.housed row hold ht st hst hown hx

/-- A batch of one key goes to one store. -/
theorem storesAccept_one {order : List String → List String} (horder : ∀ l, (order l).Perm l)
    (T : String) (R : Namespaces) (stores : List FgaStore) {ws ds : List RelationTupleKey}
    {k : RelationTupleKey} (hone : ws ++ ds = [k]) : touched order T R ws ds = [storeFor T R k] ∧
      StoresAccept order T R stores ws ds := by
  have htouched : touched order T R ws ds = [storeFor T R k] := by
    simp only [touched, hone, List.map_cons, List.map_nil, List.dedup_cons_of_notMem,
      List.not_mem_nil, not_false_eq_true, List.dedup_nil]
    exact List.perm_singleton.mp (horder _)
  refine ⟨htouched, ?_⟩
  by_cases h : Takes stores (storeFor T R k) (groupOf T R ws (storeFor T R k))
    (groupOf T R ds (storeFor T R k))
  · refine .inl fun s hs => ?_
    rw [htouched, List.mem_singleton] at hs
    rwa [hs]
  · exact .inr ⟨_, [], htouched, h⟩

theorem fga_create (h : FgaSynced T w) {order : List String → List String}
    (horder : ∀ l, (order l).Perm l) {key : RelationTupleKey} {ctx : RequestContext}
    (hctx : requireTenantScope ctx scopePermissionAdmin = .ok T) (hok : CreateOk .openFga T w key) :
    Serves (createRelationTuple .openFga order ctx key).run (fun _ w' _ => FgaSynced T w') w [] := by
  obtain ⟨r, hr, hprov, st, hst, hid⟩ := hok
  refine serves_checked hctx (serves_run_bind (serves_createRows T [key]) ?_ ?_)
  · rintro rows w' tr' ⟨hins, -⟩
    obtain ⟨hwritten, ids, m, hm, rfl⟩ := hins rows rfl
    obtain ⟨htouched, haccept⟩ := storesAccept_one horder T w.registry w.stores
      (List.append_nil [key])
    refine (serves_backendCall (serves_writeTuples (w := { w with mirror := m }) horder
      h.ready.storeKey fun _ => haccept)).post ?_
    rintro (e | ⟨⟩) w'' tr'' ⟨hdone, herr⟩
    · obtain ⟨e', -, herr⟩ := herr e rfl
      obtain ⟨rfl, hun | ⟨k, hk, hno⟩ | ⟨s, hs, hno⟩⟩ := herr e' rfl
      · exact absurd hun hwritten
      · obtain rfl : k = key := by simpa using hk
        exact absurd ⟨r, hr, hprov⟩ hno
      · -- the store is there, so that it refuses a tuple it has
        simp only [htouched, List.mem_singleton] at hs
        have hstore : storeFor T w.registry key = st.id := (storeFor_of_getByType hr).trans hid.symm
        obtain ⟨hmem, ht, -⟩ := mem_of_getByType hr
        have hown : OwnStore T w.registry st := ⟨hid ▸ hprov.1, r, hmem, ht, hid.symm⟩
        refine h.again hr ⟨st, hst, hown, ?_⟩ hm
        by_contra hnew
        refine hno ⟨st, hst, hstore.symm.trans hs.symm, ?_⟩
        simp [FgaAccepts, groupOf, hs, hnew]
    · obtain ⟨hbatch, rfl, -⟩ := (hdone () rfl).1 rfl
      refine h.batch hbatch (by simp) (fun x => ?_) fun row hrow _ => ?_
      · simp [hm, mirrored_insert]
      · rw [hm] at hrow
        rcases List.mem_append.mp hrow with hnew | hold
        · obtain ⟨-, n, hn, -⟩ := TupleMirror.mem_newRows.mp hnew
          exact .inr (List.mem_of_getElem? hn)
        · exact .inl hold
  · rintro e w' tr' ⟨-, herr⟩
    rw [(herr e rfl).1]
    exact h

theorem fga_delete (h : FgaSynced T w) {order : List String → List String}
    (horder : ∀ l, (order l).Perm l) {i : String} {ctx : RequestContext}
    (hctx : requireTenantScope ctx scopePermissionAdmin = .ok T) (hok : DeleteOk .openFga T w i) :
    Serves (deleteRelationTuple .openFga order ctx i).run (fun _ w' _ => FgaSynced T w') w [] := by
  refine serves_checked hctx (serves_run_bind (serves_getRow T i) ?_ ?_)
  · rintro row w' tr' ⟨⟨rfl, htr⟩, hrow⟩
    have hget := hrow row rfl
    obtain ⟨hmem, ht, hid⟩ := mirror_get hget
    obtain ⟨htouched, haccept⟩ := storesAccept_one horder T w'.registry w'.stores
      (List.nil_append [row.key])
    refine serves_run_bind (serves_backendCall (serves_writeTuples horder h.ready.storeKey
      fun _ => haccept)) ?_ ?_
    · rintro ⟨⟩ w'' tr'' ⟨hdel, -⟩
      obtain ⟨hbatch, rfl, hnothing⟩ := (hdel () rfl).1 rfl
      have hwritten : ¬ NothingWritten tr'' := by
        intro hn
        simp [htouched] at hnothing
        exact hnothing hn
      refine (serves_deleteRow (w := batched order T w' [] [row.key]) hget).post ?_
      rintro (e | ⟨⟩) w₃ tr₃ ⟨hrow, herr⟩
      · exact absurd (herr e rfl).2 hwritten
      · obtain ⟨-, rfl⟩ := hrow rfl
        have hsole := hok row hmem ht hid
        refine h.batch hbatch (fun k hk row' hrow' ht' henc => ?_) (fun x => ?_) fun row' hrow' _ => ?_
        · obtain rfl := List.mem_singleton.mp hk
          rw [hsole row' hrow' ht' henc]
        · exact (mirrored_deleteRow hget hsole x).trans (by simp)
        · exact .inl (List.mem_filter.mp hrow').1
    · rintro e w'' tr'' ⟨-, herr⟩
      obtain ⟨e', -, herr⟩ := herr e rfl
      rw [(herr e' rfl).1]
      exact h
  · rintro e w' tr' ⟨⟨rfl, -⟩, -⟩
    exact h

theorem fga_write (h : FgaSynced T w) {order : List String → List String}
    (horder : ∀ l, (order l).Perm l) {ws ds : List RelationTupleKey} {ctx : RequestContext}
    (hctx : checkWrite ctx ws ds = .ok T) (hok : WriteOk .openFga order T w ws ds) :
    Serves (writeRelationTuples .openFga order ctx ws ds).run (fun _ w' _ => FgaSynced T w') w [] := by
  obtain ⟨halias, haccept⟩ := hok
  refine serves_checked hctx (serves_run_bind (serves_backendCall (serves_writeTuples horder
    h.ready.storeKey haccept)) ?_ ?_)
  · rintro ⟨⟩ w' tr' ⟨hdone, -⟩
    obtain ⟨hbatch, rfl, hnothing⟩ := (hdone () rfl).1 rfl
    have hwritten : ¬ NothingWritten tr' := by
      intro hn
      have htouched := (hnothing hn).2
      have hno (k : RelationTupleKey) (hk : k ∈ ws ∨ k ∈ ds) : False := by
        have hmem := (mem_touched (T := T) (R := w.registry) horder).mpr ⟨k, hk, rfl⟩
        simp [htouched] at hmem
      refine checkWrite_ne_nil hctx ⟨?_, ?_⟩
      · exact List.eq_nil_iff_forall_not_mem.mpr fun k hk => hno k (.inl hk)
      · exact List.eq_nil_iff_forall_not_mem.mpr fun k hk => hno k (.inr hk)
    refine serves_run_bind (serves_mirrorBatch T ws ds hwritten) ?_ ?_
    · rintro ⟨⟩ w'' tr'' ⟨-, m, hm, rfl⟩
      refine h.batch hbatch (fun k hk => (halias k hk).1) (mirrored_batch hm halias)
        fun row hrow ht => ?_
      obtain ⟨ids, hrows⟩ := hm
      rcases List.mem_append.mp ((hrows row).mp hrow).1 with hnew | hold
      · obtain ⟨-, n, hn, -⟩ := TupleMirror.mem_newRows.mp hnew
        exact .inr (List.mem_of_getElem? hn)
      · exact .inl hold
    · rintro e w'' tr'' ⟨he, -⟩
      simp at he
  · rintro e w' tr' ⟨-, herr⟩
    obtain ⟨e', -, herr⟩ := herr e rfl
    rw [(herr e' rfl).1]
    exact h

/-- The world without the store of the namespace. -/
def PermissionWorld.without (w : PermissionWorld) (record : NamespaceRow) : PermissionWorld :=
  { w with stores := dropStores (OpenFga.storeOf record) w.stores }

/-- The store of a namespace goes, if it has one and that is there. -/
theorem serves_dropStore (record : NamespaceRow) :
    Serves (OpenFga.dropStore (some record)).run (fun r w' tr' =>
      (r = .ok () → w' = w.without record ∧ (NothingWritten tr' → OpenFga.storeOf record = "")) ∧
      (∀ e, r = .error e → w' = w ∧ NothingWritten tr)) w tr := by
  by_cases hs : OpenFga.storeOf record = ""
  · rw [OpenFga.dropStore, if_pos hs]
    refine ⟨fun _ => ⟨by simp [PermissionWorld.without, dropStores, hs], fun _ => hs⟩, fun e he => ?_⟩
    simp at he
  · rw [OpenFga.dropStore, if_neg hs]
    have hraw : Serves (orThrow id (Prog.call (S := PermissionStoreSig)
        (.deleteStore (OpenFga.storeOf record)) fun a => Prog.pure (id a))).run (fun r w' tr' =>
          (OpenFga.ignoreMissing r = .ok () → w' = w.without record ∧
            (NothingWritten tr' → OpenFga.storeOf record = "")) ∧
          (∀ e, OpenFga.ignoreMissing r = .error e → w' = w ∧ NothingWritten tr)) w tr := by
      refine serves_write (.deleteStore (OpenFga.storeOf record)) id id (fun c => rfl)
        (fun c tr' _ hwritten => ?_) (fun f tr' hgone hun => ?_)
      · unfold PermissionWorld.deleteStore
        rcases hfind : w.findStore (OpenFga.storeOf record) with _ | st
        · -- a store that is gone already
          have hsame : w.without record = w := by
            have hfilter : w.stores.filter (fun st => st.id ≠ OpenFga.storeOf record) = w.stores := by
              refine List.filter_eq_self.mpr fun st hst => ?_
              simpa using List.find?_eq_none.mp hfind st hst
            simp only [PermissionWorld.without, dropStores, hs, if_false, hfilter]
          rw [hsame]
          refine ⟨fun _ => ⟨rfl, fun h => absurd h hwritten⟩, fun e he => ?_⟩
          simp [OpenFga.ignoreMissing, Except.mapError] at he
        · refine ⟨fun _ => ⟨?_, fun h => absurd h hwritten⟩, fun e he => ?_⟩
          · simp [PermissionWorld.without, dropStores, hs]
          · simp [OpenFga.ignoreMissing, Except.mapError] at he
      · refine ⟨fun h => ?_, fun _ _ => ⟨rfl, hun⟩⟩
        have hnot := hgone trivial
        rcases f with m | m | m | ⟨status, m⟩ | ⟨a, b⟩ | _ | m <;>
          simp [OpenFgaClientError.ofFault, OpenFga.ignoreMissing] at h
        exact absurd (by rw [h]) (hnot m)
    refine sat_map.mpr (Sat.post (sat_run_orThrow.mp hraw) fun r s h => ?_)
    rcases r with e | ⟨⟩
    · exact h
    · exact h

/-- What OpenFGA is asked for when a namespace goes. -/
theorem serves_deleteNamespace {n : String} {record : NamespaceRow}
    (hreg : w.registry.get T n = some record) :
    Serves (OpenFga.deleteNamespace T n).run (fun r w' tr' =>
      (r = .ok () → w' = w.without record ∧ (NothingWritten tr' → OpenFga.storeOf record = "")) ∧
      (∀ e, r = .error e → w' = w)) w tr := by
  refine serves_run_bind (serves_getNamespace T n) ?_ ?_
  · rintro found w' tr' ⟨⟨rfl, -⟩, hfound, -⟩
    obtain rfl := hfound found rfl
    rw [hreg]
    refine (serves_dropStore record).post ?_
    rintro r w₁ tr₁ ⟨hdrop, herr⟩
    exact ⟨hdrop, fun e he => (herr e he).1⟩
  · rintro e w' tr' ⟨⟨rfl, -⟩, -⟩
    exact ⟨fun he => by simp at he, fun _ _ => rfl⟩

/-- Both sides without the namespace. -/
theorem FgaSynced.remove (h : FgaSynced T w) {n : String} {record : NamespaceRow}
    (hreg : w.registry.get T n = some record)
    (htears : TearsDown T w.stores w.mirror.rows n (OpenFga.storeOf record)) :
    FgaSynced T { ((w.without record).deleteRows fun x => x.tenantId = T ∧ x.key.nspace = n) with
      registry := w.registry.remove T n } where
  ready := by
    refine h.ready.remove T n ?_
    simp only [PermissionWorld.deleteRows, PermissionWorld.without, dropStores]
    split
    · exact List.Sublist.refl _
    · exact List.filter_sublist
  agrees := by
    refine inStores_remove hreg h.agrees h.housed htears fun row hrow ht => ?_
    simp [ht]
  housed := housed_remove hreg h.housed fun row hrow => (List.mem_filter.mp hrow).1

theorem fga_tearDown (h : FgaSynced T w) {n : String} {ctx : RequestContext}
    (hctx : requireTenantScope ctx scopePermissionAdmin = .ok T) (hok : TearDownOk .openFga T w n) :
    Serves (deletePermissionNamespace .openFga ctx n).run (fun _ w' _ => FgaSynced T w') w [] := by
  refine serves_checked hctx (serves_run_bind (serves_backendCall (serves_getNamespace T n)) ?_ ?_)
  · rintro record w' _ ⟨hget, -⟩
    obtain ⟨⟨rfl, -⟩, hrecord, -⟩ := hget record rfl
    obtain rfl := hrecord record rfl
    rcases hreg : w'.registry.get T n with _ | record
    · exact h
    · have htears : TearsDown T w'.stores w'.mirror.rows n (OpenFga.storeOf record) := hok record hreg
      refine serves_run_bind (serves_backendCall (serves_deleteNamespace hreg)) ?_ ?_
      · rintro ⟨⟩ w₁ tr₁ ⟨hdrop, -⟩
        obtain ⟨rfl, hnothing⟩ := (hdrop () rfl).1 rfl
        refine serves_run_bind (serves_deleteRows (.deleteByNamespace T n) id id fun c => rfl) ?_ ?_
        · rintro ⟨⟩ w₂ tr₂ ⟨hrows, -⟩
          obtain ⟨hwritten, rfl⟩ := hrows rfl
          refine (serves_backendCall (serves_deleteRecord T n)).post ?_
          rintro (e | ⟨⟩) w₃ tr₃ ⟨hdel, herr⟩
          · obtain ⟨e', -, herr⟩ := herr e rfl
            exact absurd (herr e' rfl).2 hwritten
          · rw [(hdel () rfl).1 rfl]
            exact h.remove hreg htears
        · rintro e w₂ tr₂ ⟨-, herr⟩
          -- the rows can only fail to go if there was no store
          obtain ⟨rfl, hun⟩ := herr e rfl
          have hnone : w'.without record = w' := by
            simp [PermissionWorld.without, dropStores, hnothing hun]
          rw [hnone]
          exact h
      · rintro e w₁ tr₁ ⟨-, herr⟩
        obtain ⟨e', -, herr⟩ := herr e rfl
        rw [herr e' rfl]
        exact h
  · rintro e w' tr' ⟨-, herr⟩
    obtain ⟨e', ⟨rfl, -⟩, -⟩ := herr e rfl
    exact h

/-! ## Every request -/

/-- The mirror has a row for a tuple of the tenant if and only if the backend holds the tuple. -/
def MirrorsBackend (b : PermissionBackend) (T : String) (w : PermissionWorld) : Prop :=
  match b with
  | .keto => KetoAgrees T w
  | .openFga => ∀ x, Mirrored clientTupleKey T w.mirror.rows x ↔ InStores T w.registry w.stores x

/-- Mirror and backend agree, with what the registry guarantees of the stores. -/
def InSync (b : PermissionBackend) (T : String) (w : PermissionWorld) : Prop :=
  match b with
  | .keto => KetoAgrees T w
  | .openFga => FgaSynced T w

theorem InSync.mirrorsBackend {b : PermissionBackend} (h : InSync b T w) : MirrorsBackend b T w := by
  cases b with
  | keto => exact h
  | openFga => exact h.agrees

/-- The stores are such that the two sides take the request alike. -/
def PermissionRequest.Suits (b : PermissionBackend) (order : List String → List String) (T : String)
    (w : PermissionWorld) : PermissionRequest → Prop
  | .createTuple _ key => CreateOk b T w key
  | .deleteTuple _ i => DeleteOk b T w i
  | .writeTuples _ ws ds => WriteOk b order T w ws ds
  | .deleteNamespace _ n => TearDownOk b T w n
  | .ensureNamespace _ _ _ => True
  | .seed _ => True

/-- A request for the tenant whose calls fail early if at all, on stores that suit it. -/
def Careful (b : PermissionBackend) (T : String) (w : PermissionWorld) (s : PermissionStep) : Prop :=
  s.request.tenant? = some T → InOrder b w s ∧ s.request.Suits b s.order T w

/-- One of the four calls on tuples; a hash map has its keys in some order, and a tenant's id has no
colon. -/
structure PermissionStep.Proper (s : PermissionStep) : Prop where
  onTuples : s.request.OnTuples
  order : ∀ l, (s.order l).Perm l
  plain : ∀ t, s.request.tenant? = some t → ':' ∉ t.toList

/-- Requests of others leave Keto as the mirror says. -/
theorem KetoAgrees.leftAlone (h : KetoAgrees T w) (hun : LeftAlone T w w') : KetoAgrees T w' := by
  intro x
  rw [mirrored_congr hun.rows, h x]
  constructor
  · rintro ⟨hx, hT⟩
    exact ⟨(hun.tuples x hT).mpr hx, hT⟩
  · rintro ⟨hx, hT⟩
    exact ⟨(hun.tuples x hT).mp hx, hT⟩

/-- What a type resolves to depends on the tenant's part of the registry only. -/
theorem LeftAlone.getByType (hun : LeftAlone T w w') (y : String) :
    w'.registry.getByType T y = w.registry.getByType T y := by
  have hget (n : String) : w'.registry.get T n = w.registry.get T n := by
    refine Option.ext fun r => ?_
    rw [Namespaces.get_eq_some, Namespaces.get_eq_some]
    refine and_congr_left fun hof => hun.records r hof.1
  have howner : w'.registry.ownerOf T y = w.registry.ownerOf T y := by
    refine Option.ext fun n => ?_
    rw [Namespaces.ownerOf_eq_some, Namespaces.ownerOf_eq_some]
    exact hun.types _ rfl
  simp only [Namespaces.getByType, howner, hget]

theorem LeftAlone.ownStore (hun : LeftAlone T w w') (st : FgaStore) :
    OwnStore T w'.registry st ↔ OwnStore T w.registry st := by
  refine and_congr_right fun _ => exists_congr fun r => ?_
  constructor
  · rintro ⟨hr, ht, hs⟩
    exact ⟨(hun.records r ht).mp hr, ht, hs⟩
  · rintro ⟨hr, ht, hs⟩
    exact ⟨(hun.records r ht).mpr hr, ht, hs⟩

/-- Requests of others leave OpenFGA as the mirror says. -/
theorem FgaSynced.leftAlone (h : FgaSynced T w) (hun : LeftAlone T w w') : FgaSynced T w' where
  ready := {
    storeKey := hun.storeKey h.ready.storeKey
    plainName := fun r hr => h.ready.plainName r (hun.fewer r hr)
    plainType := fun x hx ht => h.ready.plainType x ((hun.types x ht).mp hx) ht
    apart := fun r hr r' hr' => h.ready.apart r (hun.fewer r hr) r' (hun.fewer r' hr') }
  agrees := by
    intro x
    rw [mirrored_congr hun.rows, h.agrees x]
    refine exists_congr fun st => ?_
    constructor
    · rintro ⟨hst, hown, hx⟩
      exact ⟨(hun.stores st hown).mpr hst, (hun.ownStore st).mpr hown, hx⟩
    · rintro ⟨hst, hown, hx⟩
      have hown := (hun.ownStore st).mp hown
      exact ⟨(hun.stores st hown).mp hst, hown, hx⟩
  housed := by
    intro row hrow ht st hst hown hx
    have hown := (hun.ownStore st).mp hown
    rw [hun.getByType]
    exact h.housed row ((hun.rows row ht).mp hrow) ht st ((hun.stores st hown).mp hst) hown hx

theorem InSync.leftAlone {b : PermissionBackend} (h : InSync b T w) (hun : LeftAlone T w w') :
    InSync b T w' := by
  cases b with
  | keto => exact KetoAgrees.leftAlone h hun
  | openFga => exact FgaSynced.leftAlone h hun

section request

variable {b : PermissionBackend} {order : List String → List String} {ctx : RequestContext}

theorem inSync_createTuple (h : InSync b T w) (horder : ∀ l, (order l).Perm l)
    {key : RelationTupleKey} (hctx : requireTenantScope ctx scopePermissionAdmin = .ok T)
    (hok : CreateOk b T w key) :
    Serves (createRelationTuple b order ctx key).run (fun _ w' _ => InSync b T w') w [] := by
  cases b with
  | keto => exact keto_create h order key hctx
  | openFga => exact fga_create h horder hctx hok

theorem inSync_deleteTuple (h : InSync b T w) (horder : ∀ l, (order l).Perm l) {i : String}
    (hctx : requireTenantScope ctx scopePermissionAdmin = .ok T) (hok : DeleteOk b T w i) :
    Serves (deleteRelationTuple b order ctx i).run (fun _ w' _ => InSync b T w') w [] := by
  cases b with
  | keto => exact keto_delete h order i hctx hok
  | openFga => exact fga_delete h horder hctx hok

theorem inSync_writeTuples (h : InSync b T w) (horder : ∀ l, (order l).Perm l)
    {ws ds : List RelationTupleKey} (hctx : checkWrite ctx ws ds = .ok T)
    (hok : WriteOk b order T w ws ds) :
    Serves (writeRelationTuples b order ctx ws ds).run (fun _ w' _ => InSync b T w') w [] := by
  cases b with
  | keto => exact keto_write h order hctx
  | openFga => exact fga_write h horder hctx hok

theorem inSync_deleteNamespace (h : InSync b T w) {n : String}
    (hctx : requireTenantScope ctx scopePermissionAdmin = .ok T) (hok : TearDownOk b T w n) :
    Serves (deletePermissionNamespace b ctx n).run (fun _ w' _ => InSync b T w') w [] := by
  cases b with
  | keto => exact keto_tearDown h hctx hok
  | openFga => exact fga_tearDown h hctx hok

theorem except_toOption_eq_some {ε α : Type} {r : Except ε α} {a : α} (h : r.toOption = some a) :
    r = .ok a := by
  rcases r with e | a'
  · simp [Except.toOption] at h
  · exact congrArg _ (Option.some.inj h)

/-- **One request** of the tenant. -/
theorem inSync_request {s : PermissionStep} (hs : s.Proper) (h : InSync b T w)
    (htenant : s.request.tenant? = some T) (hsuits : s.request.Suits b s.order T w) :
    Serves (s.program b).run (fun _ w' _ => InSync b T w') w [] := by
  obtain ⟨hon, horder, -⟩ := hs
  obtain ⟨request, order, choices⟩ := s
  cases request with
  | ensureNamespace ctx n model => exact hon.elim
  | seed t => exact hon.elim
  | createTuple ctx key =>
      exact inSync_createTuple h horder (except_toOption_eq_some htenant) hsuits
  | deleteTuple ctx i =>
      exact inSync_deleteTuple h horder (except_toOption_eq_some htenant) hsuits
  | writeTuples ctx ws ds =>
      have hserves := inSync_writeTuples h horder (except_toOption_eq_some htenant) hsuits
      show Serves ((fun _ => ()) <$> writeRelationTuples b order ctx ws ds).run _ w []
      unfold Serves
      rw [ExceptT.run_map]
      exact sat_map.mpr hserves
  | deleteNamespace ctx n =>
      exact inSync_deleteNamespace h (except_toOption_eq_some htenant) hsuits

/-- One request of any tenant. -/
theorem inSync_step {s : PermissionStep} (hT : ':' ∉ T.toList) (h : InSync b T w) (hs : s.Proper)
    (hcareful : Careful b T w s) (hstep : permissionStep b w s = some w') : InSync b T w' := by
  by_cases htenant : s.request.tenant? = some T
  · obtain ⟨horder, hsuits⟩ := hcareful htenant
    obtain ⟨_, _, hsync⟩ := (inSync_request hs h htenant hsuits).run horder hstep
    exact hsync
  · refine h.leftAlone (leftAlone_step hs.onTuples hs.order (fun t ht => ?_) hstep)
    refine ⟨fun heq => htenant (heq ▸ ht), ⟨hT, hs.plain t ht⟩, fun hb => ?_⟩
    subst hb
    exact FgaReady.storesApart (FgaSynced.ready h)

end request

/-- **The mirror agrees with the backend** in every state of a run whose requests are careful. -/
theorem mirror_agrees {b : PermissionBackend} (hT : ':' ∉ T.toList) {steps : List PermissionStep}
    (hw : InSync b T w) (hproper : ∀ s ∈ steps, s.Proper)
    (hcareful : Machine.Along (permissionStep b) (Careful b T) w steps)
    (hrun : Machine.run (permissionStep b) w steps = some w') : MirrorsBackend b T w' := by
  have hsync : InSync b T w' := by
    refine Machine.run_invariant (I := InSync b T) ?_ hw (hcareful.and_forall hproper) hrun
    rintro v s v' h ⟨hs, hcareful⟩ hstep
    exact inSync_step hT h hs hcareful hstep
  exact hsync.mirrorsBackend

/-- The key of a tuple. -/
def docsKey : RelationTupleKey := ⟨"docs", "readme", "viewer", "alice"⟩

/-- A tuple is created. -/
def tupleCreated (choices : ℕ → PermissionChoice) : PermissionStep :=
  ⟨.createTuple acmePermissionAdmin docsKey, id, choices⟩

theorem tupleCreated_proper (choices : ℕ → PermissionChoice) : (tupleCreated choices).Proper where
  onTuples := trivial
  order l := List.Perm.refl l
  plain t ht := by
    obtain rfl : "acme" = t := Option.some.inj ht
    decide

theorem blankWorld_inSync : InSync .keto "acme" blankWorld := by
  intro x
  simp [Mirrored, blankWorld, TupleMirror.empty]

theorem tupleCreated_inOrder : InOrder .keto blankWorld (tupleCreated untroubled) := by
  intro e he
  have hfault (n : ℕ) (op : PermissionCall) (w : PermissionWorld) (tr : PermissionTrace)
      (hnew : op.NewIds (untroubled n) w) : Orderly op (untroubled n) (w, tr) :=
    ⟨hnew, fun f hf => by simp [untroubled] at hf⟩
  obtain rfl | rfl : e = _ ∨ e = _ := List.mem_pair.mp he
  · exact hfault 0 _ _ _ (List.pairwise_singleton _ _)
  · exact hfault 1 _ _ _ trivial

theorem mirror_agrees_here : ∃ w,
    Machine.run (permissionStep .keto) blankWorld [tupleCreated untroubled] = some w ∧
      MirrorsBackend .keto "acme" w := by
  have hcareful : Machine.Along (permissionStep .keto) (Careful .keto "acme") blankWorld
      [tupleCreated untroubled] :=
    ⟨fun _ => ⟨tupleCreated_inOrder, trivial⟩, trivial⟩
  refine ⟨_, rfl, mirror_agrees (by decide) blankWorld_inSync (fun s hs => ?_) hcareful rfl⟩
  obtain rfl := List.mem_singleton.mp hs
  exact tupleCreated_proper untroubled

/-- The second call of a request does not reach its store. -/
def secondLost : ℕ → PermissionChoice
  | 1 => ⟨some ⟨false, .http "connection refused"⟩, 0, fun _ => ""⟩
  | n => untroubled n

/-- The mirror has a row, and Keto no tuple. -/
theorem mirror_drifts : ∃ w,
    Machine.run (permissionStep .keto) blankWorld [tupleCreated secondLost] = some w ∧
      ¬ MirrorsBackend .keto "acme" w := by
  refine ⟨_, rfl, fun h => ?_⟩
  have hrow := (h (ketoTuple "acme" docsKey)).mp ⟨⟨"i", "acme", docsKey⟩, by decide, rfl, rfl⟩
  exact absurd hrow.1 (by decide)

end SsoGateway
