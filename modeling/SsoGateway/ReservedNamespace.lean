import SsoGateway.PermissionService

/-!
# The reserved namespace

The gateway seeds the namespace `entitlements` of a tenant and resolves the object type of that name
through it. Nothing in the permission service sets the name apart: a caller with the admin scope can
publish another model under it, delete it, or index its type under a namespace of his own.

* `Reserved` — the registry of a tenant is one the seeding alone has touched there.
* `Spares` — a request does none of the three.
* `reserved_step` — such a request keeps the reservation, and a caller's leaves the record alone.
* `entitlement_namespace_reserved` — along a run of such requests.
* `namespace_redefined` — two requests that take the type over.
-/

namespace SsoGateway

open Lib Prog

/-! ## What is to hold -/

/-- Nothing but the gateway's model was published under the reserved name, with its type indexed, and
no other namespace has the type. -/
structure Reserved (tenantId : String) (R : Namespaces) : Prop where
  model : ∀ r ∈ R.records, r.IsOf tenantId entitlementNamespace → r.model = entitlementModel
  indexed : ∀ r ∈ R.records, r.IsOf tenantId entitlementNamespace →
    (⟨tenantId, entitlementNamespace, entitlementNamespace⟩ : NamespaceTypeRow) ∈ R.types
  owner : ∀ x ∈ R.types, x.tenantId = tenantId → x.type = entitlementNamespace →
    x.nspace = entitlementNamespace

/-- The model that is to be published under `n` is the one that is there already, or, under another
name, it does not take the reserved type before the gateway has seeded it. -/
def SparesEnsure (tenantId : String) (R : Namespaces) (n : String) :
    Except ServiceError (String × Value) → Prop
  | .ok (t, m) => t = tenantId →
      if n = entitlementNamespace then (R.get t n).any (fun r => r.model.same m) = true
      else entitlementNamespace ∈ relationBearingTypeNames m → (R.get t entitlementNamespace).isSome
  | .error _ => True

/-- It is not the reserved namespace that is to be deleted. -/
def SparesDelete (tenantId : String) (R : Namespaces) (n : String) :
    Except ServiceError String → Prop
  | .ok t => t = tenantId → n = entitlementNamespace → R.get t n = none
  | .error _ => True

/-- The request neither publishes another model under the reserved name, nor deletes it, nor takes
its type before the gateway has seeded it. -/
def Spares (tenantId : String) (w : PermissionWorld) (s : PermissionStep) : Prop :=
  match s.request with
  | .ensureNamespace ctx n model => SparesEnsure tenantId w.registry n (checkEnsure ctx n model)
  | .deleteNamespace ctx n =>
      SparesDelete tenantId w.registry n (requireTenantScope ctx scopePermissionAdmin)
  | _ => True

instance (T : String) (R : Namespaces) (n : String) : DecidablePred (SparesEnsure T R n)
  | .ok (t, m) => inferInstanceAs (Decidable (t = T →
      if n = entitlementNamespace then (R.get t n).any (fun r => r.model.same m) = true
      else entitlementNamespace ∈ relationBearingTypeNames m →
        (R.get t entitlementNamespace).isSome))
  | .error _ => .isTrue trivial

instance (T : String) (R : Namespaces) (n : String) : DecidablePred (SparesDelete T R n)
  | .ok t => decidable_of_iff (t = T → n = entitlementNamespace → (R.get t n).isNone)
      (by simp [SparesDelete])
  | .error _ => .isTrue trivial

instance (T : String) (w : PermissionWorld) : DecidablePred (Spares T w)
  | ⟨.ensureNamespace ctx n model, _, _⟩ =>
      inferInstanceAs (Decidable (SparesEnsure T w.registry n (checkEnsure ctx n model)))
  | ⟨.deleteNamespace ctx n, _, _⟩ => inferInstanceAs
      (Decidable (SparesDelete T w.registry n (requireTenantScope ctx scopePermissionAdmin)))
  | ⟨.createTuple _ _, _, _⟩ => .isTrue trivial
  | ⟨.deleteTuple _ _, _, _⟩ => .isTrue trivial
  | ⟨.writeTuples _ _ _, _, _⟩ => .isTrue trivial
  | ⟨.seed _, _, _⟩ => .isTrue trivial

/-- The request is one of a caller. -/
def FromCaller (s : PermissionStep) : Prop :=
  match s.request with
  | .seed _ => False
  | _ => True

instance : DecidablePred FromCaller
  | ⟨.seed _, _, _⟩ => .isFalse id
  | ⟨.ensureNamespace _ _ _, _, _⟩ => .isTrue trivial
  | ⟨.deleteNamespace _ _, _, _⟩ => .isTrue trivial
  | ⟨.createTuple _ _, _, _⟩ => .isTrue trivial
  | ⟨.deleteTuple _ _, _, _⟩ => .isTrue trivial
  | ⟨.writeTuples _ _ _, _, _⟩ => .isTrue trivial

/-! ## Writes of the registry -/

variable {T : String}

/-- The type of the seeded model. -/
theorem relationBearing_entitlementModel :
    relationBearingTypeNames entitlementModel = [entitlementNamespace] := by
  decide

/-- What a registry answers depends on the rows of the namespace only. -/
theorem Namespaces.get_congr {R R' : Namespaces} {t n : String}
    (h : ∀ r, r.IsOf t n → (r ∈ R'.records ↔ r ∈ R.records)) : R'.get t n = R.get t n := by
  refine Option.ext fun r => ?_
  simp only [Namespaces.get_eq_some]
  constructor
  · rintro ⟨hr, hof⟩
    exact ⟨(h r hof).mp hr, hof⟩
  · rintro ⟨hr, hof⟩
    exact ⟨(h r hof).mpr hr, hof⟩

namespace Reserved

variable {R R' : Namespaces}

/-- A deletion of another namespace. -/
theorem remove (h : Reserved T R) {t n : String} (hne : ¬ (t = T ∧ n = entitlementNamespace)) :
    Reserved T (R.remove t n) ∧
      (R.remove t n).get T entitlementNamespace = R.get T entitlementNamespace := by
  have hof {r : NamespaceRow} (hr : r.IsOf T entitlementNamespace) : ¬ r.IsOf t n := by
    rintro ⟨rfl, rfl⟩
    exact hne hr
  refine ⟨⟨fun r hr => ?_, fun r hr hrT => ?_, fun x hx => ?_⟩, Namespaces.get_congr fun r hr => ?_⟩
  · exact h.model r (List.mem_filter.mp hr).1
  · have hx := h.indexed r (List.mem_filter.mp hr).1 hrT
    refine List.mem_filter.mpr ⟨hx, decide_eq_true fun hxn => hne ?_⟩
    exact ⟨hxn.1.symm, hxn.2.symm⟩
  · exact h.owner x (List.mem_filter.mp hx).1
  · simp [Namespaces.remove, hof hr]

/-- The gateway's own upsert. -/
theorem upsert_seed (h : Reserved T R) {q : UpsertRequest} {now : ℤ} (ht : q.tenantId = T)
    (hn : q.nspace = entitlementNamespace) (hm : q.model = entitlementModel)
    (hok : R.upsert q now = .ok R') : Reserved T R' := by
  obtain ⟨-, hrecords, htypes⟩ := Namespaces.upsert_ok hok
  have hindex : q.indexTypes = [entitlementNamespace] := by
    simp [UpsertRequest.indexTypes, hm, relationBearing_entitlementModel]
  refine ⟨fun r hr hof => ?_, fun r hr hof => ?_, fun x hx hxT hxE => ?_⟩
  · rcases (hrecords r).mp hr with rfl | ⟨-, hother⟩
    · simp [hm]
    · exact absurd ⟨hof.1.trans ht.symm, hof.2.trans hn.symm⟩ hother
  · exact (htypes _).mpr (.inl ⟨⟨ht.symm, hn.symm⟩, by simp [hindex]⟩)
  · rcases (htypes x).mp hx with ⟨hof, -⟩ | ⟨hx, -⟩
    · exact hof.2.trans hn
    · exact h.owner x hx hxT hxE

/-- An upsert of another namespace: its type is its own, or it is refused. -/
theorem upsert_other (h : Reserved T R) {q : UpsertRequest} {now : ℤ}
    (hne : ¬ (q.tenantId = T ∧ q.nspace = entitlementNamespace))
    (htype : q.tenantId = T → entitlementNamespace ∈ q.indexTypes →
      (R.get T entitlementNamespace).isSome) (hok : R.upsert q now = .ok R') :
    Reserved T R' ∧ R'.get T entitlementNamespace = R.get T entitlementNamespace := by
  obtain ⟨hfree, hrecords, htypes⟩ := Namespaces.upsert_ok hok
  have hkept {r : NamespaceRow} (hof : r.IsOf T entitlementNamespace) :
      r ∈ R'.records ↔ r ∈ R.records := by
    have hother : ¬ r.IsOf q.tenantId q.nspace := by
      intro hr
      exact hne ⟨hr.1.symm.trans hof.1, hr.2.symm.trans hof.2⟩
    rw [hrecords r]
    constructor
    · rintro (rfl | ⟨hr, -⟩)
      · exact absurd (Namespaces.mergedRow_isOf now) hother
      · exact hr
    · intro hr
      exact .inr ⟨hr, hother⟩
  refine ⟨⟨fun r hr hof => ?_, fun r hr hof => ?_, fun x hx hxT hxE => ?_⟩,
    Namespaces.get_congr fun r hof => hkept hof⟩
  · exact h.model r ((hkept hof).mp hr) hof
  · have hx := h.indexed r ((hkept hof).mp hr) hof
    refine (htypes _).mpr (.inr ⟨hx, fun hxq => hne ?_⟩)
    exact ⟨hxq.1.symm, hxq.2.symm⟩
  · rcases (htypes x).mp hx with ⟨hof, hindex⟩ | ⟨hx, -⟩
    · -- the type is taken already, so that the upsert would have been refused
      have hqT : q.tenantId = T := hof.1.symm.trans hxT
      obtain ⟨r, hr⟩ := Option.isSome_iff_exists.mp (htype hqT (hxE ▸ hindex))
      obtain ⟨hr, hrT⟩ := Namespaces.get_eq_some.mp hr
      have htaken := hfree _ (h.indexed r hr hrT) hqT.symm (hxE ▸ hindex)
      exact absurd ⟨hqT, htaken.symm⟩ hne
    · exact h.owner x hx hxT hxE

end Reserved

/-! ## Calls -/

/-- What a call does to the registry: an upsert of `U`, a deletion of `D`, or nothing. -/
def Registers (U : UpsertRequest → Prop) (D : String → String → Prop) : PermissionCall → Prop
  | .upsertNamespace q => U q
  | .deleteNamespace t n => D t n
  | _ => True

variable {U : UpsertRequest → Prop} {D : String → String → Prop}

theorem calls_registryCall {α : Type} {p : Prog PermissionStoreSig (Except DbError α)}
    (hp : p.Calls (Registers U D)) : (registryCall p).run.Calls (Registers U D) :=
  calls_run_orThrow hp

theorem calls_resolveMapping (t n : String) :
    (OpenFga.resolveMapping t n).run.Calls (Registers U D) := by
  refine calls_run_bind (calls_registryCall (calls_perform trivial)) fun record => ?_
  exact calls_pure

theorem calls_resolveAll (t : String) (keys : List RelationTupleKey)
    (records : List (String × NamespaceRow)) :
    (keys.foldlM (OpenFga.resolveInto t) records).run.Calls (Registers U D) := by
  induction keys generalizing records with
  | nil => exact calls_pure
  | cons key keys ih =>
      rw [List.foldlM_cons]
      refine calls_run_bind ?_ ih
      unfold OpenFga.resolveInto
      split
      · exact calls_pure
      · exact calls_run_bind (calls_resolveMapping t key.nspace) fun record => calls_pure

theorem calls_openFga_writeTuples (order : List String → List String) (t : String)
    (ws ds : List RelationTupleKey) :
    (OpenFga.writeTuples order t ws ds).run.Calls (Registers U D) := by
  refine calls_run_bind (calls_resolveAll t _ []) fun records => ?_
  exact calls_run_forM fun s _ => calls_run_orThrow (calls_perform trivial)

theorem calls_keto_writeTuples (t : String) (ws ds : List RelationTupleKey) :
    (Keto.writeTuples t ws ds).run.Calls (Registers U D) := by
  refine calls_run_bind (calls_run_forM fun k _ => ?_) fun _ => calls_run_forM fun k _ => ?_
  · exact calls_run_orThrow (calls_perform trivial)
  · exact calls_run_orThrow (calls_perform trivial)

/-- The tuples of a backend are written without the registry. -/
theorem calls_backend_writes (b : PermissionBackend) (order : List String → List String) (t : String)
    (ws ds : List RelationTupleKey) (key : RelationTupleKey) :
    (b.writeTuples order t ws ds).run.Calls (Registers U D) ∧
      (b.createRelationTuple order t key).run.Calls (Registers U D) ∧
      (b.deleteRelationTuple order t key).run.Calls (Registers U D) := by
  rcases b with _ | _
  · exact ⟨calls_keto_writeTuples t ws ds, calls_run_orThrow (calls_perform trivial),
      calls_run_orThrow (calls_perform trivial)⟩
  · exact ⟨calls_openFga_writeTuples order t ws ds, calls_openFga_writeTuples order t [key] [],
      calls_openFga_writeTuples order t [] [key]⟩

theorem calls_ensureModel (b : PermissionBackend) {t n : String} {m : Value}
    (hU : ∀ s i, U ⟨t, n, m, s, i⟩) : (b.ensureModel t n m).run.Calls (Registers U D) := by
  have hpublish (s : String) : (OpenFga.publish t n m s).run.Calls (Registers U D) := by
    refine calls_run_bind (calls_run_orThrow (calls_perform trivial)) fun i => ?_
    exact calls_run_bind (calls_registryCall (calls_perform (hU _ _))) fun _ => calls_pure
  have hadopt : (OpenFga.adoptStore t n).run.Calls (Registers U D) := by
    refine calls_run_bind (calls_run_orThrow (calls_perform trivial)) fun found => ?_
    rcases found with _ | s
    · exact calls_run_orThrow (calls_perform trivial)
    · exact calls_pure
  rcases b with _ | _
  · exact calls_pure
  refine calls_run_bind (calls_registryCall (calls_perform trivial)) fun existing => ?_
  rcases existing with _ | record
  · exact calls_run_bind hadopt hpublish
  · simp only [OpenFga.converge]
    split
    · split
      · exact calls_pure
      · exact hpublish _
    · exact calls_run_bind hadopt hpublish

theorem calls_registerModel (b : PermissionBackend) {t n : String} {m : Value}
    (hU : ∀ s i, U ⟨t, n, m, s, i⟩) (current : Option NamespaceRow) :
    (registerModel b t n m current).run.Calls (Registers U D) := by
  unfold registerModel
  split
  · exact calls_pure
  · refine calls_run_bind (calls_run_orThrow (calls_ensureModel b hU)) fun _ => ?_
    exact calls_run_orThrow (calls_registryCall (calls_perform (hU _ _)))

theorem calls_deleteNamespace (b : PermissionBackend) (t n : String) :
    (b.deleteNamespace t n).run.Calls (Registers U D) := by
  rcases b with _ | _
  · exact calls_pure
  refine calls_run_bind (calls_registryCall (calls_perform trivial)) fun existing => ?_
  rcases existing with _ | record
  · exact calls_pure
  · simp only [OpenFga.dropStore]
    split
    · exact calls_pure
    · exact calls_map (calls_perform trivial)

theorem calls_tearDown (b : PermissionBackend) {t n : String} (hD : D t n)
    (current : Option NamespaceRow) : (tearDown b t n current).run.Calls (Registers U D) := by
  rcases current with _ | record
  · exact calls_pure
  refine calls_run_bind (calls_run_orThrow (calls_deleteNamespace b t n)) fun _ => ?_
  refine calls_run_bind (calls_run_orThrow (calls_perform trivial)) fun _ => ?_
  exact calls_run_orThrow (calls_registryCall (calls_perform hD))

/-! ## One request -/

/-- What a caller may do to the registry next to a record of the reserved namespace. -/
def SparesRecord (T : String) (record : Option NamespaceRow) (q : UpsertRequest) : Prop :=
  ¬ (q.tenantId = T ∧ q.nspace = entitlementNamespace) ∧
    (q.tenantId = T → entitlementNamespace ∈ q.indexTypes → record.isSome)

/-- The reservation, next to the record. -/
def KeepsRecord (T : String) (record : Option NamespaceRow) (R : Namespaces) : Prop :=
  Reserved T R ∧ R.get T entitlementNamespace = record

/-- A call that spares the record keeps it. -/
theorem keepsRecord_call {record : Option NamespaceRow} {op : PermissionCall} {c : PermissionChoice}
    {w : PermissionWorld}
    (hop : Registers (SparesRecord T record) (fun t n => ¬ (t = T ∧ n = entitlementNamespace)) op)
    (hw : KeepsRecord T record w.registry) :
    KeepsRecord T record (permissionStores op c w).2.registry := by
  by_cases hwrite : op.OnRegistry
  · rcases permissionStores_snd op c w with h | h
    · rw [h]
      exact hw
    rw [h]
    obtain ⟨hreserved, rfl⟩ := hw
    cases op with
    | upsertNamespace q =>
        show KeepsRecord T _ (w.upsertNamespace q c.now).2.registry
        unfold PermissionWorld.upsertNamespace
        split
        · rename_i R hR
          exact hreserved.upsert_other hop.1 hop.2 hR
        · exact ⟨hreserved, rfl⟩
    | deleteNamespace t n => exact hreserved.remove hop
    | _ => exact absurd hwrite id
  · rw [permissionStores_registry hwrite]
    exact hw

/-- A call of the gateway's seeding keeps the reservation. -/
theorem reserved_call {op : PermissionCall} {c : PermissionChoice} {w : PermissionWorld} {t : String}
    (hop : Registers (fun q => q.tenantId = t ∧ q.nspace = entitlementNamespace ∧
      q.model = entitlementModel) (fun _ _ => False) op) (hw : Reserved T w.registry) :
    Reserved T (permissionStores op c w).2.registry := by
  by_cases hwrite : op.OnRegistry
  · rcases permissionStores_snd op c w with h | h
    · rw [h]
      exact hw
    rw [h]
    cases op with
    | upsertNamespace q =>
        obtain ⟨rfl, hn, hm⟩ := hop
        show Reserved T (w.upsertNamespace q c.now).2.registry
        unfold PermissionWorld.upsertNamespace
        split
        · rename_i R hR
          by_cases ht : q.tenantId = T
          · exact hw.upsert_seed ht hn hm hR
          · exact (hw.upsert_other (fun h => ht h.1) (fun h => absurd h ht) hR).1
        · exact hw
    | deleteNamespace t n => exact hop.elim
    | _ => exact absurd hwrite id
  · rw [permissionStores_registry hwrite]
    exact hw

/-- The contract of a request that is served on its own, of which nothing is asked. -/
def alone : Contract PermissionStoreSig PermissionChoice PermissionWorld :=
  Contract.alone (fun _ _ _ => True) fun _ _ _ => True

/-- A request all of whose calls spare the record keeps it. -/
theorem keepsRecord_calls {α : Type} {record : Option NamespaceRow} {p : Prog PermissionStoreSig α}
    (hp : p.Calls (Registers (SparesRecord T record)
      fun t n => ¬ (t = T ∧ n = entitlementNamespace)))
    {w : PermissionWorld} (hw : KeepsRecord T record w.registry) :
    p.Sat permissionStores alone (fun _ w => KeepsRecord T record w.registry) w := by
  refine hp.sat (fun w w' hw hww' => ?_) (fun op c w hop hw _ => ⟨trivial, ?_⟩) hw
  · obtain rfl : w = w' := hww'
    exact hw
  · exact keepsRecord_call hop hw

/-- A reading call answers what the world says, or an error, and changes nothing. -/
theorem sat_getNamespace {t n : String} {w : PermissionWorld}
    {Q : Except DbError (Option NamespaceRow) → PermissionWorld → Prop}
    (hok : Q (.ok (w.registry.get t n)) w) (herr : ∀ e, Q (.error e) w) :
    (Prog.perform (S := PermissionStoreSig) (.getNamespace t n)).Sat permissionStores alone Q w := by
  intro w' hw c _
  obtain rfl : w = w' := hw
  refine ⟨trivial, ?_⟩
  show Q (permissionStores (.getNamespace t n) c w).1 (permissionStores (.getNamespace t n) c w).2
  rcases hf : c.fault with _ | f
  · simpa [permissionStores, hf] using hok
  · simpa [permissionStores, hf, Fault.answer] using herr _

/-- A caller's request that spares the reservation leaves the record alone. -/
theorem keepsRecord_request (b : PermissionBackend) {s : PermissionStep} {w : PermissionWorld}
    (hcaller : FromCaller s) (hspares : Spares T w s) (hw : Reserved T w.registry) :
    (s.program b).run.Sat permissionStores alone
      (fun _ w' => KeepsRecord T (w.registry.get T entitlementNamespace) w'.registry) w := by
  have hkeep : KeepsRecord T (w.registry.get T entitlementNamespace) w.registry := ⟨hw, rfl⟩
  obtain ⟨request, order, choices⟩ := s
  rcases request with ⟨ctx, n, model⟩ | ⟨ctx, n⟩ | ⟨ctx, key⟩ | ⟨ctx, i⟩ | ⟨ctx, ws, ds⟩ | t
  · -- a model is published
    simp only [PermissionStep.program, ensurePermissionNamespace, ExceptT.run_map, sat_map]
    rw [sat_run_bind, sat_run_mk]
    rcases hcheck : checkEnsure ctx n model with e | ⟨t, m⟩
    · exact hkeep
    simp only [Spares, hcheck] at hspares
    by_cases hown : t = T ∧ n = entitlementNamespace
    · -- under the reserved name: it is the model that is registered
      obtain ⟨rfl, rfl⟩ := hown
      have hsame := hspares rfl
      rw [if_pos rfl] at hsame
      refine sat_run_bind.mpr (sat_run_orThrow.mpr (sat_run_orThrow.mpr (sat_getNamespace ?_ fun e => hkeep)))
      simpa [Except.mapError, registerModel, hsame] using hkeep
    · refine keepsRecord_calls (calls_run_bind (calls_run_orThrow (calls_registryCall
        (calls_perform trivial))) fun current => calls_registerModel b (fun i j => ?_) current) hkeep
      refine ⟨hown, fun ht hindex => ?_⟩
      obtain rfl : t = T := ht
      have hn : n ≠ entitlementNamespace := fun hn => hown ⟨rfl, hn⟩
      have htype := hspares rfl
      rw [if_neg hn] at htype
      exact htype hindex
  · -- a namespace is deleted
    simp only [PermissionStep.program, deletePermissionNamespace]
    rw [sat_run_bind, sat_run_mk]
    rcases hcheck : requireTenantScope ctx scopePermissionAdmin with e | t
    · exact hkeep
    simp only [Spares, hcheck] at hspares
    by_cases hown : t = T ∧ n = entitlementNamespace
    · obtain ⟨rfl, rfl⟩ := hown
      have hnone := hspares rfl rfl
      refine sat_run_bind.mpr (sat_run_orThrow.mpr (sat_run_orThrow.mpr
        (sat_getNamespace ?_ fun e => hkeep)))
      rw [hnone] at hkeep ⊢
      exact hkeep
    · exact keepsRecord_calls (calls_run_bind (calls_run_orThrow (calls_registryCall
        (calls_perform trivial))) fun current => calls_tearDown b hown current) hkeep
  · refine keepsRecord_calls (calls_run_bind calls_pure fun t => ?_) hkeep
    refine calls_run_bind (calls_run_orThrow (calls_perform trivial)) fun _ => ?_
    exact calls_run_orThrow (calls_backend_writes b order t [] [] key).2.1
  · refine keepsRecord_calls (calls_run_bind calls_pure fun t => ?_) hkeep
    refine calls_run_bind (calls_run_orThrow (calls_perform trivial)) fun row => ?_
    refine calls_run_bind (calls_run_orThrow (calls_backend_writes b order t [] [] row.key).2.2) ?_
    exact fun _ => calls_run_orThrow (calls_perform trivial)
  · simp only [PermissionStep.program, writeRelationTuples, ExceptT.run_map]
    refine keepsRecord_calls (calls_map (calls_run_bind calls_pure fun t => ?_)) hkeep
    refine calls_run_bind (calls_run_orThrow
      (calls_backend_writes b order t ws ds ⟨"", "", "", ""⟩).1) fun _ => ?_
    refine calls_run_bind ?_ fun _ => calls_pure
    unfold mirrorBatch
    split
    · refine calls_run_bind (calls_run_orThrow (calls_perform trivial)) fun _ => ?_
      exact calls_run_forM fun k _ => calls_run_orThrow (calls_perform trivial)
    · exact calls_run_forM fun k _ => calls_run_orThrow (calls_perform trivial)
  · exact hcaller.elim

/-- Any request that spares the reservation keeps it. -/
theorem reserved_step (b : PermissionBackend) {s : PermissionStep} {w w' : PermissionWorld}
    (hw : Reserved T w.registry) (hspares : Spares T w s) (hstep : permissionStep b w s = some w') :
    Reserved T w'.registry := by
  obtain rfl := Option.some.inj hstep
  by_cases hcaller : FromCaller s
  · have hsat := keepsRecord_request b hcaller hspares hw
    exact (hsat.run_of_choices fun _ _ _ => trivial).1
  · obtain ⟨request, order, choices⟩ := s
    rcases request with _ | _ | _ | _ | _ | t
    all_goals try exact absurd trivial hcaller
    have hcalls : (seedNamespace b t).run.Calls (Registers (fun q => q.tenantId = t ∧
        q.nspace = entitlementNamespace ∧ q.model = entitlementModel) fun _ _ => False) :=
      calls_run_orThrow (calls_ensureModel b fun _ _ => ⟨rfl, rfl, rfl⟩)
    have hsat : (seedNamespace b t).run.Sat permissionStores alone
        (fun _ w => Reserved T w.registry) w := by
      refine hcalls.sat (fun w w' hw hww' => ?_) (fun op c w hop hw _ => ⟨trivial, ?_⟩) hw
      · obtain rfl : w = w' := hww'
        exact hw
      · exact reserved_call hop hw
    exact hsat.run_of_choices fun _ _ _ => trivial

/-! ## Runs -/

/-- A caller's request that spares the reservation. -/
theorem keepsRecord_step (b : PermissionBackend) {record : Option NamespaceRow} {s : PermissionStep}
    {w w' : PermissionWorld} (hw : KeepsRecord T record w.registry)
    (hs : Spares T w s ∧ FromCaller s) (hstep : permissionStep b w s = some w') :
    KeepsRecord T record w'.registry := by
  obtain rfl := Option.some.inj hstep
  obtain ⟨hreserved, rfl⟩ := hw
  exact (keepsRecord_request b hs.2 hs.1 hreserved).run_of_choices fun _ _ _ => trivial

/-- Nothing of a fresh tenant is registered. -/
theorem reserved_fresh {R : Namespaces} (h : ∀ r ∈ R.records, r.tenantId ≠ T) : Reserved T R where
  model := fun r hr hof => absurd hof.1 (h r hr)
  indexed := fun r hr hof => absurd hof.1 (h r hr)
  owner := fun x hx hxT _ => by
    obtain ⟨r, hr, hof⟩ := R.typeRecord x hx
    exact absurd (hof.1.trans hxT) (h r hr)

/-- The type of a reserved record is resolved through it. -/
theorem Reserved.getByType {R : Namespaces} (h : Reserved T R) :
    R.getByType T entitlementNamespace = R.get T entitlementNamespace ∧
      ∀ n, R.ownerOf T entitlementNamespace = some n → n = entitlementNamespace := by
  have howner (n : String) (hn : R.ownerOf T entitlementNamespace = some n) :
      n = entitlementNamespace := h.owner _ (Namespaces.ownerOf_eq_some.mp hn) rfl rfl
  refine ⟨?_, howner⟩
  unfold Namespaces.getByType
  rcases hn : R.ownerOf T entitlementNamespace with _ | n
  · rfl
  · obtain rfl := howner n hn
    rcases hr : R.get T entitlementNamespace with _ | r
    · simp [hr]
    · simp [hr]

/-- **The reserved namespace is untouchable** as long as no caller publishes another model under it,
deletes it, or takes its type before it is seeded: whatever was seeded along `as` has the gateway's
model, stays as it is along the callers' requests `bs`, and has the type to itself. -/
theorem entitlement_namespace_reserved (b : PermissionBackend) {w w' w'' : PermissionWorld}
    {as bs : List PermissionStep} (hfresh : ∀ r ∈ w.registry.records, r.tenantId ≠ T)
    (has : Machine.Along (permissionStep b) (Spares T) w as)
    (hrun : Machine.run (permissionStep b) w as = some w')
    (hbs : Machine.Along (permissionStep b) (fun w s => Spares T w s ∧ FromCaller s) w' bs)
    (hrun' : Machine.run (permissionStep b) w' bs = some w'') :
    (∀ r, w'.registry.get T entitlementNamespace = some r → r.model = entitlementModel ∧
      w''.registry.get T entitlementNamespace = some r ∧
      w''.registry.getByType T entitlementNamespace = some r ∧
      w''.registry.ownerOf T entitlementNamespace = some entitlementNamespace) ∧
    ∀ n, w''.registry.ownerOf T entitlementNamespace = some n → n = entitlementNamespace := by
  have hseeded : Reserved T w'.registry :=
    Machine.run_invariant (I := fun w => Reserved T w.registry)
      (fun w s w' hw hs hstep => reserved_step b hw hs hstep) (reserved_fresh hfresh) has hrun
  obtain ⟨hend, hkept⟩ : KeepsRecord T (w'.registry.get T entitlementNamespace) w''.registry :=
    Machine.run_invariant
      (I := fun w => KeepsRecord T (w'.registry.get T entitlementNamespace) w.registry)
      (fun w s w' hw hs hstep => keepsRecord_step b hw hs hstep) ⟨hseeded, rfl⟩ hbs hrun'
  refine ⟨fun r hr => ?_, hend.getByType.2⟩
  obtain ⟨hmem, hof⟩ := Namespaces.get_eq_some.mp hr
  have hr' : w''.registry.get T entitlementNamespace = some r := hkept.trans hr
  obtain ⟨hmem', hof'⟩ := Namespaces.get_eq_some.mp hr'
  refine ⟨hseeded.model r hmem hof, hr', hend.getByType.1.trans hr', ?_⟩
  exact Namespaces.ownerOf_eq_some.mpr (hend.indexed r hmem' hof')

/-! ### Two runs -/

/-- Nothing is registered, mirrored or stored. -/
def blankWorld : PermissionWorld := ⟨.empty, .empty, [], []⟩

/-- No call fails; every call generates an id of its own. -/
def untroubled : ℕ → PermissionChoice :=
  fun n => ⟨none, n, fun _ => String.ofList (List.replicate (n + 1) 'i')⟩

/-- A request that is served without a fault. -/
def served (request : PermissionRequest) : PermissionStep := ⟨request, id, untroubled⟩

/-- A caller of the tenant with the admin scope of the service. -/
def acmePermissionAdmin : RequestContext :=
  ⟨some "acme", some ⟨"acme", "alice", .user, ["permission:admin"]⟩⟩

/-- A model with one object type. -/
def modelOfType (type : String) : Value :=
  .obj [("schema_version", .str "1.1"), ("type_definitions", .arr [.obj [("type", .str type),
    ("relations", .obj [("viewer", .obj [("this", .obj [])])])]])]

/-- The gateway seeds the tenant. -/
def seeding : List PermissionStep := [served (.seed "acme")]

/-- A namespace of the caller's own comes and goes. -/
def harmless : List PermissionStep :=
  [served (.ensureNamespace acmePermissionAdmin "docs" (modelOfType "doc")),
    served (.deleteNamespace acmePermissionAdmin "docs")]

/-- A model without the type is published under the reserved name, and one with it under another. -/
def takeover : List PermissionStep :=
  [served (.ensureNamespace acmePermissionAdmin "entitlements" (modelOfType "doc")),
    served (.ensureNamespace acmePermissionAdmin "mine" (modelOfType "entitlements"))]

/-- The stores after the seeding. -/
def seededWorld : PermissionWorld :=
  ((seedNamespace .openFga "acme").run.run permissionStores untroubled blankWorld).2

theorem entitlement_namespace_reserved_here : ∃ w,
    Machine.run (permissionStep .openFga) seededWorld harmless = some w ∧
    ∀ n, w.registry.ownerOf "acme" entitlementNamespace = some n → n = entitlementNamespace := by
  have hseeding : Machine.run (permissionStep .openFga) blankWorld seeding = some seededWorld := rfl
  have hharmless : Machine.Along (permissionStep .openFga)
      (fun w s => Spares "acme" w s ∧ FromCaller s) seededWorld harmless := by decide
  have hspared : Machine.Along (permissionStep .openFga) (Spares "acme") blankWorld seeding :=
    ⟨trivial, trivial⟩
  exact ⟨_, rfl, (entitlement_namespace_reserved .openFga (by simp [blankWorld, Namespaces.empty])
    hspared hseeding hharmless rfl).2⟩

/-- The type that resolved to the gateway's namespace resolves to the caller's. -/
theorem namespace_redefined : ∃ w, Machine.run (permissionStep .openFga) seededWorld takeover = some w ∧
    (seededWorld.registry.getByType "acme" entitlementNamespace).map (·.nspace) =
      some "entitlements" ∧
    (w.registry.get "acme" entitlementNamespace).map (·.model.same entitlementModel) = some false ∧
    (w.registry.getByType "acme" entitlementNamespace).map (·.nspace) = some "mine" :=
  ⟨_, rfl, rfl, rfl, rfl⟩

end SsoGateway
