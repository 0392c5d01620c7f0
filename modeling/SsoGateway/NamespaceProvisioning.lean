import SsoGateway.Lib.History
import SsoGateway.Lib.Machine
import SsoGateway.Lib.Straight
import SsoGateway.ModelNormalForm

/-!
# The stores of the namespaces

What a history of ensured namespaces leaves, whatever has failed on the way: every registered namespace
points to the one store of its name and to a model that was published there.

* `RecordSound`, `RegistrySound` — what holds of a record, and of the registry; `Grown` — what a call leaves
  in place.
* `registrySound_upsert` — an upsert of a sound record; `sat_adoptStore`, `sat_publish`, `sat_ensureModel`,
  `sat_registerModel` — the methods.
* `recordedStep` — a request, in a state that has the calls so far.
* `ensure_sound` — after any history, a namespace that is ensured resolves to its store and model, stores
  are kept, and none is created twice.

Source: `services/permission.rs` `ensure_permission_namespace`, `ensure_model`, `resolve_mapping`,
`db/permission_namespace.rs` `upsert`.
-/

namespace SsoGateway

open Lib

/-- A state of the stores with the calls so far, newest first. -/
abbrev RecordedWorld := PermissionWorld × List PermissionEvent

/-! ## Records -/

/-- The model was published to the store under that id. -/
def Written (past : List PermissionEvent) (storeId : String) (model : Value) (modelId : String) : Prop :=
  ∃ c w, (⟨.writeModel storeId model, c, w⟩ : PermissionEvent) ∈ past ∧
    (permissionStores (.writeModel storeId model) c w).1 = .ok modelId

/-- Source: the name of a store. -/
def storeName (tenantId nspace : String) : String := tenantId ++ "-" ++ nspace

/-- The store that a name stands for. -/
def storeNamed (s : RecordedWorld) (name : String) : Option FgaStore := s.1.stores.find? fun st => st.name = name

/-- The record points to the store of its name, and to a model published there. -/
structure RecordSound (s : RecordedWorld) (r : NamespaceRow) : Prop where
  store : ∃ st, storeNamed s (storeName r.tenantId r.nspace) = some st ∧ r.storeId = some st.id
  model : ∃ storeId modelId, r.storeId = some storeId ∧ r.modelId = some modelId ∧ modelId ≠ "" ∧
    Written s.2 storeId r.model modelId
  wellFormed : r.model.wellFormed = true

/-- What holds after any history of ensured namespaces. -/
structure RegistrySound (s : RecordedWorld) : Prop where
  consistent : s.1.registry.Consistent
  records : ∀ r ∈ s.1.registry.records, RecordSound s r
  ids : ∀ st ∈ s.1.stores, st.id ≠ ""

/-- Calls are remembered, names stand for the stores they stood for, and records point to them. -/
structure Grown (s s' : RecordedWorld) : Prop where
  past : ∀ ev ∈ s.2, ev ∈ s'.2
  stores : ∀ name st, storeNamed s name = some st → storeNamed s' name = some st
  kept : ∀ t n r, s.1.registry.get t n = some r →
    ∃ r', s'.1.registry.get t n = some r' ∧ r'.storeId = r.storeId

section grown

variable {s s' s'' : RecordedWorld} {r : NamespaceRow}

theorem Grown.trans (h : Grown s s') (h' : Grown s' s'') : Grown s s'' where
  past ev hev := h'.past ev (h.past ev hev)
  stores name st hst := h'.stores name st (h.stores name st hst)
  kept t n r hr := by
    obtain ⟨r', hr', hstore⟩ := h.kept t n r hr
    obtain ⟨r'', hr'', hstore'⟩ := h'.kept t n r' hr'
    exact ⟨r'', hr'', hstore'.trans hstore⟩

theorem RecordSound.grown (h : RecordSound s r) (hgrown : Grown s s') : RecordSound s' r where
  store := by
    obtain ⟨st, hst, hid⟩ := h.store
    exact ⟨st, hgrown.stores _ st hst, hid⟩
  model := by
    obtain ⟨storeId, modelId, hstore, hmodel, hne, c, w, hev, hres⟩ := h.model
    exact ⟨storeId, modelId, hstore, hmodel, hne, c, w, hgrown.past _ hev, hres⟩
  wellFormed := h.wellFormed

/-- A registered namespace has a store. -/
theorem RegistrySound.storeOf_ne (h : RegistrySound s) {t n : String} (hr : s.1.registry.get t n = some r) :
    OpenFga.storeOf r ≠ "" := by
  obtain ⟨st, hst, hid⟩ := (h.records r (Namespaces.get_eq_some.mp hr).1).store
  rw [OpenFga.storeOf, hid, Option.getD_some]
  exact h.ids st (List.mem_of_find?_eq_some hst)

/-- A call that changes nothing is remembered. -/
theorem grown_remember (w : PermissionWorld) (past : List PermissionEvent) (ev : PermissionEvent) :
    Grown (w, past) (w, ev :: past) :=
  ⟨fun _ => List.mem_cons_of_mem ev, fun _ _ hst => hst, fun _ _ r hr => ⟨r, hr, rfl⟩⟩

theorem RegistrySound.remember {w : PermissionWorld} {past : List PermissionEvent}
    (h : RegistrySound (w, past)) (ev : PermissionEvent) : RegistrySound (w, ev :: past) :=
  ⟨h.consistent, fun r hr => (h.records r hr).grown (grown_remember w past ev), h.ids⟩

end grown

/-! ## Writes of the registry and the stores -/

/-- The index after an upsert is that of the models. -/
theorem consistent_upsert {R R' : Namespaces} {q : UpsertRequest} {now : ℤ} (hR : R.Consistent)
    (h : R.upsert q now = .ok R') : R'.Consistent := by
  obtain ⟨-, hrecords, htypes⟩ := Namespaces.upsert_ok h
  intro r hr type
  rw [htypes]
  rcases (hrecords r).mp hr with rfl | ⟨hr, hother⟩
  · have hof := Namespaces.mergedRow_isOf (R := R) (q := q) now
    rw [Namespaces.mergedRow_model]
    constructor
    · rintro (⟨-, htype⟩ | ⟨-, hnot⟩)
      · exact htype
      · exact absurd hof hnot
    · intro htype
      exact .inl ⟨hof, htype⟩
  · constructor
    · rintro (⟨hof, -⟩ | ⟨hx, -⟩)
      · exact absurd hof hother
      · exact (hR r hr type).mp hx
    · intro htype
      exact .inr ⟨(hR r hr type).mpr htype, hother⟩

/-- What the registry answers after an upsert. -/
theorem get_upsert {R R' : Namespaces} {q : UpsertRequest} {now : ℤ} (h : R.upsert q now = .ok R')
    (t n : String) : R'.get t n =
      if q.tenantId = t ∧ q.nspace = n then some (R.mergedRow q now) else R.get t n := by
  obtain ⟨-, hrecords, -⟩ := Namespaces.upsert_ok h
  split
  · rename_i hof
    obtain ⟨rfl, rfl⟩ := hof
    exact Namespaces.get_eq_some.mpr ⟨(hrecords _).mpr (.inl rfl), Namespaces.mergedRow_isOf now⟩
  · rename_i hother
    refine Namespaces.get_congr fun r hr => ?_
    rw [hrecords]
    constructor
    · rintro (rfl | ⟨hr', -⟩)
      · obtain ⟨ht, hn⟩ := Namespaces.mergedRow_isOf (R := R) (q := q) now
        exact absurd ⟨ht.symm.trans hr.1, hn.symm.trans hr.2⟩ hother
      · exact hr'
    · intro hr'
      refine .inr ⟨hr', ?_⟩
      rintro ⟨ht, hn⟩
      exact hother ⟨ht.symm.trans hr.1, hn.symm.trans hr.2⟩

section calls

variable {s : RecordedWorld} {c : PermissionChoice}

/-- **An upsert of a sound record** keeps the registry sound and the stores of the records; where it
succeeds, the namespace has the model. -/
theorem registrySound_upsert {q : UpsertRequest} (h : RegistrySound s)
    (hmerged : ∀ now, RecordSound s (s.1.registry.mergedRow q now))
    (hkept : ∀ now r, s.1.registry.get q.tenantId q.nspace = some r →
      (s.1.registry.mergedRow q now).storeId = r.storeId) :
    RegistrySound (permissionStores.traced (.upsertNamespace q) c s).2 ∧
    Grown s (permissionStores.traced (.upsertNamespace q) c s).2 ∧
    ∀ row, (permissionStores.traced (.upsertNamespace q) c s).1 = .ok row → ∃ r, row = some r ∧
      (permissionStores.traced (.upsertNamespace q) c s).2.1.registry.get q.tenantId q.nspace = some r ∧
      r.model = q.model := by
  obtain ⟨w, past⟩ := s
  have hsame : ∀ ev, RegistrySound (w, ev :: past) ∧ Grown (w, past) (w, ev :: past) := fun ev =>
    ⟨h.remember ev, grown_remember w past ev⟩
  have happlied : ∀ ev R, w.registry.upsert q c.now = .ok R →
      RegistrySound ({ w with registry := R }, ev :: past) ∧
        Grown (w, past) ({ w with registry := R }, ev :: past) := by
    intro ev R hR
    have hgrown : Grown (w, past) ({ w with registry := R }, ev :: past) := by
      refine ⟨fun _ => List.mem_cons_of_mem ev, fun _ _ hst => hst, fun t n r hr => ?_⟩
      dsimp only
      rw [get_upsert hR]
      split
      · rename_i hof
        obtain ⟨rfl, rfl⟩ := hof
        exact ⟨_, rfl, hkept _ r hr⟩
      · exact ⟨r, hr, rfl⟩
    refine ⟨⟨consistent_upsert h.consistent hR, fun r hr => ?_, h.ids⟩, hgrown⟩
    rcases ((Namespaces.upsert_ok hR).2.1 r).mp hr with rfl | ⟨hr, -⟩
    · exact (hmerged _).grown hgrown
    · exact (h.records r hr).grown hgrown
  have hworld : (permissionStores (.upsertNamespace q) c w).2 = w ∨
      ∃ R, w.registry.upsert q c.now = .ok R ∧
        (permissionStores (.upsertNamespace q) c w).2 = { w with registry := R } := by
    rcases permissionStores_snd (.upsertNamespace q) c w with hw | hw
    · exact .inl hw
    · rw [hw]
      show (w.upsertNamespace q c.now).2 = w ∨ ∃ R, _ ∧ (w.upsertNamespace q c.now).2 = _
      unfold PermissionWorld.upsertNamespace
      cases hR : w.registry.upsert q c.now with
      | ok R => exact .inr ⟨R, rfl, rfl⟩
      | error e => exact .inl rfl
  have hkeeps : RegistrySound (permissionStores.traced (.upsertNamespace q) c (w, past)).2 ∧
      Grown (w, past) (permissionStores.traced (.upsertNamespace q) c (w, past)).2 := by
    show RegistrySound ((permissionStores (.upsertNamespace q) c w).2, _) ∧
      Grown (w, past) ((permissionStores (.upsertNamespace q) c w).2, _)
    rcases hworld with hw | ⟨R, hR, hw⟩
    · rw [hw]
      exact hsame _
    · rw [hw]
      exact happlied _ R hR
  refine ⟨hkeeps.1, hkeeps.2, fun row hrow => ?_⟩
  have hcall : (Fault.answer Fault.sqlx w (w.upsertNamespace q c.now) c.fault).1 = .ok row := hrow
  obtain ⟨hfault, hanswer⟩ := Fault.answer_ok hcall
  show ∃ r, row = some r ∧ (Fault.answer Fault.sqlx w (w.upsertNamespace q c.now) c.fault).2.registry.get _ _ =
    some r ∧ _
  rw [hfault, Fault.answer_none]
  unfold PermissionWorld.upsertNamespace at hanswer ⊢
  cases hR : w.registry.upsert q c.now with
  | error e =>
      rw [hR] at hanswer
      cases hanswer
  | ok R =>
      rw [hR] at hanswer
      have hget : R.get q.tenantId q.nspace = some (w.registry.mergedRow q c.now) := by
        rw [get_upsert hR, if_pos ⟨rfl, rfl⟩]
      exact ⟨_, (Except.ok.inj hanswer).symm.trans hget, hget, Namespaces.mergedRow_model _⟩

/-- A new store, under a name that stands for none. -/
theorem registrySound_createStore {name : String} (h : RegistrySound s) (hids : c.ids 0 ≠ "")
    (hnew : storeNamed s name = none) :
    RegistrySound (permissionStores.traced (.createStore name) c s).2 ∧
    Grown s (permissionStores.traced (.createStore name) c s).2 ∧
    (permissionStores.traced (.createStore name) c s).2.1.registry = s.1.registry ∧
    ∀ storeId, (permissionStores.traced (.createStore name) c s).1 = .ok storeId →
      ∃ st, storeNamed (permissionStores.traced (.createStore name) c s).2 name = some st ∧ storeId = st.id := by
  obtain ⟨w, past⟩ := s
  have hadded : ∀ ev, RegistrySound ({ w with stores := ⟨c.ids 0, name, []⟩ :: w.stores }, ev :: past) ∧
      Grown (w, past) ({ w with stores := ⟨c.ids 0, name, []⟩ :: w.stores }, ev :: past) := by
    intro ev
    have hgrown : Grown (w, past) ({ w with stores := ⟨c.ids 0, name, []⟩ :: w.stores }, ev :: past) := by
      refine ⟨fun _ => List.mem_cons_of_mem ev, fun name' st hst => ?_, fun _ _ r hr => ⟨r, hr, rfl⟩⟩
      have hne : name ≠ name' := by
        rintro rfl
        rw [hnew] at hst
        cases hst
      rw [storeNamed, List.find?_cons_of_neg (by simpa using hne)]
      exact hst
    exact ⟨⟨h.consistent, fun r hr => (h.records r hr).grown hgrown, List.forall_mem_cons.mpr ⟨hids, h.ids⟩⟩,
      hgrown⟩
  have hworld : (permissionStores (.createStore name) c w).2 = w ∨
      (permissionStores (.createStore name) c w).2 = { w with stores := ⟨c.ids 0, name, []⟩ :: w.stores } :=
    permissionStores_snd (.createStore name) c w
  have hall : RegistrySound (permissionStores.traced (.createStore name) c (w, past)).2 ∧
      Grown (w, past) (permissionStores.traced (.createStore name) c (w, past)).2 ∧
      (permissionStores.traced (.createStore name) c (w, past)).2.1.registry = w.registry := by
    show RegistrySound ((permissionStores (.createStore name) c w).2, _) ∧
      Grown (w, past) ((permissionStores (.createStore name) c w).2, _) ∧
      (permissionStores (.createStore name) c w).2.registry = w.registry
    rcases hworld with hw | hw
    · rw [hw]
      exact ⟨h.remember _, grown_remember w past _, rfl⟩
    · rw [hw]
      exact ⟨(hadded _).1, (hadded _).2, rfl⟩
  refine ⟨hall.1, hall.2.1, hall.2.2, fun storeId hstore => ?_⟩
  have hcall : (Fault.answer OpenFgaClientError.ofFault w
      (.ok (c.ids 0), { w with stores := ⟨c.ids 0, name, []⟩ :: w.stores }) c.fault).1 = .ok storeId := hstore
  obtain ⟨hfault, hanswer⟩ := Fault.answer_ok hcall
  refine ⟨⟨c.ids 0, name, []⟩, ?_, (Except.ok.inj hanswer).symm⟩
  show (permissionStores (.createStore name) c w).2.stores.find? _ = _
  simp [permissionStores, hfault]

end calls

/-! ## The methods -/

/-- Calls under generated ids, none of which creates a store under a name that stands for one. -/
def provisioning (s : RecordedWorld) : Contract PermissionStoreSig PermissionChoice RecordedWorld :=
  .alone (fun _ c _ => c.ids 0 ≠ "") fun op _ _ =>
    ∀ name, op = .createStore name → storeNamed s name = none

/-- The registry is sound, and has grown. -/
def Held (s s' : RecordedWorld) : Prop := RegistrySound s' ∧ Grown s s'

/-- The namespace is registered with that model. -/
def RegisteredWith (t n : String) (model : Value) (s : RecordedWorld) : Prop :=
  ∃ r, s.1.registry.get t n = some r ∧ r.model = model

section methods

variable {s s₁ : RecordedWorld} {t n storeId : String} {model : Value}

theorem held_read {op : PermissionCall} (hread : ∀ c w, (permissionStores op c w).2 = w) (h : Held s s₁)
    (c : PermissionChoice) : Held s (permissionStores.traced op c s₁).2 ∧
      (permissionStores.traced op c s₁).2.1 = s₁.1 := by
  obtain ⟨w, past⟩ := s₁
  show Held s ((permissionStores op c w).2, _) ∧ (permissionStores op c w).2 = w
  rw [hread]
  exact ⟨⟨h.1.remember _, h.2.trans (grown_remember w past _)⟩, rfl⟩

theorem getNamespace_reads (c : PermissionChoice) (w : PermissionWorld) :
    (permissionStores (.getNamespace t n) c w).2 = w := by
  rcases permissionStores_snd (.getNamespace t n) c w with h | h <;> exact h

theorem findStoreByName_reads (name : String) (c : PermissionChoice) (w : PermissionWorld) :
    (permissionStores (.findStoreByName name) c w).2 = w := by
  rcases permissionStores_snd (.findStoreByName name) c w with h | h <;> exact h

theorem writeModel_reads (c : PermissionChoice) (w : PermissionWorld) :
    (permissionStores (.writeModel storeId model) c w).2 = w := by
  rcases permissionStores_snd (.writeModel storeId model) c w with h | h
  · exact h
  · rw [h]
    show (w.writeModel storeId _).2 = w
    unfold PermissionWorld.writeModel
    split <;> rfl

/-- The id of a model is one that was generated. -/
theorem writeModel_id {c : PermissionChoice} {w : PermissionWorld} {modelId : String}
    (h : (permissionStores (.writeModel storeId model) c w).1 = .ok modelId) : modelId = c.ids 0 := by
  have hcall : (Fault.answer OpenFgaClientError.ofFault w (w.writeModel storeId (c.ids 0)) c.fault).1 =
      .ok modelId := h
  obtain ⟨-, hanswer⟩ := Fault.answer_ok hcall
  unfold PermissionWorld.writeModel at hanswer
  split at hanswer
  · cases hanswer
  · exact (Except.ok.inj hanswer).symm

/-- **The store of a namespace**: the one of its name, created if there is none. -/
theorem sat_adoptStore (h : Held s s₁) :
    (OpenFga.adoptStore t n).run.Sat permissionStores.traced (provisioning s)
      (Prog.Keeps (fun s' => Held s s' ∧ s'.1.registry = s₁.1.registry)
        fun storeId s' => ∃ st, storeNamed s' (storeName t n) = some st ∧ storeId = st.id) s₁ := by
  refine Prog.sat_run_bind.mpr (Prog.sat_run_orThrow.mpr (Prog.sat_perform.mpr ?_))
  rintro _ rfl c -
  refine ⟨(fun name hname => by cases hname), ?_⟩
  obtain ⟨hheld, hworld⟩ := held_read (findStoreByName_reads (t ++ "-" ++ n)) h c
  cases hfound : (permissionStores.traced (.findStoreByName (t ++ "-" ++ n)) c s₁).1 with
  | error e =>
      exact ⟨⟨hheld, by rw [hworld]⟩, trivial⟩
  | ok found =>
      have hcall : (Fault.answer OpenFgaClientError.ofFault s₁.1
          (.ok ((storeNamed s₁ (t ++ "-" ++ n)).map (·.id)), s₁.1) c.fault).1 = .ok found := hfound
      obtain ⟨-, hanswer⟩ := Fault.answer_ok hcall
      obtain rfl := Except.ok.inj hanswer
      have hsame : storeNamed (permissionStores.traced (.findStoreByName (t ++ "-" ++ n)) c s₁).2 (t ++ "-" ++ n) =
          storeNamed s₁ (t ++ "-" ++ n) := by
        rw [storeNamed, hworld]
        rfl
      cases hfind : storeNamed s₁ (t ++ "-" ++ n) with
      | some st => exact ⟨⟨hheld, by rw [hworld]⟩, st, hsame.trans hfind, rfl⟩
      | none =>
          refine Prog.sat_run_orThrow.mpr (Prog.sat_perform.mpr ?_)
          rintro _ rfl c' hids
          obtain ⟨hsound, hgrown, hregistry, hcreated⟩ :=
            registrySound_createStore hheld.1 hids (hsame.trans hfind)
          refine ⟨fun name hname => ?_, ⟨⟨hsound, hheld.2.trans hgrown⟩, by rw [hregistry, hworld]⟩, ?_⟩
          · cases hname
            rw [← Option.not_isSome_iff_eq_none, Option.isSome_iff_exists]
            rintro ⟨st, hst⟩
            have hst₁ := h.2.stores _ st hst
            rw [hfind] at hst₁
            cases hst₁
          · cases hstore : (permissionStores.traced (.createStore (t ++ "-" ++ n)) c' _).1 with
            | error e => trivial
            | ok storeId => exact hcreated storeId hstore

/-- **A model is published** to the store of the namespace, and registered. -/
theorem sat_publish (h : Held s s₁) (hmodel : model.wellFormed = true)
    (hstore : ∃ st, storeNamed s₁ (storeName t n) = some st ∧ storeId = st.id)
    (hkept : ∀ r, s₁.1.registry.get t n = some r → r.storeId = some storeId) :
    (OpenFga.publish t n model storeId).run.Sat permissionStores.traced (provisioning s)
      (Prog.Keeps (Held s) fun _ => RegisteredWith t n model) s₁ := by
  refine Prog.sat_run_bind.mpr (Prog.sat_run_orThrow.mpr (Prog.sat_perform.mpr ?_))
  rintro _ rfl c hids
  refine ⟨(fun name hname => by cases hname), ?_⟩
  have hreads : ∀ c w, (permissionStores (.writeModel storeId model) c w).2 = w := writeModel_reads
  obtain ⟨hheld, hworld⟩ := held_read hreads h c
  cases hwritten : (permissionStores.traced (.writeModel storeId model) c s₁).1 with
  | error e => exact ⟨hheld, trivial⟩
  | ok modelId =>
      have hid : modelId = c.ids 0 := writeModel_id hwritten
      have hpast : Written (permissionStores.traced (.writeModel storeId model) c s₁).2.2 storeId model modelId :=
        ⟨c, s₁.1, List.mem_cons_self, hwritten⟩
      generalize hs₂ : (permissionStores.traced (.writeModel storeId model) c s₁).2 = s₂ at hheld hworld hpast
      obtain ⟨st, hst, hstid⟩ := hstore
      rw [storeNamed, ← hworld] at hst
      rw [← hworld] at hkept
      refine Prog.sat_run_bind.mpr (Prog.sat_run_orThrow.mpr (Prog.sat_perform.mpr ?_))
      rintro _ rfl c' -
      refine ⟨(fun name hname => by cases hname), ?_⟩
      have hmerged : ∀ now, (s₂.1.registry.mergedRow ⟨t, n, model, some storeId, some modelId⟩ now).storeId =
          some storeId ∧ (s₂.1.registry.mergedRow ⟨t, n, model, some storeId, some modelId⟩ now).modelId =
          some modelId := by
        intro now
        unfold Namespaces.mergedRow
        split <;> exact ⟨rfl, rfl⟩
      have hrecord : ∀ now, RecordSound s₂
          (s₂.1.registry.mergedRow ⟨t, n, model, some storeId, some modelId⟩ now) := by
        intro now
        have hof := Namespaces.mergedRow_isOf (R := s₂.1.registry)
          (q := ⟨t, n, model, some storeId, some modelId⟩) now
        refine ⟨⟨st, ?_, ?_⟩, ⟨storeId, modelId, (hmerged now).1, (hmerged now).2, hid ▸ hids, ?_⟩, ?_⟩
        · rw [hof.1, hof.2]
          exact hst
        · rw [(hmerged now).1, hstid]
        · rw [Namespaces.mergedRow_model]
          exact hpast
        · rw [Namespaces.mergedRow_model]
          exact hmodel
      obtain ⟨hsound, hgrown, hok⟩ := registrySound_upsert (c := c') hheld.1 hrecord fun now r hr =>
        (hmerged now).1.trans (hkept r hr).symm
      cases hupserted : (permissionStores.traced
        (.upsertNamespace ⟨t, n, model, some storeId, some modelId⟩) c' s₂).1 with
      | error e => exact ⟨⟨hsound, hheld.2.trans hgrown⟩, trivial⟩
      | ok row =>
          obtain ⟨r, -, hget, hr⟩ := hok row hupserted
          exact ⟨⟨hsound, hheld.2.trans hgrown⟩, r, hget, hr⟩

/-- The namespace has the model now, or had one before that is the same. -/
def Converged (s₁ : RecordedWorld) (t n : String) (model : Value) (s' : RecordedWorld) : Prop :=
  RegisteredWith t n model s' ∨ ∃ r, s₁.1.registry.get t n = some r ∧ r.model.same model = true

/-- The record that the registry answers with. -/
theorem sat_registered (h : Held s s₁) :
    (registryCall (Prog.perform (S := PermissionStoreSig) (.getNamespace t n))).run.Sat permissionStores.traced
      (provisioning s) (Prog.Keeps (fun s' => Held s s' ∧ s'.1 = s₁.1)
        fun row _ => row = s₁.1.registry.get t n) s₁ := by
  refine Prog.sat_run_orThrow.mpr (Prog.sat_perform.mpr ?_)
  rintro _ rfl c -
  refine ⟨(fun name hname => by cases hname), held_read getNamespace_reads h c, ?_⟩
  cases hrow : (permissionStores.traced (.getNamespace t n) c s₁).1 with
  | error e => trivial
  | ok row =>
      have hcall : (Fault.answer Fault.sqlx s₁.1 (.ok (s₁.1.registry.get t n), s₁.1) c.fault).1 = .ok row := hrow
      obtain ⟨-, hanswer⟩ := Fault.answer_ok hcall
      exact (Except.ok.inj hanswer).symm

/-- A namespace without a record gets the store of its name. -/
theorem sat_provision (h : Held s s₁) (hmodel : model.wellFormed = true)
    (hnone : s₁.1.registry.get t n = none) :
    (OpenFga.adoptStore t n >>= OpenFga.publish t n model).run.Sat permissionStores.traced (provisioning s)
      (Prog.Keeps (Held s) fun _ => RegisteredWith t n model) s₁ := by
  refine Prog.keeps_run_bind (sat_adoptStore h) (fun _ => And.left) ?_
  intro storeId s₂ h₂ hstore
  refine sat_publish h₂.1 hmodel hstore fun r hr => ?_
  rw [h₂.2, hnone] at hr
  cases hr

/-- A registered namespace keeps its store. -/
theorem sat_republish (h : Held s s₁) (hmodel : model.wellFormed = true) {record : NamespaceRow}
    (hget : s₁.1.registry.get t n = some record) :
    (OpenFga.publish t n model (OpenFga.storeOf record)).run.Sat permissionStores.traced (provisioning s)
      (Prog.Keeps (Held s) fun _ => RegisteredWith t n model) s₁ := by
  obtain ⟨hrecord, ht, hn⟩ := Namespaces.get_eq_some.mp hget
  obtain ⟨st, hst, hid⟩ := (h.1.records record hrecord).store
  have hstore : OpenFga.storeOf record = st.id := by rw [OpenFga.storeOf, hid, Option.getD_some]
  rw [ht, hn] at hst
  refine sat_publish h hmodel ⟨st, hst, hstore⟩ fun r hr => ?_
  rw [hget] at hr
  cases hr
  rw [hid, hstore]

/-- **A namespace converges** to the model, from whatever an earlier attempt has left. -/
theorem sat_converge (h : Held s s₁) (hmodel : model.wellFormed = true) :
    (OpenFga.converge t n model (s₁.1.registry.get t n)).run.Sat permissionStores.traced (provisioning s)
      (Prog.Keeps (Held s) fun _ => Converged s₁ t n model) s₁ := by
  have hregistered : ∀ (r : Except BackendError Unit) s',
      Prog.Keeps (Held s) (fun _ => RegisteredWith t n model) r s' →
      Prog.Keeps (Held s) (fun _ => Converged s₁ t n model) r s' := fun r s' hr =>
    ⟨hr.1, Prog.onOk_iff.mpr fun a ha => .inl (Prog.onOk_iff.mp hr.2 a ha)⟩
  cases hget : s₁.1.registry.get t n with
  | none => exact (sat_provision h hmodel hget).post hregistered
  | some record =>
      simp only [OpenFga.converge]
      rw [if_pos (h.1.storeOf_ne hget)]
      split
      · rename_i hsame
        exact Prog.keeps_run_pure h (.inr ⟨record, hget, hsame⟩)
      · exact (sat_republish h hmodel hget).post hregistered

theorem sat_ensureModel (h : Held s s₁) (hmodel : model.wellFormed = true) :
    (OpenFga.ensureModel t n model).run.Sat permissionStores.traced (provisioning s)
      (Prog.Keeps (Held s) fun _ => Converged s₁ t n model) s₁ := by
  refine Prog.keeps_run_bind (sat_registered h) (fun _ => And.left) ?_
  rintro _ s₂ ⟨h₂, hworld⟩ rfl
  have hconverge := sat_converge (t := t) (n := n) h₂ hmodel
  rw [hworld] at hconverge
  refine hconverge.post fun r s' hr => ⟨hr.1, Prog.onOk_iff.mpr fun a ha => ?_⟩
  have hconverged := Prog.onOk_iff.mp hr.2 a ha
  rw [Converged, hworld] at hconverged
  exact hconverged

/-- **The last upsert** keeps the store and the model that the record points to. -/
theorem sat_upsertModel (h : Held s s₁) (hmodel : model.wellFormed = true)
    (hregistered : RegisteredWith t n model s₁) :
    (registryCall (Prog.perform (S := PermissionStoreSig)
        (.upsertNamespace ⟨t, n, model, none, none⟩))).run.Sat permissionStores.traced (provisioning s)
      (Prog.Keeps (Held s) fun row s' => ∃ r, row = some r ∧ s'.1.registry.get t n = some r ∧
        r.model.same model = true) s₁ := by
  obtain ⟨r, hget, rfl⟩ := hregistered
  obtain ⟨hrecord, ht, hn⟩ := Namespaces.get_eq_some.mp hget
  have hmerged : ∀ now, s₁.1.registry.mergedRow ⟨t, n, r.model, none, none⟩ now =
      ⟨t, n, r.model, r.storeId, r.modelId, r.createdAt, now⟩ := by
    intro now
    simp [Namespaces.mergedRow, hget]
  have hsound : ∀ now, RecordSound s₁ (s₁.1.registry.mergedRow ⟨t, n, r.model, none, none⟩ now) := by
    intro now
    rw [hmerged]
    obtain ⟨hstore, hwritten, -⟩ := h.1.records r hrecord
    rw [ht, hn] at hstore
    exact ⟨hstore, hwritten, hmodel⟩
  refine Prog.sat_run_orThrow.mpr (Prog.sat_perform.mpr ?_)
  rintro _ rfl c -
  obtain ⟨hsound', hgrown, hok⟩ := registrySound_upsert (c := c) h.1 hsound fun now r' hr' => by
    rw [hget] at hr'
    cases hr'
    rw [hmerged]
  refine ⟨(fun name hname => by cases hname), ⟨hsound', h.2.trans hgrown⟩, ?_⟩
  cases hrow : (permissionStores.traced (.upsertNamespace ⟨t, n, r.model, none, none⟩) c s₁).1 with
  | error e => trivial
  | ok row =>
      obtain ⟨r', hr', hget', hmodel'⟩ := hok row hrow
      refine ⟨r', hr', hget', ?_⟩
      rw [hmodel']
      exact Value.same_refl r.model hmodel

theorem sat_registerModel (h : Held s s₁) (hmodel : model.wellFormed = true) :
    (registerModel .openFga t n model (s₁.1.registry.get t n)).run.Sat permissionStores.traced (provisioning s)
      (Prog.Keeps (Held s) fun row s' => ∃ r, row = some r ∧ s'.1.registry.get t n = some r ∧
        r.model.same model = true) s₁ := by
  unfold registerModel
  split
  · rename_i hany
    cases hget : s₁.1.registry.get t n with
    | none => simp [hget] at hany
    | some r => exact Prog.keeps_run_pure h ⟨r, rfl, hget, by simpa [hget] using hany⟩
  · rename_i hnew
    refine Prog.keeps_run_bind (Prog.keeps_run_orThrow (sat_ensureModel h hmodel)) (fun _ => id) ?_
    intro _ s₂ h₂ hconverged
    refine Prog.keeps_run_orThrow (sat_upsertModel h₂ hmodel (hconverged.resolve_right ?_))
    rintro ⟨r, hget, hsame⟩
    exact hnew (by simp [hget, hsame])

/-- What is registered is a normal form. -/
theorem normal_wellFormed {m normal : Value} (h : validateAndNormalizeModel m = .ok normal)
    (hm : m.wellFormed = true) : normal.wellFormed = true := by
  obtain ⟨fields, defs, haccepted, rfl⟩ := validateAndNormalizeModel_eq_ok.mp h
  exact haccepted.wellFormed_reorder hm (sortByType_perm defs)

/-- **A call of `EnsurePermissionNamespace`**, from whatever earlier calls have left. -/
theorem sat_ensurePermissionNamespace (h : RegistrySound s) {ctx : RequestContext} {m : Option Value}
    (hm : ∀ model ∈ m, model.wellFormed = true) :
    (ensurePermissionNamespace .openFga ctx n m).run.Sat permissionStores.traced (provisioning s)
      (Prog.Keeps (Held s) fun row s' => ∀ t model, checkEnsure ctx n m = .ok (t, model) →
        ∃ r, row = some r ∧ s'.1.registry.get t n = some r ∧ r.model.same model = true) s := by
  have hheld : Held s s := ⟨h, fun _ hev => hev, fun _ _ hst => hst, fun _ _ r hr => ⟨r, hr, rfl⟩⟩
  refine Prog.sat_run_bind.mpr (Prog.sat_run_mk.mpr ?_)
  cases hcheck : checkEnsure ctx n m with
  | error e => exact ⟨hheld, trivial⟩
  | ok checked =>
      obtain ⟨t, model⟩ := checked
      have hmodel : model.wellFormed = true := by
        cases m with
        | none =>
            unfold checkEnsure at hcheck
            obtain ⟨t', -, hcheck⟩ := except_bind_eq_ok.mp hcheck
            obtain ⟨_, -, hcheck⟩ := except_bind_eq_ok.mp hcheck
            cases hcheck
        | some m => exact normal_wellFormed (checkEnsure_ok hcheck) (hm m rfl)
      refine Prog.keeps_run_bind (Prog.keeps_run_orThrow (sat_registered hheld)) (fun _ => And.left) ?_
      rintro _ s₁ ⟨h₁, hworld⟩ rfl
      have hregister := sat_registerModel (t := t) (n := n) h₁ hmodel
      rw [hworld] at hregister
      refine hregister.post fun r s' hr => ⟨hr.1, Prog.onOk_iff.mpr fun row hrow t' model' heq => ?_⟩
      cases heq
      exact Prog.onOk_iff.mp hr.2 row hrow

/-- The gateway's own seeding. -/
theorem sat_seedNamespace (h : RegistrySound s) :
    (seedNamespace .openFga t).run.Sat permissionStores.traced (provisioning s) (fun _ s' => Held s s') s := by
  have hheld : Held s s := ⟨h, fun _ hev => hev, fun _ _ hst => hst, fun _ _ r hr => ⟨r, hr, rfl⟩⟩
  refine Prog.sat_run_orThrow.mpr ((sat_ensureModel hheld ?_).post fun _ _ => And.left)
  decide

end methods

/-! ## The types of a model -/

/-- The definition is one of that type, and it has relations. -/
def Bears (d : Value) (type : String) : Prop :=
  (d.get "type").bind Value.asStr = some type ∧
    ∃ relations, (d.get "relations").bind Value.asObject = some relations ∧ relations ≠ []

/-- The names that are indexed are the types with relations. -/
theorem mem_relationBearing {model : Value} {type : String} :
    type ∈ relationBearingTypeNames model ↔ ∃ d ∈ definitionsOf model, Bears d type := by
  unfold relationBearingTypeNames definitionsOf Bears
  cases (model.get "type_definitions").bind Value.asArray with
  | none => simp
  | some defs =>
      simp only [List.mem_insertionSort, List.mem_filterMap, List.mem_filter, Option.getD_some, and_assoc]
      refine exists_congr fun d => and_congr_right fun _ => ?_
      rw [and_comm]
      apply and_congr_right
      intro _
      cases (d.get "relations").bind Value.asObject with
      | none => simp
      | some relations => simp

theorem Bears.same {d d' : Value} {type : String} (hd : d.wellFormed = true) (h : d.same d' = true)
    (hbears : Bears d' type) : Bears d type := by
  obtain ⟨htype, relations', hrelations, hne⟩ := hbears
  obtain ⟨t', ht', htext⟩ := Option.bind_eq_some_iff.mp htype
  obtain ⟨t, ht, htsame⟩ := Value.same_get_back hd h ht'
  obtain ⟨v', hv', hobject⟩ := Option.bind_eq_some_iff.mp hrelations
  obtain ⟨v, hv, hvsame⟩ := Value.same_get_back hd h hv'
  constructor
  · cases t' with
    | str text =>
        cases t with
        | str text' =>
            cases Value.same_str htsame
            rw [ht]
            exact htext
        | _ => simp [Value.same] at htsame
    | _ => simp [Value.asStr] at htext
  · cases v' with
    | obj fields' =>
        obtain ⟨fields, rfl⟩ := Value.exists_of_same_obj hvsame
        refine ⟨fields, by rw [hv]; rfl, ?_⟩
        rintro rfl
        obtain rfl := Option.some.inj hobject
        exact hne (List.eq_nil_of_length_eq_zero (Value.same_obj_iff.mp hvsame).1.symm)
    | _ => simp [Value.asObject] at hobject

/-- A document that equals the normal form of a model has the types of the model. -/
theorem relationBearing_same {m normal R : Value} {type : String}
    (hnormal : validateAndNormalizeModel m = .ok normal) (hR : R.wellFormed = true)
    (hsame : R.same normal = true) (htype : type ∈ relationBearingTypeNames m) :
    type ∈ relationBearingTypeNames R := by
  obtain ⟨fields, defs, haccepted, rfl⟩ := validateAndNormalizeModel_eq_ok.mp hnormal
  obtain ⟨d, hd, hbears⟩ := mem_relationBearing.mp htype
  rw [haccepted.definitionsOf_eq, ← (sortByType_perm defs).mem_iff] at hd
  have hforall := (haccepted.reorder (sortByType_perm defs)).definitions_same hR hsame
  obtain ⟨i, hi, rfl⟩ := List.mem_iff_getElem.mp hd
  have hi' : i < (definitionsOf R).length := hforall.length_eq ▸ hi
  have hd' := List.getElem_mem hi'
  exact mem_relationBearing.mpr ⟨_, hd', hbears.same (wellFormed_definitionsOf hR _ hd') (hforall.get hi' hi)⟩

/-! ## Histories -/

/-- A request is served, and its calls are remembered. -/
def recordedStep (s : RecordedWorld) (st : PermissionStep) : Option RecordedWorld :=
  some ((st.program .openFga).run.run permissionStores.traced st.choices s).2

/-- The request ensures a namespace. -/
def EnsureRequest : PermissionRequest → Prop
  | .ensureNamespace _ _ m => ∀ model ∈ m, model.wellFormed = true
  | .seed _ => True
  | _ => False

/-- A namespace is ensured, under ids that OpenFGA generates. -/
def Ensures (st : PermissionStep) : Prop := EnsureRequest st.request ∧ ∀ i, (st.choices i).ids 0 ≠ ""

/-- The type resolves to the namespace: to the store of its name, and to the id under which the model was
published there. -/
def ResolvesTo (s : RecordedWorld) (t n type : String) (model : Value) : Prop :=
  ∃ r st modelId, OpenFga.usable t type (s.1.registry.getByType t type) = .ok r ∧ r.IsOf t n ∧
    r.model.same model = true ∧ storeNamed s (storeName t n) = some st ∧ r.storeId = some st.id ∧
    r.modelId = some modelId ∧ Written s.2 st.id r.model modelId

/-- What a call of `EnsurePermissionNamespace` does, from one state to another. -/
structure EnsureSound (s s' : RecordedWorld) (ctx : RequestContext) (t n : String) (m normal : Value)
    (choices : ℕ → PermissionChoice) : Prop where
  resolves : ∀ row, ensureAnswer s.1 ctx n m choices = .ok row →
    ∀ type ∈ relationBearingTypeNames m, ResolvesTo s' t n type normal
  kept : ∀ t' n' r, s.1.registry.get t' n' = some r →
    ∃ r', s'.1.registry.get t' n' = some r' ∧ r'.storeId = r.storeId
  adopts : ∀ ev ∈ ensureEvents s.1 ctx n m choices, ∀ name, ev.op = .createStore name →
    storeNamed s name = none
  stores : ∀ name st, storeNamed s name = some st → storeNamed s' name = some st

section histories

variable {s s' : RecordedWorld} {t n : String}

/-- The stores change as in the requests alone. -/
theorem recordedStep_fst (s : RecordedWorld) (st : PermissionStep) :
    (recordedStep s st).map Prod.fst = permissionStep .openFga s.1 st := by
  rw [recordedStep, Prog.run_traced]
  rfl

/-- **A step keeps the registry sound.** -/
theorem registrySound_step {st : PermissionStep} (h : RegistrySound s) (hst : Ensures st)
    (hstep : recordedStep s st = some s') : RegistrySound s' := by
  obtain ⟨request, order, choices⟩ := st
  obtain ⟨hrequest, hids⟩ := hst
  have hsat : ((⟨request, order, choices⟩ : PermissionStep).program .openFga).run.Sat permissionStores.traced
      (provisioning s) (fun _ s' => Held s s') s := by
    cases request with
    | ensureNamespace ctx n m =>
        refine (Prog.keeps_run_map (P := fun _ _ => True) ?_).post fun _ _ => And.left
        refine (sat_ensurePermissionNamespace h hrequest).post fun r s' hr => ?_
        exact ⟨hr.1, Prog.onOk_iff.mpr fun _ _ => trivial⟩
    | seed t => exact sat_seedNamespace h
    | _ => exact hrequest.elim
  have hrun := (hsat.run_events (o := choices) (fun _ => rfl) fun ev hev => ?_).2
  · cases hstep
    exact hrun.1
  · obtain ⟨i, hi⟩ := Prog.choice_of_mem_events hev
    rw [hi]
    exact hids i

/-- **A history keeps the registry sound**, whatever fails on the way. -/
theorem registrySound_run {w : PermissionWorld} (hempty : w.registry = .empty)
    (hids : ∀ st ∈ w.stores, st.id ≠ "") {history : List PermissionStep} (hhistory : ∀ st ∈ history, Ensures st)
    (hrun : Machine.run recordedStep (w, []) history = some s) : RegistrySound s := by
  have hstart : RegistrySound (w, []) := by
    refine ⟨?_, ?_, hids⟩
    · rw [hempty]
      intro r hr
      cases hr
    · rw [hempty]
      intro r hr
      cases hr
  refine Machine.run_invariant (P := fun _ st => Ensures st) (fun _ _ _ h hst hstep => ?_) hstart
    (.of_forall hhistory) hrun
  exact registrySound_step h hst hstep

/-- A type of a registered model resolves. -/
theorem resolves_of_registered (h : RegistrySound s) {m normal : Value} {r : NamespaceRow} {type : String}
    (hnormal : validateAndNormalizeModel m = .ok normal) (hget : s.1.registry.get t n = some r)
    (hsame : r.model.same normal = true) (htype : type ∈ relationBearingTypeNames m) :
    ResolvesTo s t n type normal := by
  obtain ⟨hr, ht, hn⟩ := Namespaces.get_eq_some.mp hget
  obtain ⟨⟨st, hst, hid⟩, ⟨storeId, modelId, hstoreId, hmodelId, hne, hwritten⟩, hwf⟩ := h.records r hr
  rw [hid, Option.some.injEq] at hstoreId
  subst hstoreId
  have hindexed := (h.consistent r hr type).mpr (relationBearing_same hnormal hwf hsame htype)
  rw [ht, hn] at hindexed
  have hresolved : s.1.registry.getByType t type = some r := by
    unfold Namespaces.getByType
    rw [Namespaces.ownerOf_eq_some.mpr hindexed, Option.bind_some, hget]
  have hprovisioned : OpenFga.Provisioned r := by
    refine ⟨h.storeOf_ne hget, ?_⟩
    rw [hmodelId]
    exact hne
  refine ⟨r, st, modelId, ?_, ⟨ht, hn⟩, hsame, ?_, hid, hmodelId, hwritten⟩
  · rw [hresolved]
    exact if_pos hprovisioned
  · rw [ht, hn] at hst
    exact hst

/-- **Ensured namespaces.** After any history of ensured namespaces, whatever has failed on the way, a
namespace that is ensured resolves for every type of its model, records keep their stores, and no store is
created under a name that has one. -/
theorem ensure_sound {w : PermissionWorld} (hempty : w.registry = .empty) (hids : ∀ st ∈ w.stores, st.id ≠ "")
    {history : List PermissionStep} (hhistory : ∀ st ∈ history, Ensures st)
    (hrun : Machine.run recordedStep (w, []) history = some s) {ctx : RequestContext} {m normal : Value}
    {order : List String → List String} {choices : ℕ → PermissionChoice}
    (hm : m.wellFormed = true) (hchoices : ∀ i, (choices i).ids 0 ≠ "")
    (hcheck : checkEnsure ctx n (some m) = .ok (t, normal))
    (hstep : recordedStep s ⟨.ensureNamespace ctx n (some m), order, choices⟩ = some s') :
    EnsureSound s s' ctx t n m normal choices := by
  have hsound := registrySound_run hempty hids hhistory hrun
  have hmodel : ∀ model ∈ some m, model.wellFormed = true := by simpa using hm
  have hassume : ∀ ev ∈ (ensurePermissionNamespace .openFga ctx n (some m)).run.events permissionStores.traced
      choices s, ev.choice.ids 0 ≠ "" := by
    intro ev hev
    obtain ⟨i, hi⟩ := Prog.choice_of_mem_events hev
    rw [hi]
    exact hchoices i
  obtain ⟨hcalls, ⟨hsound', hgrown⟩, hok⟩ := (sat_ensurePermissionNamespace hsound hmodel).run_events (fun _ => rfl) hassume
  have hstate : s' = ((ensurePermissionNamespace .openFga ctx n (some m)).run.run permissionStores.traced
      choices s).2 := by
    rw [← Option.some.inj hstep, PermissionStep.program, ExceptT.run_map, Prog.run_map]
  rw [← hstate] at hsound' hgrown hok
  refine ⟨fun row hrow type htype => ?_, hgrown.kept, fun ev hev name hname => ?_, hgrown.stores⟩
  · have hanswer : ((ensurePermissionNamespace .openFga ctx n (some m)).run.run permissionStores.traced
        choices s).1 = .ok row := by
      rw [Prog.run_traced]
      exact hrow
    obtain ⟨r, -, hget, hsame⟩ := Prog.onOk_iff.mp hok row hanswer t normal hcheck
    exact resolves_of_registered hsound' (checkEnsure_ok hcheck) hget hsame htype
  · obtain ⟨pre, post, hsplit⟩ := List.append_of_mem hev
    refine hcalls ⟨ev.op, ev.choice, ev.before, pre.reverse ++ s.2⟩ ?_ name hname
    rw [Prog.events_traced]
    exact mem_remembered.mpr ⟨pre, ev, post, hsplit, rfl⟩

end histories

/-- The registry fails once, after the store was created and the model written. -/
def interrupted : ℕ → PermissionChoice :=
  fun n => ⟨if n = 5 then some ⟨false, .http "timeout"⟩ else none, n, fun _ => "id"⟩

/-- A namespace of the tenant is ensured. -/
def ensureDocs (choices : ℕ → PermissionChoice) : PermissionStep :=
  ⟨.ensureNamespace acmePermissionAdmin "docs" (modelOfType "doc"), id, choices⟩

/-- A store without a record. -/
def interruptedWorld : RecordedWorld :=
  (((ensureDocs interrupted).program .openFga).run.run permissionStores.traced interrupted (blankWorld, [])).2

/-- The store that is left behind is adopted when the call is made again. -/
theorem interrupted_ensure_sound :
    Machine.run recordedStep (blankWorld, []) [ensureDocs interrupted] = some interruptedWorld ∧
    (interruptedWorld.1.registry.get "acme" "docs").isNone ∧
    (storeNamed interruptedWorld (storeName "acme" "docs")).isSome ∧
    (ensureAnswer interruptedWorld.1 acmePermissionAdmin "docs" (modelOfType "doc") untroubled).isOk ∧
    ∃ s', recordedStep interruptedWorld (ensureDocs untroubled) = some s' ∧
      EnsureSound interruptedWorld s' acmePermissionAdmin "acme" "docs" (modelOfType "doc") (modelOfType "doc")
        untroubled := by
  refine ⟨rfl, by decide +kernel, by decide +kernel, by decide +kernel, _, rfl, ?_⟩
  have hrun : Machine.run recordedStep (blankWorld, []) [ensureDocs interrupted] = some interruptedWorld := rfl
  have hhistory : ∀ st ∈ [ensureDocs interrupted], Ensures st := by
    intro st hst
    obtain rfl := List.mem_singleton.mp hst
    exact ⟨(fun model hmodel => by cases hmodel; decide), fun i => by simp [ensureDocs, interrupted]⟩
  refine ensure_sound rfl ?_ hhistory hrun (by decide) ?_ rfl rfl
  · simp [blankWorld]
  · simp [untroubled]

end SsoGateway
