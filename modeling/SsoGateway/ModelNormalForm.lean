import Mathlib.Data.List.Sort
import SsoGateway.Lib.JsonSame
import SsoGateway.ReservedNamespace

/-!
# The normal form of a model

* `Reordered` — two models that differ in the order of their type definitions at most; `ListedInOrder` — a model
  whose definitions are sorted by type.
* `normalize_idempotent` — a normal form is its own.
* `same_normal_iff` — a model is the normal form of another exactly if it is in order and a reordering.
* `normal_forms_same_iff` — two models have the same normal form exactly if one reorders the other.
* `canonicalModel_iff` — a model is published just when the meaning changed, exactly if what is registered
  is in order or means something else.
* `seeded_republished` — the gateway's own model is registered as it is, out of order.

Source: `services/permission.rs` `validate_and_normalize_model`, `ensure_permission_namespace`,
`ensure_model`, `services/entitlement.rs` `entitlement_model`.
-/

namespace SsoGateway

open Lib

/-! ## Models -/

/-- The type definitions of a model. -/
def definitionsOf (model : Value) : List Value :=
  ((model.get "type_definitions").bind Value.asArray).getD []

/-- The model with these type definitions. -/
def withDefinitions (model : Value) (defs : List Value) : Value :=
  model.insert "type_definitions" (.arr defs)

/-- The definitions, sorted by type. -/
def sortByType (defs : List Value) : List Value :=
  defs.insertionSort fun a b => typeOfDefinition a ≤ typeOfDefinition b

/-- The definitions are sorted by type. -/
def SortedByType (defs : List Value) : Prop :=
  defs.Pairwise fun a b => typeOfDefinition a ≤ typeOfDefinition b

/-- The model lists its definitions by type. -/
def ListedInOrder (model : Value) : Prop := SortedByType (definitionsOf model)

/-- The first model is the second, but for the order of the type definitions. -/
def Reordered (m m' : Value) : Prop :=
  ∃ defs, defs.Perm (definitionsOf m') ∧ m.same (withDefinitions m' defs) = true

theorem sortByType_perm (defs : List Value) : (sortByType defs).Perm defs := List.perm_insertionSort _ _

theorem sortByType_sorted (defs : List Value) : SortedByType (sortByType defs) :=
  List.pairwise_insertionSort _ _

theorem sortByType_of_sorted {defs : List Value} (h : SortedByType defs) : sortByType defs = defs :=
  List.Pairwise.insertionSort_eq h

theorem sortedByType_iff {defs : List Value} :
    SortedByType defs ↔ (defs.map typeOfDefinition).Pairwise (· ≤ ·) := List.pairwise_map.symm

/-- Definitions of distinct types have one order. -/
theorem eq_sortByType {defs defs' : List Value} (hsorted : SortedByType defs') (hperm : defs'.Perm defs)
    (hnodup : (defs.map typeOfDefinition).Nodup) : defs' = sortByType defs := by
  refine List.Perm.eq_of_pairwise ?_ hsorted (sortByType_sorted defs) (hperm.trans (sortByType_perm defs).symm)
  intro d d' hd hd' hle hge
  exact List.inj_on_of_nodup_map hnodup (hperm.mem_iff.mp hd) ((sortByType_perm defs).mem_iff.mp hd')
    (le_antisymm hle hge)

/-! ## What is accepted -/

/-- The checks of the definitions: each has a type with a valid name, and no two have the same. -/
theorem checkDefinitions_eq_ok {seen : List String} {defs : List Value} :
    checkDefinitions seen defs = .ok () ↔
      (∀ d ∈ defs, ∃ type, (d.get "type").bind Value.asStr = some type ∧ isValidTypeName type = true ∧
        type ∉ seen) ∧ (defs.map typeOfDefinition).Nodup := by
  induction defs generalizing seen with
  | nil => simp [checkDefinitions]
  | cons d defs ih =>
      rw [checkDefinitions, List.forall_mem_cons, List.map_cons, List.nodup_cons]
      cases htype : (d.get "type").bind Value.asStr with
      | none => simp
      | some type =>
          have hd : typeOfDefinition d = type := by rw [typeOfDefinition, htype, Option.getD_some]
          by_cases hvalid : isValidTypeName type = true
          · by_cases hseen : type ∈ seen
            · simp [hvalid, hseen]
            · simp only [hvalid, hseen, ↓reduceIte, ih, hd]
              constructor
              · rintro ⟨hall, hnodup⟩
                refine ⟨⟨⟨type, rfl, hvalid, hseen⟩, fun d' hd' => ?_⟩, fun hmem => ?_, hnodup⟩
                · obtain ⟨type', htype', hvalid', hnew⟩ := hall d' hd'
                  exact ⟨type', htype', hvalid', fun h => hnew (List.mem_cons_of_mem _ h)⟩
                · obtain ⟨d', hd', heq⟩ := List.mem_map.mp hmem
                  obtain ⟨type', htype', -, hnew⟩ := hall d' hd'
                  rw [typeOfDefinition, htype', Option.getD_some] at heq
                  exact hnew (heq ▸ List.mem_cons_self)
              · rintro ⟨⟨-, hall⟩, hfirst, hnodup⟩
                refine ⟨fun d' hd' => ?_, hnodup⟩
                obtain ⟨type', htype', hvalid', hnew⟩ := hall d' hd'
                refine ⟨type', htype', hvalid', fun h => ?_⟩
                rcases List.mem_cons.mp h with rfl | h
                · apply hfirst
                  refine List.mem_map.mpr ⟨d', hd', ?_⟩
                  rw [typeOfDefinition, htype', Option.getD_some]
                · exact hnew h
          · simp [hvalid]

/-- A model that is accepted: an object with a version and definitions that pass the checks. -/
structure AcceptedModel (model : Value) (fields : List (String × Value)) (defs : List Value) : Prop where
  object : model = .obj fields
  version : ∃ version, (fields.lookup "schema_version").bind Value.asStr = some version ∧ version ≠ ""
  definitions : fields.lookup "type_definitions" = some (.arr defs)
  nonempty : defs ≠ []
  checked : checkDefinitions [] defs = .ok ()

/-- What is accepted comes out with its definitions sorted. -/
theorem validateAndNormalizeModel_eq_ok {model normal : Value} :
    validateAndNormalizeModel model = .ok normal ↔ ∃ fields defs, AcceptedModel model fields defs ∧
      normal = withDefinitions model (sortByType defs) := by
  constructor
  · intro h
    unfold validateAndNormalizeModel at h
    split at h
    · rename_i fields
      split at h
      · cases h
      · rename_i version hversion
        split at h
        · cases h
        · rename_i hne
          split at h
          · cases h
          · cases h
          · rename_i d defs hdefs
            obtain ⟨_, hchecked, hnormal⟩ := except_bind_eq_ok.mp h
            obtain ⟨items, hlookup, hitems⟩ := Option.bind_eq_some_iff.mp hdefs
            have harr : items = .arr (d :: defs) := by
              cases items <;> simp [Value.asArray] at hitems
              rw [hitems]
            rw [harr] at hlookup
            exact ⟨fields, d :: defs, ⟨rfl, ⟨version, hversion, hne⟩, hlookup, by simp, hchecked⟩,
              (Except.ok.inj hnormal).symm⟩
    · cases h
  · rintro ⟨fields, defs, ⟨rfl, ⟨version, hversion, hne⟩, hlookup, hnonempty, hchecked⟩, rfl⟩
    obtain ⟨d, rest, rfl⟩ := List.exists_cons_of_ne_nil hnonempty
    unfold validateAndNormalizeModel
    simp only [hversion, if_neg hne, hlookup, Option.bind_some, Value.asArray, hchecked]
    rfl

section accepted

variable {model : Value} {fields : List (String × Value)} {defs : List Value}

theorem AcceptedModel.definitionsOf_eq (h : AcceptedModel model fields defs) : definitionsOf model = defs := by
  rw [definitionsOf, h.object, Value.get_obj, h.definitions]
  rfl

theorem AcceptedModel.types_nodup (h : AcceptedModel model fields defs) :
    (defs.map typeOfDefinition).Nodup := (checkDefinitions_eq_ok.mp h.checked).2

theorem AcceptedModel.withDefinitions_eq (h : AcceptedModel model fields defs) (defs' : List Value) :
    withDefinitions model defs' = .obj (Value.upsert "type_definitions" (fun _ => .arr defs') fields) := by
  rw [withDefinitions, h.object]
  rfl

/-- A model is itself with its own definitions. -/
theorem AcceptedModel.withDefinitions_self (h : AcceptedModel model fields defs) :
    withDefinitions model defs = model := by
  rw [h.withDefinitions_eq, Value.upsert_of_lookup h.definitions, h.object]

/-- Definitions in another order are accepted too. -/
theorem AcceptedModel.reorder (h : AcceptedModel model fields defs) {defs' : List Value}
    (hperm : defs'.Perm defs) : AcceptedModel (withDefinitions model defs')
      (Value.upsert "type_definitions" (fun _ => .arr defs') fields) defs' where
  object := h.withDefinitions_eq defs'
  version := by
    rw [Value.lookup_upsert_of_ne (by decide)]
    exact h.version
  definitions := Value.lookup_upsert_self _ _ _
  nonempty := by
    intro hnil
    rw [hnil] at hperm
    exact h.nonempty hperm.nil_eq.symm
  checked := by
    obtain ⟨hall, hnodup⟩ := checkDefinitions_eq_ok.mp h.checked
    refine checkDefinitions_eq_ok.mpr ⟨fun d hd => hall d (hperm.mem_iff.mp hd), ?_⟩
    exact (hperm.map _).nodup_iff.mpr hnodup

end accepted

/-- **A normal form is its own.** -/
theorem normalize_idempotent {model normal : Value} (h : validateAndNormalizeModel model = .ok normal) :
    validateAndNormalizeModel normal = .ok normal := by
  obtain ⟨fields, defs, haccepted, rfl⟩ := validateAndNormalizeModel_eq_ok.mp h
  have hsorted := haccepted.reorder (sortByType_perm defs)
  refine validateAndNormalizeModel_eq_ok.mpr ⟨_, _, hsorted, ?_⟩
  rw [sortByType_of_sorted (sortByType_sorted defs), hsorted.withDefinitions_self]

/-! ## Equal definitions -/

/-- Equal definitions have the same type. -/
theorem typeOfDefinition_same {d d' : Value} (hd : d.wellFormed = true) (h : d.same d' = true)
    (htype : ∃ type, (d'.get "type").bind Value.asStr = some type) :
    typeOfDefinition d = typeOfDefinition d' := by
  obtain ⟨type, htype⟩ := htype
  obtain ⟨v', hv', hstr⟩ := Option.bind_eq_some_iff.mp htype
  obtain ⟨v, hv, hsame⟩ := Value.same_get_back hd h hv'
  cases v' with
  | str s =>
      cases v with
      | str s' => rw [typeOfDefinition, typeOfDefinition, hv, hv', Value.same_str hsame]
      | _ => simp [Value.same] at hsame
  | _ => simp [Value.asStr] at hstr

/-- Equal lists of definitions are in the same order. -/
theorem sortedByType_same {l l' : List Value} (h : List.Forall₂ (fun d d' => d.same d' = true) l l')
    (hl : ∀ d ∈ l, d.wellFormed = true)
    (hl' : ∀ d ∈ l', ∃ type, (d.get "type").bind Value.asStr = some type) :
    SortedByType l ↔ SortedByType l' := by
  have htypes : l.map typeOfDefinition = l'.map typeOfDefinition := by
    induction h with
    | nil => rfl
    | cons hd hrest ih =>
        rw [List.map_cons, List.map_cons, typeOfDefinition_same (hl _ List.mem_cons_self) hd
          (hl' _ List.mem_cons_self), ih (fun d hd => hl d (List.mem_cons_of_mem _ hd))
          fun d hd => hl' d (List.mem_cons_of_mem _ hd)]
  rw [sortedByType_iff, sortedByType_iff, htypes]

section same

variable {model : Value} {fields : List (String × Value)} {defs : List Value}

theorem AcceptedModel.types (h : AcceptedModel model fields defs) :
    ∀ d ∈ defs, ∃ type, (d.get "type").bind Value.asStr = some type := by
  intro d hd
  obtain ⟨type, htype, -⟩ := (checkDefinitions_eq_ok.mp h.checked).1 d hd
  exact ⟨type, htype⟩

theorem wellFormed_definitionsOf {R : Value} (hR : R.wellFormed = true) :
    ∀ d ∈ definitionsOf R, d.wellFormed = true := by
  intro d hd
  rw [definitionsOf] at hd
  cases hget : R.get "type_definitions" with
  | none =>
      rw [hget] at hd
      cases hd
  | some v =>
      rw [hget, Option.bind_some] at hd
      have hv := Value.wellFormed_get hR hget
      cases v with
      | arr items => exact Value.wellFormed_arr.mp hv d hd
      | _ => cases hd

/-- The model with its definitions in another order is a well-formed document too. -/
theorem AcceptedModel.wellFormed_reorder (h : AcceptedModel model fields defs)
    (hmodel : model.wellFormed = true) {defs' : List Value} (hperm : defs'.Perm defs) :
    (withDefinitions model defs').wellFormed = true := by
  have hdefs := wellFormed_definitionsOf hmodel
  rw [h.definitionsOf_eq] at hdefs
  rw [h.object] at hmodel
  rw [h.withDefinitions_eq]
  refine Value.wellFormed_upsert (by simp [h.definitions]) hmodel (Value.wellFormed_arr.mpr ?_)
  intro d hd
  exact hdefs d (hperm.mem_iff.mp hd)

/-- A document that equals an accepted model has equal definitions. -/
theorem AcceptedModel.definitions_same (h : AcceptedModel model fields defs) {R : Value}
    (hR : R.wellFormed = true) (hsame : R.same model = true) :
    List.Forall₂ (fun d d' => d.same d' = true) (definitionsOf R) defs := by
  have hget : model.get "type_definitions" = some (.arr defs) := by
    rw [h.object]
    exact h.definitions
  obtain ⟨v, hv, hitems⟩ := Value.same_get_back hR hsame hget
  obtain ⟨items, rfl, hforall⟩ := Value.exists_of_same_arr hitems
  rw [definitionsOf, hv]
  exact hforall

/-- **What equals a normal form**: a reordering of the model that is in order. -/
theorem AcceptedModel.same_normal_iff (h : AcceptedModel model fields defs) {R : Value}
    (hR : R.wellFormed = true) : R.same (withDefinitions model (sortByType defs)) = true ↔
      Reordered R model ∧ ListedInOrder R := by
  have horder : ∀ {defs' : List Value}, defs'.Perm defs → R.same (withDefinitions model defs') = true →
      (ListedInOrder R ↔ SortedByType defs') := by
    intro defs' hperm hsame
    have haccepted := h.reorder hperm
    exact sortedByType_same (haccepted.definitions_same hR hsame) (wellFormed_definitionsOf hR)
      haccepted.types
  constructor
  · intro hsame
    refine ⟨⟨sortByType defs, ?_, hsame⟩, ?_⟩
    · rw [h.definitionsOf_eq]
      exact sortByType_perm defs
    · exact (horder (sortByType_perm defs) hsame).mpr (sortByType_sorted defs)
  · rintro ⟨⟨defs', hperm, hsame⟩, hR'⟩
    rw [h.definitionsOf_eq] at hperm
    rw [← eq_sortByType ((horder hperm hsame).mp hR') hperm h.types_nodup]
    exact hsame

/-- **Two models have the same normal form** exactly if they differ in the order of their definitions at
most. -/
theorem normal_forms_same_iff {model' : Value} {fields' : List (String × Value)} {defs' : List Value}
    (h : AcceptedModel model fields defs) (h' : AcceptedModel model' fields' defs')
    (hmodel : model.wellFormed = true) :
    (withDefinitions model (sortByType defs)).same (withDefinitions model' (sortByType defs')) = true ↔
      Reordered model model' := by
  have hdistinct : (fields.map Prod.fst).Nodup := by
    rw [h.object] at hmodel
    exact (Value.wellFormed_obj.mp hmodel).1
  have hsplit := fun (l l' : List Value) => Value.same_upsert_iff (x := .arr l) (y := .arr l') hdistinct
    (by rw [h.definitions]; rfl) (by rw [h'.definitions]; rfl)
  have hwf : ∀ d ∈ sortByType defs, d.wellFormed = true := by
    have hsorted := wellFormed_definitionsOf (h.wellFormed_reorder hmodel (sortByType_perm defs))
    rwa [(h.reorder (sortByType_perm defs)).definitionsOf_eq] at hsorted
  rw [Reordered, h'.definitionsOf_eq, h.withDefinitions_eq, h'.withDefinitions_eq, hsplit,
    Value.same_arr_iff]
  constructor
  · rintro ⟨hlength, hothers, hitems⟩
    obtain ⟨l, hl, hperm⟩ := List.perm_comp_forall₂ (sortByType_perm defs).symm hitems
    refine ⟨l, hperm.trans (sortByType_perm defs'), ?_⟩
    rw [← h.withDefinitions_self, h.withDefinitions_eq, h'.withDefinitions_eq, hsplit, Value.same_arr_iff]
    exact ⟨hlength, hothers, hl⟩
  · rintro ⟨l, hperm, hsame⟩
    rw [← h.withDefinitions_self, h.withDefinitions_eq, h'.withDefinitions_eq, hsplit,
      Value.same_arr_iff] at hsame
    obtain ⟨hlength, hothers, hitems⟩ := hsame
    obtain ⟨l', hl', hperm'⟩ := List.perm_comp_forall₂ (sortByType_perm defs) hitems
    have haccepted := h'.reorder (hperm'.trans hperm)
    have hsorted := (sortedByType_same hl' hwf haccepted.types).mp (sortByType_sorted defs)
    rw [eq_sortByType hsorted (hperm'.trans hperm) h'.types_nodup] at hl'
    exact ⟨hlength, hothers, hl'⟩

end same

/-! ## What is published -/

/-- A call to the stores. -/
abbrev PermissionEvent := Event PermissionStoreSig PermissionChoice PermissionWorld

/-- A model was published. -/
def Published (evs : List PermissionEvent) : Prop := ∃ ev ∈ evs, ∃ s m, ev.op = .writeModel s m

/-- Calls that remember the ones before, and that do not fail unless failures are allowed. -/
def publishing (faulty : Prop) : Contract PermissionStoreSig PermissionChoice
    (PermissionWorld × List PermissionEvent) :=
  .alone (fun _ c _ => faulty ∨ c.fault = none) fun _ _ _ => True

/-- A model was published, or a call failed. -/
def PublishedUnless {ε α : Type} (faulty : Prop) (r : Except ε α)
    (s : PermissionWorld × List PermissionEvent) : Prop :=
  Published s.2 ∨ (faulty ∧ ∃ e, r = .error e)

section publishing

variable {faulty : Prop} {t n storeId : String} {model : Value}
  {s : PermissionWorld × List PermissionEvent} {α β ε : Type}

/-- What was published stays so. -/
theorem published_kept {p : Prog PermissionStoreSig α} (h : Published s.2) :
    p.Sat permissionStores.traced (publishing faulty) (fun _ s' => Published s'.2) s := by
  induction p generalizing s with
  | pure a => exact h
  | call op k ih =>
      rintro _ rfl c -
      obtain ⟨ev, hev, hop⟩ := h
      exact ⟨trivial, ih _ ⟨ev, List.mem_cons_of_mem _ hev, hop⟩⟩

/-- A rest that publishes, after calls that only fail where failures are allowed. -/
theorem publishes_after {x : ExceptT ε (Prog PermissionStoreSig) α}
    {f : α → ExceptT ε (Prog PermissionStoreSig) β}
    (hx : x.run.Sat permissionStores.traced (publishing faulty) (fun r _ => ∀ e, r = .error e → faulty) s)
    (hf : ∀ a s, (f a).run.Sat permissionStores.traced (publishing faulty) (PublishedUnless faulty) s) :
    (x >>= f).run.Sat permissionStores.traced (publishing faulty) (PublishedUnless faulty) s := by
  refine Prog.sat_run_bind.mpr (hx.post ?_)
  intro r s' hr
  cases r with
  | ok a => exact hf a s'
  | error e => exact .inr ⟨hr e rfl, e, rfl⟩

theorem publishes_publish :
    (OpenFga.publish t n model storeId).run.Sat permissionStores.traced (publishing faulty)
      (PublishedUnless faulty) s := by
  refine Prog.sat_run_bind.mpr (Prog.sat_run_orThrow.mpr (Prog.sat_perform.mpr ?_))
  rintro _ rfl c -
  refine ⟨trivial, ?_⟩
  have hpublished : Published (permissionStores.traced (.writeModel storeId model) c s).2.2 :=
    ⟨_, List.mem_cons_self, storeId, model, rfl⟩
  cases (permissionStores.traced (.writeModel storeId model) c s).1 with
  | ok modelId => exact (published_kept hpublished).post fun _ _ => .inl
  | error e => exact .inl hpublished

theorem adoptStore_fails :
    (OpenFga.adoptStore t n).run.Sat permissionStores.traced (publishing faulty)
      (fun r _ => ∀ e, r = .error e → faulty) s := by
  refine Prog.sat_run_bind.mpr (Prog.sat_run_orThrow.mpr (Prog.sat_perform.mpr ?_))
  rintro _ rfl c hc
  refine ⟨trivial, ?_⟩
  cases hfound : (permissionStores.traced (.findStoreByName (t ++ "-" ++ n)) c s).1 with
  | error e =>
      intro _ _
      apply hc.resolve_right
      intro hfault
      simp [Handler.traced, permissionStores, hfault] at hfound
  | ok found =>
      cases found with
      | some storeId =>
          intro e he
          cases he
      | none =>
          refine Prog.sat_run_orThrow.mpr (Prog.sat_perform.mpr ?_)
          rintro _ rfl c' hc'
          refine ⟨trivial, fun e he => ?_⟩
          cases hcreated : (permissionStores.traced (.createStore (t ++ "-" ++ n)) c' _).1 with
          | ok storeId =>
              rw [hcreated] at he
              cases he
          | error e' =>
              apply hc'.resolve_right
              intro hfault
              simp [Handler.traced, permissionStores, hfault] at hcreated

/-- A model that is not the registered one is published. -/
theorem publishes_converge {existing : Option NamespaceRow}
    (hother : ∀ record ∈ existing, record.model.same model = false) :
    (OpenFga.converge t n model existing).run.Sat permissionStores.traced (publishing faulty)
      (PublishedUnless faulty) s := by
  cases existing with
  | none => exact publishes_after adoptStore_fails fun _ _ => publishes_publish
  | some record =>
      simp only [OpenFga.converge]
      split
      · rw [if_neg (by simp [hother record rfl])]
        exact publishes_publish
      · exact publishes_after adoptStore_fails fun _ _ => publishes_publish

/-- The registered record, if the registry answers. -/
theorem registered_or_faulty :
    (registryCall (Prog.perform (S := PermissionStoreSig) (.getNamespace t n))).run.Sat
      permissionStores.traced (publishing faulty)
      (fun r s' => s'.1 = s.1 ∧ (∀ e, r = .error e → faulty) ∧
        ∀ a, r = .ok a → a = s.1.registry.get t n) s := by
  refine Prog.sat_run_orThrow.mpr (Prog.sat_perform.mpr ?_)
  rintro _ rfl c hc
  refine ⟨trivial, ?_⟩
  cases hfault : c.fault with
  | none => simp [Handler.traced, permissionStores, hfault, Except.mapError]
  | some f =>
      have hf : faulty := hc.resolve_right (by simp [hfault])
      simp [Handler.traced, permissionStores, hfault, Fault.answer, Except.mapError, hf]

/-- **A model that is not the registered one is published**, unless a call fails. -/
theorem publishes_ensure (faulty : Prop) {ctx : RequestContext} {m : Option Value}
    (hcheck : checkEnsure ctx n m = .ok (t, model))
    (hother : ∀ record ∈ s.1.registry.get t n, record.model.same model = false) :
    (ensurePermissionNamespace .openFga ctx n m).run.Sat permissionStores.traced (publishing faulty)
      (PublishedUnless faulty) s := by
  refine Prog.sat_run_bind.mpr (Prog.sat_run_mk.mpr ?_)
  rw [hcheck]
  refine Prog.sat_run_bind.mpr (Prog.sat_run_orThrow.mpr (registered_or_faulty.post ?_))
  rintro r s₁ ⟨hs₁, herror, hok⟩
  cases r with
  | error e => exact .inr ⟨herror e rfl, _, rfl⟩
  | ok current =>
      obtain rfl := hok current rfl
      have hnew : ¬ (s.1.registry.get t n).any (fun record => record.model.same model) = true := by
        cases hget : s.1.registry.get t n with
        | none => simp
        | some record => simp [hother record hget]
      show (registerModel .openFga t n model _).run.Sat _ _ _ s₁
      rw [registerModel, if_neg hnew]
      refine Prog.sat_run_bind.mpr (Prog.sat_run_orThrow.mpr ?_)
      refine Prog.sat_run_bind.mpr (registered_or_faulty.post ?_)
      rintro r s₂ ⟨-, herror, hok⟩
      cases r with
      | error e => exact .inr ⟨herror e rfl, _, rfl⟩
      | ok existing =>
          obtain rfl := hok existing rfl
          rw [← hs₁] at hother
          refine (publishes_converge hother).post ?_
          intro r s₃ hr
          cases r with
          | ok _ =>
              rcases hr with hpublished | ⟨-, e, he⟩
              · exact (published_kept hpublished).post fun _ _ => .inl
              · cases he
          | error e =>
              rcases hr with hpublished | ⟨hf, -⟩
              · exact .inl hpublished
              · exact .inr ⟨hf, _, rfl⟩

end publishing

/-! ## Canonical models -/

/-- The calls of `EnsurePermissionNamespace`. -/
def ensureEvents (w : PermissionWorld) (ctx : RequestContext) (n : String) (m : Value)
    (choices : ℕ → PermissionChoice) : List PermissionEvent :=
  (ensurePermissionNamespace .openFga ctx n (some m)).run.events permissionStores choices w

/-- Its answer. -/
def ensureAnswer (w : PermissionWorld) (ctx : RequestContext) (n : String) (m : Value)
    (choices : ℕ → PermissionChoice) : Except ServiceError (Option NamespaceRow) :=
  ((ensurePermissionNamespace .openFga ctx n (some m)).run.run permissionStores choices w).1

/-- The model means something else than the registered one, or none is registered. -/
def Changed (w : PermissionWorld) (t n : String) (m : Value) : Prop :=
  ∀ record ∈ w.registry.get t n, ¬ Reordered record.model m

/-- The normal form of a model is canonical: it is its own, it is shared with the reorderings of the model
alone, and the model is published just when its meaning changed. -/
structure CanonicalModel (w : PermissionWorld) (ctx : RequestContext) (t n : String) (m normal : Value) :
    Prop where
  idempotent : validateAndNormalizeModel normal = .ok normal
  canonical : ∀ m' normal', validateAndNormalizeModel m' = .ok normal' →
    (normal.same normal' = true ↔ Reordered m m')
  changed : ∀ choices, Published (ensureEvents w ctx n m choices) → Changed w t n m
  published : ∀ choices row, ensureAnswer w ctx n m choices = .ok row → Changed w t n m →
    Published (ensureEvents w ctx n m choices)

section canonical

variable {w : PermissionWorld} {ctx : RequestContext} {t n : String} {m normal : Value}

theorem checkEnsure_ok (h : checkEnsure ctx n (some m) = .ok (t, normal)) :
    validateAndNormalizeModel m = .ok normal := by
  unfold checkEnsure at h
  obtain ⟨t', -, h⟩ := except_bind_eq_ok.mp h
  obtain ⟨_, -, h⟩ := except_bind_eq_ok.mp h
  obtain ⟨normal', hnormal, h⟩ := except_bind_eq_ok.mp h
  cases h
  exact hnormal

/-- The calls are those that a traced run remembers. -/
theorem published_traced {α : Type} {p : Prog PermissionStoreSig α} {choices : ℕ → PermissionChoice} :
    Published (p.run permissionStores.traced choices (w, [])).2.2 ↔
      Published (p.events permissionStores choices w) := by
  rw [Prog.run_traced]
  simp [Published]

/-- Where the normal form is registered, nothing is published. -/
theorem not_published_of_same (hcheck : checkEnsure ctx n (some m) = .ok (t, normal)) {record : NamespaceRow}
    (hget : w.registry.get t n = some record) (hsame : record.model.same normal = true)
    (choices : ℕ → PermissionChoice) : ¬ Published (ensureEvents w ctx n m choices) := by
  have hsat : (ensurePermissionNamespace .openFga ctx n (some m)).run.Sat permissionStores
      (.alone (fun _ _ _ => True) fun op _ _ => ∀ s v, op ≠ .writeModel s v) (fun _ _ => True) w := by
    refine Prog.sat_run_bind.mpr (Prog.sat_run_mk.mpr ?_)
    rw [hcheck]
    refine Prog.sat_run_bind.mpr (Prog.sat_run_orThrow.mpr (Prog.sat_run_orThrow.mpr ?_))
    refine Prog.sat_perform.mpr ?_
    rintro _ rfl c -
    refine ⟨(fun _ _ h => by cases h), ?_⟩
    cases hfault : c.fault with
    | none =>
        simp only [permissionStores, hfault, Fault.answer_none, hget, Except.mapError]
        show (registerModel .openFga t n normal (some record)).run.Sat _ _ _ _
        rw [registerModel, if_pos (by simpa using hsame)]
        trivial
    | some f => simp [permissionStores, hfault, Fault.answer, Except.mapError]
  rintro ⟨ev, hev, s, v, hop⟩
  exact (hsat.run_events (fun _ => rfl) fun _ _ => trivial).1 ev hev s v hop

/-- Any other model is published, if the call succeeds or no store fails. -/
theorem published_of_other (hcheck : checkEnsure ctx n (some m) = .ok (t, normal))
    (hother : ∀ record ∈ w.registry.get t n, record.model.same normal = false)
    (choices : ℕ → PermissionChoice)
    (hwell : (∃ row, ensureAnswer w ctx n m choices = .ok row) ∨ ∀ i, (choices i).fault = none) :
    Published (ensureEvents w ctx n m choices) := by
  rcases hwell with ⟨row, hrow⟩ | hfaults
  · have hrun := ((publishes_ensure True (s := (w, [])) hcheck hother).run_events (o := choices) (fun _ => rfl)
      fun _ _ => .inl trivial).2
    rcases hrun with hpublished | ⟨-, e, he⟩
    · exact published_traced.mp hpublished
    · rw [Prog.run_traced] at he
      rw [ensureAnswer, he] at hrow
      cases hrow
  · have hassume : ∀ ev ∈ (ensurePermissionNamespace .openFga ctx n (some m)).run.events
        permissionStores.traced choices (w, []), False ∨ ev.choice.fault = none := by
      intro ev hev
      obtain ⟨i, hi⟩ := Prog.choice_of_mem_events hev
      rw [hi]
      exact .inr (hfaults i)
    have hrun := ((publishes_ensure False hcheck hother).run_events (fun _ => rfl) hassume).2
    rcases hrun with hpublished | ⟨hf, -⟩
    · exact published_traced.mp hpublished
    · exact hf.elim

/-- **Canonical models.** The normal form of a model is canonical exactly if what is registered lists its
definitions by type, or means something else. -/
theorem canonicalModel_iff (hcheck : checkEnsure ctx n (some m) = .ok (t, normal)) (hm : m.wellFormed = true)
    (hstored : ∀ record ∈ w.registry.get t n, record.model.wellFormed = true) :
    CanonicalModel w ctx t n m normal ↔
      ∀ record ∈ w.registry.get t n, ListedInOrder record.model ∨ ¬ Reordered record.model m := by
  obtain ⟨fields, defs, haccepted, rfl⟩ := validateAndNormalizeModel_eq_ok.mp (checkEnsure_ok hcheck)
  constructor
  · intro h record hrecord
    by_contra hcon
    push Not at hcon
    obtain ⟨hunordered, hreordered⟩ := hcon
    have hget : w.registry.get t n = some record := hrecord
    -- It means the same, but the normal form is another document: a run without faults publishes it.
    have hother : ∀ r ∈ w.registry.get t n, r.model.same (withDefinitions m (sortByType defs)) = false := by
      intro r hr
      rw [hget, Option.mem_some_iff] at hr
      rw [← hr, ← Bool.not_eq_true, haccepted.same_normal_iff (hstored record hrecord)]
      intro hboth
      exact hunordered hboth.2
    have hpublished := published_of_other hcheck hother (fun _ => ⟨none, 0, fun _ => ""⟩) (.inr fun _ => rfl)
    exact h.changed _ hpublished record hrecord hreordered
  · intro hcond
    have hchanged : Changed w t n m ↔
        ∀ record ∈ w.registry.get t n, record.model.same (withDefinitions m (sortByType defs)) = false := by
      refine forall₂_congr fun record hrecord => ?_
      rw [← Bool.not_eq_true, haccepted.same_normal_iff (hstored record hrecord)]
      have := hcond record hrecord
      tauto
    refine ⟨normalize_idempotent (checkEnsure_ok hcheck), fun m' normal' hm' => ?_, fun choices hpub => ?_,
      fun choices row hrow hnew => ?_⟩
    · obtain ⟨fields', defs', haccepted', rfl⟩ := validateAndNormalizeModel_eq_ok.mp hm'
      exact normal_forms_same_iff haccepted haccepted' hm
    · refine hchanged.mpr fun record hrecord => ?_
      rw [← Bool.not_eq_true]
      intro hsame
      exact not_published_of_same hcheck hrecord hsame choices hpub
    · exact published_of_other hcheck (hchanged.mp hnew) choices (.inl ⟨row, hrow⟩)

end canonical

/-- The stores after a model was registered. -/
def docsWorld : PermissionWorld :=
  ((ensurePermissionNamespace .openFga acmePermissionAdmin "docs" (some (modelOfType "doc"))).run.run
    permissionStores untroubled blankWorld).2

/-- It is listed by type, and so canonical for every model that is sent next, as for itself. -/
theorem docs_canonical : (docsWorld.registry.get "acme" "docs").isSome ∧
    CanonicalModel docsWorld acmePermissionAdmin "acme" "docs" (modelOfType "doc") (modelOfType "doc") := by
  have hregistered : (docsWorld.registry.get "acme" "docs").map (·.model) = some (modelOfType "doc") := rfl
  have hmodel : ∀ record ∈ docsWorld.registry.get "acme" "docs", record.model = modelOfType "doc" := by
    intro record hrecord
    rw [Option.mem_def.mp hrecord] at hregistered
    exact Option.some.inj hregistered
  refine ⟨rfl, (canonicalModel_iff rfl (by decide) fun record hrecord => ?_).mpr fun record hrecord => ?_⟩
  · rw [hmodel record hrecord]
    decide
  · rw [hmodel record hrecord]
    exact .inl (List.pairwise_singleton _ _)

/-! ## The gateway's own model -/

/-- The gateway's own model is the same whatever the order of its definitions. -/
theorem entitlementModel_reordered : Reordered entitlementModel entitlementModel :=
  ⟨definitionsOf entitlementModel, .refl _, by decide +kernel⟩

/-- The tenant was seeded; the gateway's own model is sent, means what is registered, and is published. -/
theorem seeded_republished :
    ¬ CanonicalModel seededWorld acmePermissionAdmin "acme" entitlementNamespace entitlementModel
      (withDefinitions entitlementModel (sortByType (definitionsOf entitlementModel))) := by
  intro h
  have hpublished : Published
      (ensureEvents seededWorld acmePermissionAdmin entitlementNamespace entitlementModel untroubled) := by
    have hcheck : checkEnsure acmePermissionAdmin entitlementNamespace (some entitlementModel) =
        .ok ("acme", withDefinitions entitlementModel (sortByType (definitionsOf entitlementModel))) := by
      rfl
    have hregistered : (seededWorld.registry.get "acme" entitlementNamespace).all fun record =>
        record.model.same (withDefinitions entitlementModel (sortByType (definitionsOf entitlementModel))) =
          false := by
      decide +kernel
    refine published_of_other hcheck (fun record hrecord => ?_) untroubled (.inr fun _ => rfl)
    rw [Option.mem_def.mp hrecord] at hregistered
    simpa using hregistered
  have hregistered : (seededWorld.registry.get "acme" entitlementNamespace).map (·.model) =
      some entitlementModel := rfl
  obtain ⟨record, hrecord, hmodel⟩ := Option.map_eq_some_iff.mp hregistered
  apply h.changed untroubled hpublished record hrecord
  rw [hmodel]
  exact entitlementModel_reordered

end SsoGateway
