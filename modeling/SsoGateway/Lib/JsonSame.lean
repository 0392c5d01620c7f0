import Mathlib.Data.List.Forall2
import Mathlib.Data.List.Nodup
import Mathlib.Data.List.Perm.Subperm
import SsoGateway.Lib.Json

/-!
# Equal documents

* `same_obj_iff`, `same_arr_iff` — when objects and arrays are equal, field by field and item by item.
* `same_get` — equal documents have equal fields.
* `wellFormed` — the fields of every object are listed once each; `same_get_back` — then equal documents
  have the same fields in both directions.
  `same_refl` — and each equals itself.
* `mem_upsert`, `same_upsert_iff` — the fields of an object after one of them was set.

Nothing here is about a particular service.
-/

namespace SsoGateway.Lib.Value

/-! ## Kind by kind -/

theorem same_str_str (s s' : String) : (Value.str s).same (.str s') = (s == s') := rfl

theorem same_arr_arr (items items' : List Value) :
    (Value.arr items).same (.arr items') = sameItems items items' := rfl

theorem same_obj_obj (fields fields' : List (String × Value)) :
    (Value.obj fields).same (.obj fields') =
      (fields.length == fields'.length && sameFields fields fields') := rfl

/-- Equal documents are of one kind. -/
theorem kind_of_same {v v' : Value} (h : v.same v' = true) :
    ((∃ s, v = .str s) ↔ ∃ s, v' = .str s) ∧ ((∃ items, v = .arr items) ↔ ∃ items, v' = .arr items) ∧
      ((∃ fields, v = .obj fields) ↔ ∃ fields, v' = .obj fields) := by
  cases v <;> cases v' <;> first | exact absurd h Bool.false_ne_true | simp

theorem sameItems_cons_cons (v v' : Value) (items items' : List Value) :
    sameItems (v :: items) (v' :: items') = (v.same v' && sameItems items items') := rfl

theorem sameFields_cons (k : String) (v : Value) (fields fields' : List (String × Value)) :
    sameFields ((k, v) :: fields) fields' =
      ((match fields'.lookup k with
        | some v' => v.same v'
        | none => false) && sameFields fields fields') := rfl

theorem sameItems_iff {items items' : List Value} :
    sameItems items items' = true ↔ List.Forall₂ (fun v v' => v.same v' = true) items items' := by
  induction items generalizing items' with
  | nil =>
      cases items' with
      | nil => exact iff_of_true rfl .nil
      | cons v' items' => exact iff_of_false Bool.false_ne_true (by simp)
  | cons v items ih =>
      cases items' with
      | nil => exact iff_of_false Bool.false_ne_true (by simp)
      | cons v' items' => simp only [sameItems_cons_cons, Bool.and_eq_true, ih, List.forall₂_cons]

theorem sameFields_iff {fields fields' : List (String × Value)} :
    sameFields fields fields' = true ↔
      ∀ kv ∈ fields, ∃ v', fields'.lookup kv.1 = some v' ∧ kv.2.same v' = true := by
  induction fields with
  | nil => exact iff_of_true rfl (by simp)
  | cons kv fields ih =>
      obtain ⟨k, v⟩ := kv
      rw [sameFields_cons, Bool.and_eq_true, ih, List.forall_mem_cons]
      apply and_congr_left'
      cases fields'.lookup k with
      | none => simp
      | some v' => simp

theorem same_obj_iff {fields fields' : List (String × Value)} :
    (Value.obj fields).same (.obj fields') = true ↔ fields.length = fields'.length ∧
      ∀ kv ∈ fields, ∃ v', fields'.lookup kv.1 = some v' ∧ kv.2.same v' = true := by
  rw [same_obj_obj, Bool.and_eq_true, beq_iff_eq, sameFields_iff]

theorem same_arr_iff {items items' : List Value} :
    (Value.arr items).same (.arr items') = true ↔
      List.Forall₂ (fun v v' => v.same v' = true) items items' := by
  rw [same_arr_arr, sameItems_iff]

theorem exists_of_same_obj {v : Value} {fields' : List (String × Value)}
    (h : v.same (.obj fields') = true) : ∃ fields, v = .obj fields :=
  (kind_of_same h).2.2.mpr ⟨fields', rfl⟩

theorem mem_of_lookup {fields : List (String × Value)} {k : String} {v : Value}
    (h : fields.lookup k = some v) : (k, v) ∈ fields := by
  obtain ⟨l, l', rfl, -⟩ := List.lookup_eq_some_iff.mp h
  simp

/-- A field of a document is one of every equal document. -/
theorem same_get {v v' x : Value} {k : String} (h : v.same v' = true) (hk : v.get k = some x) :
    ∃ x', v'.get k = some x' ∧ x.same x' = true := by
  cases v with
  | obj fields =>
      obtain ⟨fields', rfl⟩ := (kind_of_same h).2.2.mp ⟨fields, rfl⟩
      exact (same_obj_iff.mp h).2 _ (mem_of_lookup hk)
  | _ => cases hk

/-- Equal texts are the same text. -/
theorem same_str {v' : Value} {s : String} (h : (Value.str s).same v' = true) : v' = .str s := by
  obtain ⟨s', rfl⟩ := (kind_of_same h).1.mp ⟨s, rfl⟩
  rw [same_str_str, beq_iff_eq] at h
  rw [h]

theorem same_arr {v' : Value} {items : List Value} (h : (Value.arr items).same v' = true) :
    ∃ items', v' = .arr items' ∧ List.Forall₂ (fun v v' => v.same v' = true) items items' := by
  obtain ⟨items', rfl⟩ := (kind_of_same h).2.1.mp ⟨items, rfl⟩
  exact ⟨items', rfl, same_arr_iff.mp h⟩

theorem exists_of_same_arr {v : Value} {items' : List Value} (h : v.same (.arr items') = true) :
    ∃ items, v = .arr items ∧ List.Forall₂ (fun v v' => v.same v' = true) items items' := by
  obtain ⟨items, rfl⟩ := (kind_of_same h).2.1.mpr ⟨items', rfl⟩
  exact ⟨items, rfl, same_arr_iff.mp h⟩

/-! ## Well-formed documents -/

mutual

/-- The fields of every object in the document are listed once each. -/
def wellFormed : Value → Bool
  | .arr items => wellFormedItems items
  | .obj fields => decide (fields.map Prod.fst).Nodup && wellFormedFields fields
  | _ => true

/-- The items are well formed. -/
def wellFormedItems : List Value → Bool
  | [] => true
  | v :: items => v.wellFormed && wellFormedItems items

/-- The values of the fields are well formed. -/
def wellFormedFields : List (String × Value) → Bool
  | [] => true
  | (_, v) :: fields => v.wellFormed && wellFormedFields fields

end

theorem wellFormed_arr {items : List Value} :
    (Value.arr items).wellFormed = true ↔ ∀ v ∈ items, v.wellFormed = true := by
  show wellFormedItems items = true ↔ _
  induction items with
  | nil => exact iff_of_true rfl (by simp)
  | cons v items ih =>
      show (v.wellFormed && wellFormedItems items) = true ↔ _
      rw [Bool.and_eq_true, ih, List.forall_mem_cons]

theorem wellFormed_obj {fields : List (String × Value)} :
    (Value.obj fields).wellFormed = true ↔
      (fields.map Prod.fst).Nodup ∧ ∀ kv ∈ fields, kv.2.wellFormed = true := by
  show (decide (fields.map Prod.fst).Nodup && wellFormedFields fields) = true ↔ _
  rw [Bool.and_eq_true, decide_eq_true_eq]
  apply and_congr_right'
  induction fields with
  | nil => exact iff_of_true rfl (by simp)
  | cons kv fields ih =>
      show (kv.2.wellFormed && wellFormedFields fields) = true ↔ _
      rw [Bool.and_eq_true, ih, List.forall_mem_cons]

theorem wellFormed_get {v x : Value} {k : String} (hv : v.wellFormed = true) (hx : v.get k = some x) :
    x.wellFormed = true := by
  cases v with
  | obj fields => exact (wellFormed_obj.mp hv).2 _ (mem_of_lookup hx)
  | _ => cases hx

/-- A field of a document is one of every well-formed document equal to it. -/
theorem same_get_back {v v' x' : Value} {k : String} (hv : v.wellFormed = true) (h : v.same v' = true)
    (hk : v'.get k = some x') : ∃ x, v.get k = some x ∧ x.same x' = true := by
  cases v' with
  | obj fields' =>
      obtain ⟨fields, rfl⟩ := exists_of_same_obj h
      obtain ⟨hlength, hall⟩ := same_obj_iff.mp h
      rw [get_obj] at hk ⊢
      cases hx : fields.lookup k with
      | some x =>
          obtain ⟨x'', hx'', hsame⟩ := hall _ (mem_of_lookup hx)
          rw [hk, Option.some.injEq] at hx''
          exact ⟨x, rfl, hx'' ▸ hsame⟩
      | none =>
          -- A missing field would leave the object with fewer fields than the other.
          have hmissing : k ∉ fields.map Prod.fst := by
            intro hmem
            obtain ⟨kv, hkv, rfl⟩ := List.mem_map.mp hmem
            exact absurd (List.lookup_eq_none_iff.mp hx kv hkv) (by simp)
          have hsub : k :: fields.map Prod.fst ⊆ fields'.map Prod.fst := by
            intro k' hk'
            rcases List.mem_cons.mp hk' with rfl | hk'
            · exact List.mem_map.mpr ⟨_, mem_of_lookup hk, rfl⟩
            · obtain ⟨kv, hkv, rfl⟩ := List.mem_map.mp hk'
              obtain ⟨v'', hv'', -⟩ := hall kv hkv
              exact List.mem_map.mpr ⟨_, mem_of_lookup hv'', rfl⟩
          have hnodup : (k :: fields.map Prod.fst).Nodup :=
            List.nodup_cons.mpr ⟨hmissing, (wellFormed_obj.mp hv).1⟩
          have hle := (hnodup.subperm hsub).length_le
          simp only [List.length_cons, List.length_map] at hle
          omega
  | _ => cases hk

theorem lookup_of_mem {fields : List (String × Value)} (hdistinct : (fields.map Prod.fst).Nodup)
    {kv : String × Value} (hkv : kv ∈ fields) : fields.lookup kv.1 = some kv.2 := by
  induction fields with
  | nil => cases hkv
  | cons kv' fields ih =>
      rw [List.map_cons, List.nodup_cons] at hdistinct
      rcases List.mem_cons.mp hkv with rfl | hkv
      · exact List.lookup_cons_self
      · have hne : kv.1 ≠ kv'.1 := by
          intro heq
          exact hdistinct.1 (List.mem_map.mpr ⟨kv, hkv, heq⟩)
        rw [List.lookup_cons, beq_false_of_ne hne]
        exact ih hdistinct.2 hkv

mutual

/-- A well-formed document equals itself. -/
theorem same_refl : ∀ v : Value, v.wellFormed = true → v.same v = true
  | .null, _ => rfl
  | .bool b, _ => beq_self_eq_true b
  | .number text, _ => beq_self_eq_true text
  | .str s, _ => beq_self_eq_true s
  | .arr items, h => by
      refine same_arr_iff.mpr (List.forall₂_same.mpr ?_)
      exact items_refl items (wellFormed_arr.mp h)
  | .obj fields, h => by
      obtain ⟨hdistinct, hvalues⟩ := wellFormed_obj.mp h
      refine same_obj_iff.mpr ⟨rfl, fun kv hkv => ⟨kv.2, lookup_of_mem hdistinct hkv, ?_⟩⟩
      exact fields_refl fields hvalues kv hkv

theorem items_refl : ∀ items : List Value, (∀ v ∈ items, v.wellFormed = true) →
    ∀ v ∈ items, v.same v = true
  | [], _ => by simp
  | v :: items, h => by
      refine List.forall_mem_cons.mpr ⟨same_refl v (h v List.mem_cons_self), ?_⟩
      exact items_refl items fun v' hv' => h v' (List.mem_cons_of_mem v hv')

theorem fields_refl : ∀ fields : List (String × Value), (∀ kv ∈ fields, kv.2.wellFormed = true) →
    ∀ kv ∈ fields, kv.2.same kv.2 = true
  | [], _ => by simp
  | (k, v) :: fields, h => by
      refine List.forall_mem_cons.mpr ⟨same_refl v (h (k, v) List.mem_cons_self), ?_⟩
      exact fields_refl fields fun kv hkv => h kv (List.mem_cons_of_mem _ hkv)

end

/-! ## Setting a field -/

section upsert

variable {k : String} {x y : Value} {fields fields' : List (String × Value)}

/-- Setting a field to what it is changes nothing. -/
theorem upsert_of_lookup (h : fields.lookup k = some x) : upsert k (fun _ => x) fields = fields := by
  induction fields with
  | nil => simp at h
  | cons kv fields ih =>
      obtain ⟨k', v⟩ := kv
      by_cases hk : k' = k
      · simp [hk] at h
        simp [upsert, hk, h]
      · have hbeq : (k == k') = false := beq_false_of_ne (Ne.symm hk)
        rw [List.lookup_cons, hbeq] at h
        simp [upsert, hk, ih h]

/-- The last value a field is set to stays. -/
theorem upsert_upsert : upsert k (fun _ => y) (upsert k (fun _ => x) fields) = upsert k (fun _ => y) fields := by
  induction fields with
  | nil => simp [upsert]
  | cons kv fields ih =>
      obtain ⟨k', v⟩ := kv
      by_cases hk : k' = k
      · simp [upsert, hk]
      · simp [upsert, hk, ih]

theorem mem_upsert (hdistinct : (fields.map Prod.fst).Nodup) {kv : String × Value} :
    kv ∈ upsert k (fun _ => x) fields ↔ kv = (k, x) ∨ (kv ∈ fields ∧ kv.1 ≠ k) := by
  induction fields with
  | nil => simp [upsert]
  | cons kv' fields ih =>
      obtain ⟨k', v⟩ := kv'
      rw [List.map_cons, List.nodup_cons] at hdistinct
      by_cases hk : k' = k
      · subst hk
        have hother : ∀ kv ∈ fields, kv.1 ≠ k' := by
          intro kv hkv heq
          exact hdistinct.1 (List.mem_map.mpr ⟨kv, hkv, heq⟩)
        rw [upsert, if_pos rfl, List.mem_cons, List.mem_cons]
        constructor
        · rintro (rfl | hkv)
          · exact .inl rfl
          · exact .inr ⟨.inr hkv, hother kv hkv⟩
        · rintro (rfl | ⟨rfl | hkv, hne⟩)
          · exact .inl rfl
          · exact absurd rfl hne
          · exact .inr hkv
      · rw [upsert, if_neg hk, List.mem_cons, ih hdistinct.2, List.mem_cons]
        constructor
        · rintro (rfl | rfl | ⟨hkv, hne⟩)
          · exact .inr ⟨.inl rfl, hk⟩
          · exact .inl rfl
          · exact .inr ⟨.inr hkv, hne⟩
        · rintro (rfl | ⟨rfl | hkv, hne⟩)
          · exact .inr (.inl rfl)
          · exact .inl rfl
          · exact .inr (.inr ⟨hkv, hne⟩)

theorem keys_upsert (h : (fields.lookup k).isSome) :
    (upsert k (fun _ => x) fields).map Prod.fst = fields.map Prod.fst := by
  induction fields with
  | nil => simp at h
  | cons kv fields ih =>
      obtain ⟨k', v⟩ := kv
      by_cases hk : k' = k
      · simp [upsert, hk]
      · have hbeq : (k == k') = false := beq_false_of_ne (Ne.symm hk)
        rw [List.lookup_cons, hbeq] at h
        simp [upsert, hk, ih h]

theorem length_upsert (h : (fields.lookup k).isSome) :
    (upsert k (fun _ => x) fields).length = fields.length := by
  have hkeys := congrArg List.length (keys_upsert (x := x) h)
  rwa [List.length_map, List.length_map] at hkeys

theorem wellFormed_upsert (h : (fields.lookup k).isSome) (hfields : (Value.obj fields).wellFormed = true)
    (hx : x.wellFormed = true) : (Value.obj (upsert k (fun _ => x) fields)).wellFormed = true := by
  obtain ⟨hdistinct, hvalues⟩ := wellFormed_obj.mp hfields
  refine wellFormed_obj.mpr ⟨by rwa [keys_upsert h], fun kv hkv => ?_⟩
  rcases (mem_upsert hdistinct).mp hkv with rfl | ⟨hkv, -⟩
  · exact hx
  · exact hvalues kv hkv

/-- Two objects whose field `k` was set are equal if the values are, and the other fields. -/
theorem same_upsert_iff (hdistinct : (fields.map Prod.fst).Nodup) (h : (fields.lookup k).isSome)
    (h' : (fields'.lookup k).isSome) :
    (Value.obj (upsert k (fun _ => x) fields)).same (.obj (upsert k (fun _ => y) fields')) = true ↔
      fields.length = fields'.length ∧
      (∀ kv ∈ fields, kv.1 ≠ k → ∃ v', fields'.lookup kv.1 = some v' ∧ kv.2.same v' = true) ∧
      x.same y = true := by
  rw [same_obj_iff, length_upsert h, length_upsert h']
  apply and_congr_right'
  constructor
  · intro hall
    refine ⟨fun kv hkv hne => ?_, ?_⟩
    · obtain ⟨v', hv', hsame⟩ := hall kv ((mem_upsert hdistinct).mpr (.inr ⟨hkv, hne⟩))
      rw [lookup_upsert_of_ne hne] at hv'
      exact ⟨v', hv', hsame⟩
    · obtain ⟨v', hv', hsame⟩ := hall (k, x) ((mem_upsert hdistinct).mpr (.inl rfl))
      rw [lookup_upsert_self, Option.some.injEq] at hv'
      rw [hv']
      exact hsame
  · rintro ⟨hothers, hxy⟩ kv hkv
    rcases (mem_upsert hdistinct).mp hkv with rfl | ⟨hkv, hne⟩
    · exact ⟨y, lookup_upsert_self _ _ _, hxy⟩
    · obtain ⟨v', hv', hsame⟩ := hothers kv hkv hne
      refine ⟨v', ?_, hsame⟩
      rw [lookup_upsert_of_ne hne]
      exact hv'

end upsert

end SsoGateway.Lib.Value
