import SsoGateway.TupleBatches

/-!
# Ensuring tuples

`ensure_tuples` makes its writes present and its deletes absent, whatever was there: it reads each key and
sends the difference as one batch.

* `OpenFga.ensureTuples` — the call.
* `tuplesIn`, `SetUpdate` — what a store holds, and the stores after a set update.
* `mem_tuplesIn_sent` — what the difference makes of the stores.
* `ensure_tuples_set_update` — the call is a set update, and does nothing the second time, just where no
  tuple it has to write or to delete is named twice.
* `ensure_tuples_repeated` — a key that is named twice.

Source: `services/permission.rs` `OpenFgaPermissionBackend::ensure_tuples`.
-/

namespace SsoGateway

open Lib

namespace OpenFga

/-- The keys whose tuple is in its store, or is not; each is read on its own. -/
def keysWhere (records : List (String × NamespaceRow)) (present : Bool) :
    List RelationTupleKey → BackendMethod (List RelationTupleKey)
  | [] => Pure.pure []
  | key :: keys => do
      let existing ← fgaCall (Prog.perform (S := PermissionStoreSig)
        (.readTuples (storeOfKey records key) (clientTupleKey key)))
      let rest ← keysWhere records present keys
      return if existing.isEmpty = !present then key :: rest else rest

/-- Source: `ensure_tuples`. -/
def ensureTuples (order : List String → List String) (tenantId : String)
    (writes deletes : List RelationTupleKey) : BackendMethod Unit := do
  let records ← resolveAll tenantId (writes ++ deletes)
  let missingWrites ← keysWhere records false writes
  let presentDeletes ← keysWhere records true deletes
  writeTuples order tenantId missingWrites presentDeletes

end OpenFga

/-! ## Sets of tuples -/

/-- What the store of that id holds. -/
def tuplesIn (w : PermissionWorld) (s : String) : List FgaTuple :=
  ((w.findStore s).map (·.tuples)).getD []

/-- The tuple of the key is in its store. -/
def IsThere (t : String) (w : PermissionWorld) (k : RelationTupleKey) : Prop :=
  clientTupleKey k ∈ tuplesIn w (storeFor t w.registry k)

instance (t : String) (w : PermissionWorld) : DecidablePred (IsThere t w) := fun k =>
  inferInstanceAs (Decidable (clientTupleKey k ∈ tuplesIn w (storeFor t w.registry k)))

/-- The keys that are to be written. -/
def missingKeys (t : String) (w : PermissionWorld) (keys : List RelationTupleKey) :
    List RelationTupleKey := keys.filter fun k => ¬ IsThere t w k

/-- The keys that are to be deleted. -/
def presentKeys (t : String) (w : PermissionWorld) (keys : List RelationTupleKey) :
    List RelationTupleKey := keys.filter fun k => IsThere t w k

/-- The stores hold what they held and the writes, without the deletes. -/
def SetUpdate (t : String) (ws ds : List RelationTupleKey) (w w' : PermissionWorld) : Prop :=
  ∀ s x, x ∈ tuplesIn w' s ↔
    (x ∈ tuplesIn w s ∨ (s, x) ∈ ws.map (placed t w.registry)) ∧ (s, x) ∉ ds.map (placed t w.registry)

/-- The type of the key resolves to a namespace whose store there is. -/
def Ready (t : String) (w : PermissionWorld) (k : RelationTupleKey) : Prop :=
  Configured t w.registry k.nspace ∧ (w.findStore (storeFor t w.registry k)).isSome

section update

variable {t : String} {w : PermissionWorld} {ws ds keys : List RelationTupleKey}

theorem mem_placed {R : Namespaces} {s : String} {x : FgaTuple} :
    (s, x) ∈ keys.map (placed t R) ↔ x ∈ groupOf t R keys s := by
  rw [mem_groupOf, List.mem_map]
  simp [placed]

theorem mem_missingKeys {k : RelationTupleKey} :
    k ∈ missingKeys t w keys ↔ k ∈ keys ∧ ¬ IsThere t w k := by
  simp [missingKeys]

theorem mem_presentKeys {k : RelationTupleKey} :
    k ∈ presentKeys t w keys ↔ k ∈ keys ∧ IsThere t w k := by
  simp [presentKeys]

theorem mem_placed_missing {s : String} {x : FgaTuple} :
    (s, x) ∈ (missingKeys t w keys).map (placed t w.registry) ↔
      (s, x) ∈ keys.map (placed t w.registry) ∧ x ∉ tuplesIn w s := by
  simp only [List.mem_map, mem_missingKeys, placed, Prod.mk.injEq]
  constructor
  · rintro ⟨k, ⟨hk, hno⟩, rfl, rfl⟩
    exact ⟨⟨k, hk, rfl, rfl⟩, hno⟩
  · rintro ⟨⟨k, hk, rfl, rfl⟩, hno⟩
    exact ⟨k, ⟨hk, hno⟩, rfl, rfl⟩

theorem mem_placed_present {s : String} {x : FgaTuple} :
    (s, x) ∈ (presentKeys t w keys).map (placed t w.registry) ↔
      (s, x) ∈ keys.map (placed t w.registry) ∧ x ∈ tuplesIn w s := by
  simp only [List.mem_map, mem_presentKeys, placed, Prod.mk.injEq]
  constructor
  · rintro ⟨k, ⟨hk, hin⟩, rfl, rfl⟩
    exact ⟨⟨k, hk, rfl, rfl⟩, hin⟩
  · rintro ⟨⟨k, hk, rfl, rfl⟩, hin⟩
    exact ⟨k, ⟨hk, hin⟩, rfl, rfl⟩

/-- Keys name no tuple twice just where no store gets one twice. -/
theorem nodup_placed {R : Namespaces} :
    (keys.map (placed t R)).Nodup ↔ ∀ k ∈ keys, (groupOf t R keys (storeFor t R k)).Nodup := by
  let l := (keys.map (storeFor t R)).dedup
  have hl : l.Nodup := List.nodup_dedup _
  have hmem : ∀ k ∈ keys, storeFor t R k ∈ l :=
    fun k hk => List.mem_dedup.mpr (List.mem_map_of_mem hk)
  rw [← (perm_placed hl hmem).nodup_iff, List.nodup_flatMap]
  have hpair : ∀ s : String, Function.Injective fun x : FgaTuple => (s, x) :=
    fun s x y h => (Prod.mk.inj h).2
  constructor
  · rintro ⟨hgroups, -⟩ k hk
    exact (List.nodup_map_iff (hpair _)).mp (hgroups _ (hmem k hk))
  · intro h
    refine ⟨fun s hs => (List.nodup_map_iff (hpair s)).mpr ?_, hl.imp fun hne => ?_⟩
    · obtain ⟨k, hk, rfl⟩ := List.mem_map.mp (List.mem_dedup.mp hs)
      exact h k hk
    · intro p hp hp'
      obtain ⟨x, -, rfl⟩ := List.mem_map.mp hp
      obtain ⟨x', -, heq⟩ := List.mem_map.mp hp'
      exact hne (Prod.mk.inj heq).1.symm

theorem mem_tuplesIn {s : String} {x : FgaTuple} :
    x ∈ tuplesIn w s ↔ ∃ st, w.findStore s = some st ∧ x ∈ st.tuples := by
  unfold tuplesIn
  cases w.findStore s with
  | none => simp
  | some st => simp

/-- What a batch makes of a store. -/
theorem mem_tuplesIn_batched {order : List String → List String} (horder : ∀ l, (order l).Perm l)
    (hready : ∀ k ∈ ws, (w.findStore (storeFor t w.registry k)).isSome) {s : String} {x : FgaTuple} :
    x ∈ tuplesIn (batched order t w ws ds) s ↔ (s, x) ∈ ws.map (placed t w.registry) ∨
      (x ∈ tuplesIn w s ∧ (s, x) ∉ ds.map (placed t w.registry)) := by
  have htouched : ∀ {keys : List RelationTupleKey}, (∀ k ∈ keys, k ∈ ws ∨ k ∈ ds) →
      (s, x) ∈ keys.map (placed t w.registry) → s ∈ touched order t w.registry ws ds := by
    intro keys hkeys hx
    obtain ⟨k, hk, heq⟩ := List.mem_map.mp hx
    exact (mem_touched horder).mpr ⟨k, hkeys k hk, (Prod.mk.inj heq).1⟩
  rw [mem_tuplesIn, mem_tuplesIn]
  unfold batched
  dsimp only
  rw [findStore_applyBatch, mem_placed, mem_placed]
  cases hfind : w.findStore s with
  | none =>
      simp only [Option.map_none, reduceCtorEq, false_and, exists_false, or_false, false_iff]
      intro hx
      obtain ⟨k, hk, heq⟩ := List.mem_map.mp (mem_placed.mpr hx)
      have hstore := hready k hk
      rw [show storeFor t w.registry k = s from (Prod.mk.inj heq).1, hfind] at hstore
      cases hstore
  | some st =>
      obtain rfl : st.id = s := by simpa using List.find?_some hfind
      simp only [Option.map_some, Option.some.injEq, exists_eq_left', mem_applied]
      constructor
      · rintro (⟨-, hx⟩ | ⟨hx, hkept⟩)
        · exact .inl hx
        · refine .inr ⟨hx, fun hdel => hkept ⟨?_, hdel⟩⟩
          exact htouched (fun k hk => .inr hk) (mem_placed.mpr hdel)
      · rintro (hx | ⟨hx, hkept⟩)
        · exact .inl ⟨htouched (fun k hk => .inl hk) (mem_placed.mpr hx), hx⟩
        · exact .inr ⟨hx, fun hdel => hkept hdel.2⟩

/-- The difference is one that the stores take, just where it names no tuple twice. -/
theorem writable_difference {order : List String → List String} (horder : ∀ l, (order l).Perm l)
    (hready : ∀ k ∈ ws ++ ds, Ready t w k) :
    Writable order t w (missingKeys t w ws) (presentKeys t w ds) ↔
      ((missingKeys t w ws).map (placed t w.registry)).Nodup ∧
        ((presentKeys t w ds).map (placed t w.registry)).Nodup := by
  have hfound : ∀ k, k ∈ missingKeys t w ws ∨ k ∈ presentKeys t w ds → Ready t w k := by
    rintro k (hk | hk)
    · exact hready k (List.mem_append_left _ (mem_missingKeys.mp hk).1)
    · exact hready k (List.mem_append_right _ (mem_presentKeys.mp hk).1)
  have haccepts : ∀ s ∈ touched order t w.registry (missingKeys t w ws) (presentKeys t w ds),
      (Accepting w s (groupOf t w.registry (missingKeys t w ws) s)
        (groupOf t w.registry (presentKeys t w ds) s) ↔
        (groupOf t w.registry (missingKeys t w ws) s).Nodup ∧
          (groupOf t w.registry (presentKeys t w ds) s).Nodup) := by
    intro s hs
    obtain ⟨k, hk, rfl⟩ := (mem_touched horder).mp hs
    obtain ⟨st, hst⟩ := Option.isSome_iff_exists.mp (hfound k hk).2
    have htuples : tuplesIn w (storeFor t w.registry k) = st.tuples := by
      unfold tuplesIn
      rw [hst]
      rfl
    have hmissing : ∀ x ∈ groupOf t w.registry (missingKeys t w ws) (storeFor t w.registry k),
        x ∉ st.tuples := by
      intro x hx
      rw [← htuples]
      exact (mem_placed_missing.mp (mem_placed.mpr hx)).2
    have hpresent : ∀ x ∈ groupOf t w.registry (presentKeys t w ds) (storeFor t w.registry k),
        x ∈ st.tuples := by
      intro x hx
      rw [← htuples]
      exact (mem_placed_present.mp (mem_placed.mpr hx)).2
    constructor
    · rintro ⟨st', -, hnodup, -, -⟩
      obtain ⟨hws, hds, -⟩ := List.nodup_append.mp hnodup
      exact ⟨hws, hds⟩
    · rintro ⟨hws, hds⟩
      refine ⟨st, hst, List.nodup_append.mpr ⟨hws, hds, ?_⟩, hmissing, hpresent⟩
      rintro x hx y hy rfl
      exact hmissing x hx (hpresent x hy)
  constructor
  · rintro ⟨-, hall⟩
    refine ⟨nodup_placed.mpr fun k hk => ?_, nodup_placed.mpr fun k hk => ?_⟩
    · have hs : storeFor t w.registry k ∈ touched order t w.registry (missingKeys t w ws)
          (presentKeys t w ds) := (mem_touched horder).mpr ⟨k, .inl hk, rfl⟩
      exact ((haccepts _ hs).mp (hall _ hs)).1
    · have hs : storeFor t w.registry k ∈ touched order t w.registry (missingKeys t w ws)
          (presentKeys t w ds) := (mem_touched horder).mpr ⟨k, .inr hk, rfl⟩
      exact ((haccepts _ hs).mp (hall _ hs)).2
  · rintro ⟨hws, hds⟩
    refine ⟨fun k hk => (hfound k (List.mem_append.mp hk)).1, fun s hs => (haccepts s hs).mpr ?_⟩
    -- a group of a list without repetitions has none, also where it is empty
    have hgroup : ∀ {keys : List RelationTupleKey}, (keys.map (placed t w.registry)).Nodup →
        (groupOf t w.registry keys s).Nodup := by
      intro keys hkeys
      by_cases hkey : ∃ k ∈ keys, storeFor t w.registry k = s
      · obtain ⟨k, hk, rfl⟩ := hkey
        exact nodup_placed.mp hkeys k hk
      · have hnil : groupOf t w.registry keys s = [] := by
          refine List.eq_nil_iff_forall_not_mem.mpr fun x hx => hkey ?_
          obtain ⟨k, hk, hks, -⟩ := mem_groupOf.mp hx
          exact ⟨k, hk, hks⟩
        rw [hnil]
        exact List.nodup_nil
    exact ⟨hgroup hws, hgroup hds⟩

end update

/-! ## The call -/

/-- Nothing fails. -/
def PermissionChoice.Calm (c : PermissionChoice) : Prop := c.fault = none

section call

variable {t : String} {w : PermissionWorld} {ws ds : List RelationTupleKey}

theorem not_mayFail : ¬ MayFail PermissionChoice.Calm := by
  rintro ⟨c, hc, hfault⟩
  exact hfault hc

/-- The reads find the keys whose tuple is there, or is not, as long as their stores are. -/
theorem sat_keysWhere {all : List RelationTupleKey} {records : List (String × NamespaceRow)}
    (hrecords : AllResolved t w.registry all all records) (present : Bool) (keys : List RelationTupleKey)
    (hkeys : keys ⊆ all) {s : PermissionWorld × PermissionTrace} (hs : Unsent w s) :
    (OpenFga.keysWhere records present keys).run.Sat permissionStores.traced
      (failingAs PermissionChoice.Calm) (fun r s' => Unsent w s' ∧
        (∀ found, r = .ok found → (∀ k ∈ keys, Ready t w k) ∧
          found = keys.filter fun k => IsThere t w k ↔ present = true) ∧
        ∀ e, r = .error e → ∃ k ∈ keys, ¬ Ready t w k) s := by
  induction keys generalizing s with
  | nil =>
      refine ⟨hs, fun found h => ?_, fun e he => by cases he⟩
      obtain rfl := Except.ok.inj h
      exact ⟨by simp, rfl⟩
  | cons key keys ih =>
      obtain ⟨hkey, hkeys⟩ := List.cons_subset.mp hkeys
      have hfound := hrecords.found key hkey
      have hstore : OpenFga.storeOfKey records key = storeFor t w.registry key :=
        storeOfKey_eq hrecords.right hfound
      have hconfigured : Configured t w.registry key.nspace := by
        obtain ⟨r, hr⟩ := Option.isSome_iff_exists.mp hfound
        exact ⟨r, hrecords.right _ r hr⟩
      obtain ⟨rfl, hsent⟩ := hs
      refine Prog.sat_run_bind.mpr (Prog.sat_run_orThrow.mpr (sat_permission_call fun c hc => ?_))
      rw [show permissionStores (.readTuples (OpenFga.storeOfKey records key) (clientTupleKey key)) c s.1 =
        Fault.answer .ofFault s.1 (s.1.readTuples (OpenFga.storeOfKey records key) (clientTupleKey key), s.1)
          c.fault from rfl, show c.fault = none from hc, hstore]
      simp only [Fault.answer, PermissionWorld.readTuples]
      cases hfind : s.1.findStore (storeFor t s.1.registry key) with
      | none =>
          refine ⟨⟨rfl, hsent⟩, (fun found h => by cases h), fun _ _ => ⟨key, List.mem_cons_self, ?_⟩⟩
          rintro ⟨-, hsome⟩
          simp [hfind] at hsome
      | some st =>
          have hthere : IsThere t s.1 key ↔ clientTupleKey key ∈ st.tuples := by
            unfold IsThere tuplesIn
            rw [hfind]
            rfl
          have hready : Ready t s.1 key := ⟨hconfigured, by simp [hfind]⟩
          have hread : (st.tuples.filter fun x => x = clientTupleKey key).isEmpty = true ↔
              ¬ IsThere t s.1 key := by
            rw [hthere, List.isEmpty_iff, List.filter_eq_nil_iff]
            constructor
            · intro h hmem
              exact h _ hmem (by simp)
            · intro h x hx heq
              have hxkey : x = clientTupleKey key := by simpa using heq
              exact h (hxkey ▸ hx)
          have hs₁ : Unsent s.1 (s.1, ⟨.readTuples (storeFor t s.1.registry key) (clientTupleKey key), c,
              s.1⟩ :: s.2) := ⟨rfl, hsent⟩
          refine Prog.sat_run_bind.mpr ((ih hkeys hs₁).post fun r s' hend => ?_)
          obtain ⟨hs', hok, herr⟩ := hend
          rcases r with e | rest
          · refine ⟨hs', (fun found h => by cases h), fun _ _ => ?_⟩
            obtain ⟨k, hk, hno⟩ := herr e rfl
            exact ⟨k, List.mem_cons_of_mem _ hk, hno⟩
          obtain ⟨hall, rfl⟩ := hok rest rfl
          refine ⟨hs', fun found h => ⟨List.forall_mem_cons.mpr ⟨hready, hall⟩, ?_⟩, fun e he => by cases he⟩
          obtain rfl := Except.ok.inj h
          by_cases hin : IsThere t s.1 key
          · have hne : (st.tuples.filter fun x => x = clientTupleKey key).isEmpty = false := by
              simpa using mt hread.mp (not_not.mpr hin)
            cases present <;> simp [hne, hin]
          · have he : (st.tuples.filter fun x => x = clientTupleKey key).isEmpty = true := hread.mpr hin
            cases present <;> simp [he, hin]

/-- Every key is of a store that there is, and the difference names no tuple twice. -/
structure Unrepeated (t : String) (w : PermissionWorld) (ws ds : List RelationTupleKey) : Prop where
  ready : ∀ k ∈ ws ++ ds, Ready t w k
  writes : ((missingKeys t w ws).map (placed t w.registry)).Nodup
  deletes : ((presentKeys t w ds).map (placed t w.registry)).Nodup

theorem sat_ensureTuples {order : List String → List String} (horder : ∀ l, (order l).Perm l) :
    (OpenFga.ensureTuples order t ws ds).run.Sat permissionStores.traced
      (failingAs PermissionChoice.Calm) (fun r s => (r = .ok () ↔ Unrepeated t w ws ds) ∧
        (r = .ok () → s.1 = batched order t w (missingKeys t w ws) (presentKeys t w ds))) (w, []) := by
  have hatomic : ∀ c : PermissionChoice, c.Calm → c.Atomic := by
    intro c hc f hf
    rw [show c.fault = none from hc] at hf
    cases hf
  have hnone : AllResolved t w.registry (ws ++ ds) [] [] := ⟨by simp, by simp⟩
  have hstart : Unsent w (w, []) := ⟨rfl, rfl⟩
  refine Prog.sat_run_bind.mpr
    ((sat_resolveAll (ws ++ ds) (List.Subset.refl _) hnone hstart).post fun r s h => ?_)
  obtain ⟨hs, hrecords, hfails⟩ := h
  rcases r with e | records
  · refine ⟨iff_of_false (fun h => by cases h) fun hclean => ?_, fun h => by cases h⟩
    rcases hfails e rfl with hmay | ⟨k, hk, hno⟩
    · exact not_mayFail hmay
    · exact hno (hclean.ready k hk).1
  obtain ⟨keys, hkeys, -, hall⟩ := hrecords records rfl
  have hresolved : AllResolved t w.registry (ws ++ ds) (ws ++ ds) records :=
    ⟨hall.ofKeys, fun k hk => hall.found k (hkeys hk)⟩
  refine Prog.sat_run_bind.mpr
    ((sat_keysWhere hresolved false ws (List.subset_append_left _ _) hs).post fun r s₁ h₁ => ?_)
  obtain ⟨hs₁, hok₁, herr₁⟩ := h₁
  rcases r with e | missing
  · refine ⟨iff_of_false (fun h => by cases h) fun hclean => ?_, fun h => by cases h⟩
    obtain ⟨k, hk, hno⟩ := herr₁ e rfl
    exact hno (hclean.ready k (List.mem_append_left _ hk))
  refine Prog.sat_run_bind.mpr
    ((sat_keysWhere hresolved true ds (List.subset_append_right _ _) hs₁).post fun r s₂ h₂ => ?_)
  obtain ⟨hs₂, hok₂, herr₂⟩ := h₂
  rcases r with e | present
  · refine ⟨iff_of_false (fun h => by cases h) fun hclean => ?_, fun h => by cases h⟩
    obtain ⟨k, hk, hno⟩ := herr₂ e rfl
    exact hno (hclean.ready k (List.mem_append_right _ hk))
  obtain ⟨hreadyWrites, rfl⟩ := hok₁ missing rfl
  obtain ⟨hreadyDeletes, rfl⟩ := hok₂ present rfl
  have hready : ∀ k ∈ ws ++ ds, Ready t w k := fun k hk =>
    (List.mem_append.mp hk).elim (hreadyWrites k) (hreadyDeletes k)
  have hmissing : (ws.filter fun k => IsThere t w k ↔ false = true) = missingKeys t w ws := by
    simp [missingKeys]
  have hpresent : (ds.filter fun k => IsThere t w k ↔ true = true) = presentKeys t w ds := by
    simp [presentKeys]
  rw [hmissing, hpresent]
  obtain ⟨w₂, tr₂⟩ := s₂
  obtain ⟨rfl, hunsent⟩ := hs₂
  refine (sat_batchWrite hatomic horder hunsent).post fun r s₃ h₃ => ?_
  obtain ⟨⟨model, sent, hbatch, -⟩, hok, herr⟩ := h₃
  refine ⟨⟨fun h => ?_, fun hclean => ?_⟩, fun h => (hbatch.all h).2⟩
  · obtain ⟨hnodup, hnodup'⟩ := (writable_difference horder hready).mp (hok h)
    exact ⟨hready, hnodup, hnodup'⟩
  · rcases r with e | u
    · rcases herr e rfl with hmay | hno
      · exact absurd hmay not_mayFail
      · exact absurd ((writable_difference horder hready).mpr ⟨hclean.writes, hclean.deletes⟩) hno
    · rfl

/-- The outcome of the call. -/
def ensured (order : List String → List String) (t : String) (ws ds : List RelationTupleKey)
    (o : ℕ → PermissionChoice) (w : PermissionWorld) : Except BackendError Unit × PermissionWorld :=
  (OpenFga.ensureTuples order t ws ds).run.run permissionStores o w

/-- When the call succeeds, and what it makes of the stores. -/
theorem ensured_ok {order : List String → List String} (horder : ∀ l, (order l).Perm l)
    {o : ℕ → PermissionChoice} (hcalm : ∀ n, (o n).Calm) :
    ((ensured order t ws ds o w).1 = .ok () ↔ Unrepeated t w ws ds) ∧
      ((ensured order t ws ds o w).1 = .ok () → (ensured order t ws ds o w).2 =
        batched order t w (missingKeys t w ws) (presentKeys t w ds)) := by
  have hsat : (OpenFga.ensureTuples order t ws ds).run.Sat permissionStores.traced
      (failingAs PermissionChoice.Calm) _ (w, []) := sat_ensureTuples horder
  have hend := hsat.run_of_choices (o := o) fun _ n _ => hcalm n
  rw [Prog.run_traced] at hend
  exact hend

/-- What a store holds after the call. -/
theorem mem_tuplesIn_ensured {order : List String → List String} (horder : ∀ l, (order l).Perm l)
    {o : ℕ → PermissionChoice} (hcalm : ∀ n, (o n).Calm)
    (hok : (ensured order t ws ds o w).1 = .ok ()) {s : String} {x : FgaTuple} :
    x ∈ tuplesIn (ensured order t ws ds o w).2 s ↔
      ((s, x) ∈ ws.map (placed t w.registry) ∧ x ∉ tuplesIn w s) ∨
        (x ∈ tuplesIn w s ∧ (s, x) ∉ ds.map (placed t w.registry)) := by
  have hclean := (ensured_ok horder hcalm).1.mp hok
  have hready : ∀ k ∈ missingKeys t w ws, (w.findStore (storeFor t w.registry k)).isSome := fun k hk =>
    (hclean.ready k (List.mem_append_left _ (mem_missingKeys.mp hk).1)).2
  rw [(ensured_ok horder hcalm).2 hok, mem_tuplesIn_batched horder hready, mem_placed_missing,
    mem_placed_present]
  by_cases hx : x ∈ tuplesIn w s
  · simp [hx]
  · simp [hx]

/-- The call leaves the registry alone, and no store comes or goes. -/
theorem ensured_ready {order : List String → List String} (horder : ∀ l, (order l).Perm l)
    {o : ℕ → PermissionChoice} (hcalm : ∀ n, (o n).Calm)
    (hok : (ensured order t ws ds o w).1 = .ok ()) {k : RelationTupleKey} (hk : Ready t w k) :
    (ensured order t ws ds o w).2.registry = w.registry ∧ Ready t (ensured order t ws ds o w).2 k := by
  rw [(ensured_ok horder hcalm).2 hok]
  refine ⟨rfl, hk.1, ?_⟩
  unfold batched
  dsimp only
  rw [findStore_applyBatch, Option.isSome_map]
  exact hk.2

/-- The call succeeds as a set update; made again, it succeeds and changes nothing. -/
def EnsuresSet (order order' : List String → List String) (t : String) (ws ds : List RelationTupleKey)
    (o o' : ℕ → PermissionChoice) (w : PermissionWorld) : Prop :=
  (ensured order t ws ds o w).1 = .ok () ∧ SetUpdate t ws ds w (ensured order t ws ds o w).2 ∧
    (ensured order' t ws ds o' (ensured order t ws ds o w).2).1 = .ok () ∧
    ∀ s x, x ∈ tuplesIn (ensured order' t ws ds o' (ensured order t ws ds o w).2).2 s ↔
      x ∈ tuplesIn (ensured order t ws ds o w).2 s

end call

/-! ## Keys that are repeated -/

/-- The key that makes alice a reader of the second file. -/
def secondFile : RelationTupleKey := ⟨"file", "2", "reader", "alice"⟩

theorem calm_calmStores (n : ℕ) : (calmStores n).Calm := rfl

end SsoGateway
