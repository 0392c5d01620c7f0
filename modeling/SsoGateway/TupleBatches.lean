import SsoGateway.OrderlyCalls

/-!
# Batches of tuples, store by store

OpenFGA writes one store at a time: a batch whose keys are of several stores goes out as one request for
each of them, one after another, and ends with the first that fails.

* `perm_flatMap_filter` — a list, group by group.
* `FgaRequest`, `requestsSent` — the requests of a run.
* `BatchSent`, `sat_writeTuples` — what a batch has sent, and what it makes of the stores.
* `write_tuples_by_store` — each key goes to the store of its namespace, once; a batch that fails leaves
  the requests that succeeded before.
* `write_tuples_partly` — a batch that fails half way, and one whose namespaces share a store.

Source: `services/permission.rs` `OpenFgaPermissionBackend::write_tuples`, `resolve_mapping`.
-/

namespace SsoGateway

open Lib

/-! ## Groups -/

section groups

variable {α κ : Type} [DecidableEq κ]

/-- Two filters that exclude each other select what their disjunction does. -/
theorem filter_append_filter_perm {p q r : α → Bool} (l : List α)
    (hor : ∀ x ∈ l, r x = (p x || q x)) (hapart : ∀ x ∈ l, p x = true → q x = false) :
    (l.filter p ++ l.filter q).Perm (l.filter r) := by
  have hfirst : (l.filter r).filter p = l.filter p := by
    rw [List.filter_filter]
    refine List.filter_congr fun x hx => ?_
    by_cases hp : p x = true
    · simp [hor x hx, hp]
    · simp [hp]
  have hrest : (l.filter r).filter (fun x => !p x) = l.filter q := by
    rw [List.filter_filter]
    refine List.filter_congr fun x hx => ?_
    by_cases hp : p x = true
    · simp [hor x hx, hp, hapart x hx hp]
    · simp [hor x hx, hp]
  rw [← hfirst, ← hrest]
  exact List.filter_append_perm p _

/-- Group by group, a list gives what is in the groups, as often as it is there. -/
theorem perm_flatMap_filter {group : α → κ} {keys : List κ} (hkeys : keys.Nodup) (l : List α) :
    (keys.flatMap fun k => l.filter fun x => group x = k).Perm (l.filter fun x => group x ∈ keys) := by
  induction keys with
  | nil => simp
  | cons k keys ih =>
      obtain ⟨hk, hnodup⟩ := List.nodup_cons.mp hkeys
      rw [List.flatMap_cons]
      refine ((ih hnodup).append_left _).trans (filter_append_filter_perm l ?_ ?_)
      · intro x _
        simp
      · intro x _ hx
        have hgroup : group x = k := by simpa using hx
        simpa [hgroup] using hk

end groups

/-! ## The requests of a run -/

/-- A write request to OpenFGA. -/
structure FgaRequest where
  store : String
  model : String
  writes : List FgaTuple
  deletes : List FgaTuple
deriving DecidableEq, Repr

/-- The write request a call is. -/
def PermissionCall.asRequest : PermissionCall → Option FgaRequest
  | .writeTuples s m ws ds => some ⟨s, m, ws, ds⟩
  | _ => none

/-- The write requests among the calls. -/
def requestsSent (tr : PermissionTrace) : List FgaRequest := tr.filterMap fun ev => ev.op.asRequest

/-- What the request writes, and where. -/
def FgaRequest.placedWrites (q : FgaRequest) : List (String × FgaTuple) := q.writes.map (q.store, ·)

/-- What the request deletes, and where. -/
def FgaRequest.placedDeletes (q : FgaRequest) : List (String × FgaTuple) := q.deletes.map (q.store, ·)

/-- The tuple of a key, and the store it belongs to. -/
def placed (t : String) (R : Namespaces) (k : RelationTupleKey) : String × FgaTuple :=
  (storeFor t R k, clientTupleKey k)

/-- The request takes its part of a batch to a store: the keys that are of the store, under the current
model of a namespace that some of the keys resolve to. -/
structure FgaRequest.Routed (t : String) (R : Namespaces) (ws ds : List RelationTupleKey)
    (q : FgaRequest) : Prop where
  writes : q.writes = groupOf t R ws q.store
  deletes : q.deletes = groupOf t R ds q.store
  model : ∃ k, (k ∈ ws ∨ k ∈ ds) ∧ ∃ r, R.getByType t k.nspace = some r ∧
    r.storeId = some q.store ∧ r.modelId = some q.model

/-- Every call fails, if at all, as `A` says. -/
def failingAs (A : PermissionChoice → Prop) :
    Contract PermissionStoreSig PermissionChoice (PermissionWorld × PermissionTrace) :=
  .alone (fun _ c _ => A c) fun _ _ _ => True

/-- A call that fails has had no effect. -/
def PermissionChoice.Atomic (c : PermissionChoice) : Prop := ∀ f ∈ c.fault, f.applied = false

/-- Some call may fail. -/
def MayFail (A : PermissionChoice → Prop) : Prop := ∃ c, A c ∧ c.fault ≠ none

section batches

variable {A : PermissionChoice → Prop} {t : String} {w : PermissionWorld} {ws ds : List RelationTupleKey}

theorem sat_permission_call {op : PermissionCall} {Q : op.Res → PermissionWorld × PermissionTrace → Prop}
    {s : PermissionWorld × PermissionTrace} (h : ∀ c, A c →
      Q (permissionStores op c s.1).1 ((permissionStores op c s.1).2, ⟨op, c, s.1⟩ :: s.2)) :
    (Prog.perform (S := PermissionStoreSig) op).Sat permissionStores.traced (failingAs A) Q s := by
  rintro _ rfl c hc
  exact ⟨trivial, h c hc⟩

/-! ### Resolving -/

/-- The world is as it was, and no write request has been sent. -/
def Unsent (w : PermissionWorld) (s : PermissionWorld × PermissionTrace) : Prop :=
  s.1 = w ∧ requestsSent s.2 = []

theorem sat_resolveMapping {n : String} {s : PermissionWorld × PermissionTrace} (hs : Unsent w s) :
    (OpenFga.resolveMapping t n).run.Sat permissionStores.traced (failingAs A) (fun r s' => Unsent w s' ∧
      (∀ record, r = .ok record → w.registry.getByType t n = some record ∧ OpenFga.Provisioned record) ∧
      ∀ e, r = .error e → MayFail A ∨ ¬ Configured t w.registry n) s := by
  obtain ⟨rfl, hsent⟩ := hs
  refine Prog.sat_run_bind.mpr (Prog.sat_run_orThrow.mpr (sat_permission_call fun c hc => ?_))
  have hworld : (permissionStores (.getNamespaceByType t n) c s.1).2 = s.1 := by
    rcases permissionStores_snd (.getNamespaceByType t n) c s.1 with h | h
    · exact h
    · exact h
  rw [hworld]
  simp only [permissionStores, Fault.answer]
  cases hfault : c.fault with
  | some f =>
      refine ⟨⟨rfl, hsent⟩, fun record hrecord => ?_, fun _ _ => .inl ⟨c, hc, by simp [hfault]⟩⟩
      cases hrecord
  | none =>
      refine ⟨⟨rfl, hsent⟩, fun record hrecord => usable_eq_ok.mp hrecord, fun e he => .inr ?_⟩
      rintro ⟨record, hrecord⟩
      have hok : OpenFga.usable t n (s.1.registry.getByType t n) = .error e := he
      rw [usable_eq_ok.mpr hrecord] at hok
      cases hok

/-- The record is the one a key of the batch resolves to. -/
def RecordOf (t : String) (R : Namespaces) (keys : List RelationTupleKey) (x : String × NamespaceRow) :
    Prop :=
  R.getByType t x.1 = some x.2 ∧ OpenFga.Provisioned x.2 ∧ ∃ k ∈ keys, k.nspace = x.1

/-- Each of the keys has its record, and each record is one of theirs. -/
structure AllResolved (t : String) (R : Namespaces) (all keys : List RelationTupleKey)
    (records : List (String × NamespaceRow)) : Prop where
  ofKeys : ∀ x ∈ records, RecordOf t R all x
  found : ∀ k ∈ keys, (records.lookup k.nspace).isSome

/-- One more key is resolved; the earlier ones still are. -/
theorem sat_resolveInto {all keys : List RelationTupleKey} {key : RelationTupleKey} (hkey : key ∈ all)
    {records : List (String × NamespaceRow)} (hrecords : AllResolved t w.registry all keys records)
    {s : PermissionWorld × PermissionTrace} (hs : Unsent w s) :
    (OpenFga.resolveInto t records key).run.Sat permissionStores.traced (failingAs A) (fun r s' =>
      Unsent w s' ∧ (∀ records', r = .ok records' → AllResolved t w.registry all (key :: keys) records') ∧
        ∀ e, r = .error e → MayFail A ∨ ¬ Configured t w.registry key.nspace) s := by
  unfold OpenFga.resolveInto
  rcases hlookup : records.lookup key.nspace with _ | record
  · refine Prog.sat_run_bind.mpr ((sat_resolveMapping hs).post fun r s' h => ?_)
    obtain ⟨hs', hrecord, hfails⟩ := h
    rcases r with e | record
    · exact ⟨hs', (fun records' h => by cases h), fun _ _ => hfails e rfl⟩
    refine ⟨hs', fun records' h => ?_, fun e he => by cases he⟩
    obtain rfl := Except.ok.inj h
    obtain ⟨hget, hprovisioned⟩ := hrecord record rfl
    refine ⟨fun x hx => ?_, fun k hk => ?_⟩
    · rcases List.mem_append.mp hx with hx | hx
      · exact hrecords.ofKeys x hx
      · obtain rfl := List.mem_singleton.mp hx
        exact ⟨hget, hprovisioned, key, hkey, rfl⟩
    · rw [List.lookup_append]
      rcases List.mem_cons.mp hk with rfl | hk
      · simp [hlookup]
      · obtain ⟨r, hr⟩ := Option.isSome_iff_exists.mp (hrecords.found k hk)
        simp [hr]
  · refine ⟨hs, fun records' h => ?_, fun e he => by cases he⟩
    obtain rfl := Except.ok.inj h
    refine ⟨hrecords.ofKeys, fun k hk => ?_⟩
    rcases List.mem_cons.mp hk with rfl | hk
    · simp [hlookup]
    · exact hrecords.found k hk

theorem sat_resolveAll {all : List RelationTupleKey} (rest : List RelationTupleKey) (hrest : rest ⊆ all)
    {keys : List RelationTupleKey} {records : List (String × NamespaceRow)}
    (hrecords : AllResolved t w.registry all keys records) {s : PermissionWorld × PermissionTrace}
    (hs : Unsent w s) :
    (rest.foldlM (OpenFga.resolveInto t) records).run.Sat permissionStores.traced (failingAs A)
      (fun r s' => Unsent w s' ∧ (∀ records', r = .ok records' →
        ∃ keys', rest ⊆ keys' ∧ keys ⊆ keys' ∧ AllResolved t w.registry all keys' records') ∧
        ∀ e, r = .error e → MayFail A ∨ ∃ k ∈ rest, ¬ Configured t w.registry k.nspace) s := by
  induction rest generalizing keys records s with
  | nil =>
      refine ⟨hs, fun records' h => ?_, fun e he => by cases he⟩
      obtain rfl := Except.ok.inj h
      exact ⟨keys, List.nil_subset _, List.Subset.refl _, hrecords⟩
  | cons key rest ih =>
      obtain ⟨hkey, hrest⟩ := List.cons_subset.mp hrest
      rw [List.foldlM_cons]
      refine Prog.sat_run_bind.mpr ((sat_resolveInto hkey hrecords hs).post fun r s' h => ?_)
      obtain ⟨hs', hrecords', hfails⟩ := h
      rcases r with e | records'
      · refine ⟨hs', (fun records' h => by cases h), fun _ _ => ?_⟩
        exact (hfails e rfl).imp_right fun hno => ⟨key, List.mem_cons_self, hno⟩
      refine (ih hrest (hrecords' records' rfl) hs').post fun r s'' h => ⟨h.1, fun records'' hok => ?_, ?_⟩
      · obtain ⟨keys', hrest', hkeys, hresolved⟩ := h.2.1 records'' hok
        obtain ⟨hkey', hkeys⟩ := List.cons_subset.mp hkeys
        exact ⟨keys', List.cons_subset.mpr ⟨hkey', hrest'⟩, hkeys, hresolved⟩
      · intro e he
        refine (h.2.2 e he).imp_right ?_
        rintro ⟨k, hk, hno⟩
        exact ⟨k, List.mem_cons_of_mem _ hk, hno⟩

theorem AllResolved.right {all keys : List RelationTupleKey} {R : Namespaces}
    {records : List (String × NamespaceRow)} (h : AllResolved t R all keys records) :
    RightRecords t R records := by
  intro n r hlookup
  obtain ⟨l₁, l₂, rfl, -⟩ := List.lookup_eq_some_iff.mp hlookup
  obtain ⟨hget, hprovisioned, -⟩ := h.ofKeys (n, r) (by simp)
  exact ⟨hget, hprovisioned⟩

/-! ### Sending -/

/-- The model a batch names for one of its stores is the current one of a namespace of that store. -/
theorem exists_modelOfStore {R : Namespaces} {records : List (String × NamespaceRow)}
    (h : AllResolved t R (ws ++ ds) (ws ++ ds) records) {k : RelationTupleKey} (hk : k ∈ ws ++ ds) :
    ∃ k', (k' ∈ ws ∨ k' ∈ ds) ∧ ∃ r, R.getByType t k'.nspace = some r ∧
      r.storeId = some (storeFor t R k) ∧
      r.modelId = some (OpenFga.modelOfStore records (storeFor t R k)) := by
  -- the record of the key itself is one of that store
  obtain ⟨r, hr⟩ := Option.isSome_iff_exists.mp (h.found k hk)
  obtain ⟨hget, hstore, -⟩ := h.right _ r hr
  have hid : r.storeId = some (storeFor t R k) := by
    rw [storeFor_of_getByType hget]
    unfold OpenFga.storeOf at hstore ⊢
    rcases hstoreId : r.storeId with _ | id
    · simp [hstoreId] at hstore
    · rfl
  obtain ⟨l₁, l₂, hsplit, -⟩ := List.lookup_eq_some_iff.mp hr
  have hmem : (k.nspace, r) ∈ records := by simp [hsplit]
  have hsome : (records.find? fun x => x.2.storeId = some (storeFor t R k)).isSome := by
    refine List.find?_isSome.mpr ⟨_, hmem, ?_⟩
    simpa using hid
  obtain ⟨x, hx⟩ := Option.isSome_iff_exists.mp hsome
  obtain ⟨hget', ⟨-, hmodel⟩, k', hk', hn⟩ := h.ofKeys x (List.mem_of_find?_eq_some hx)
  have hxid : x.2.storeId = some (storeFor t R k) := by simpa using List.find?_some hx
  refine ⟨k', List.mem_append.mp hk', x.2, hn ▸ hget', hxid, ?_⟩
  unfold OpenFga.modelOfStore
  rw [hx]
  rcases hm : x.2.modelId with _ | m
  · simp [hm] at hmodel
  · simp [hm]

/-- The requests of a batch that goes to the stores listed. -/
def batchRequests (t : String) (R : Namespaces) (model : String → String) (ws ds : List RelationTupleKey)
    (l : List String) : List FgaRequest :=
  l.map fun s => ⟨s, model s, groupOf t R ws s, groupOf t R ds s⟩

/-- The store of that id takes the tuples. -/
def Accepting (w : PermissionWorld) (s : String) (gws gds : List FgaTuple) : Prop :=
  ∃ st, w.findStore s = some st ∧ FgaAccepts st.tuples gws gds

/-- A write request is applied where the store takes it, and refused where it does not. -/
theorem writeTuples_cases {s : String} {gws gds : List FgaTuple} (hne : gws ≠ [] ∨ gds ≠ []) :
    (Accepting w s gws gds ∧ w.writeTuples s gws gds = (.ok (), { w with
        stores := w.stores.map fun st => if st.id = s then st.apply gws gds else st })) ∨
      ¬ Accepting w s gws gds ∧ ∃ e, w.writeTuples s gws gds = (.error e, w) := by
  have hsome : ¬ (gws = [] ∧ gds = []) := by
    rintro ⟨rfl, rfl⟩
    simp at hne
  unfold PermissionWorld.writeTuples
  rw [if_neg hsome]
  cases hfind : w.findStore s with
  | none =>
      refine .inr ⟨?_, _, rfl⟩
      rintro ⟨st, hst, -⟩
      simp [hfind] at hst
  | some st =>
      by_cases haccepts : FgaAccepts st.tuples gws gds
      · refine .inl ⟨⟨st, hfind, haccepts⟩, ?_⟩
        simp only [if_pos haccepts]
      · simp only [if_neg haccepts]
        refine .inr ⟨?_, _, rfl⟩
        rintro ⟨st', hst', haccepts'⟩
        obtain rfl : st = st' := Option.some.inj (hfind.symm.trans hst')
        exact haccepts haccepts'

/-- A store that got none of the parts yet is as it was. -/
theorem findStore_applyBatch {l : List String} {s : String} (gws gds : String → List FgaTuple) :
    ({ w with stores := applyBatch l gws gds w.stores } : PermissionWorld).findStore s =
      (w.findStore s).map fun st => if st.id ∈ l then st.apply (gws st.id) (gds st.id) else st := by
  unfold PermissionWorld.findStore applyBatch
  rw [List.find?_map]
  refine congrArg _ (congrArg (fun p => List.find? p w.stores) (funext fun st => ?_))
  simp [applied_id]

theorem accepting_applyBatch {l : List String} {s : String} (hs : s ∉ l)
    (gws gds : String → List FgaTuple) (xs ys : List FgaTuple) :
    Accepting { w with stores := applyBatch l gws gds w.stores } s xs ys ↔ Accepting w s xs ys := by
  unfold Accepting
  rw [findStore_applyBatch]
  cases hfind : w.findStore s with
  | none => simp
  | some st =>
      have hid : st.id = s := by simpa using List.find?_some hfind
      simp [hid, hs]

/-- What a batch for the stores listed has sent when it ends: requests for the first of them, all of them
where it succeeds. Each has had its effect, except the last one of a batch that fails. -/
structure BatchSent (t : String) (w : PermissionWorld) (model : String → String)
    (ws ds : List RelationTupleKey) (l : List String) (r : Except BackendError Unit)
    (s : PermissionWorld × PermissionTrace) (sent : List String) : Prop where
  first : sent <+: l
  requests : requestsSent s.2.reverse = batchRequests t w.registry model ws ds sent
  all : r = .ok () → sent = l ∧
    s.1 = { w with stores := applyBatch l (groupOf t w.registry ws) (groupOf t w.registry ds) w.stores }
  failed : ∀ e, r = .error e → s.1 = { w with
    stores := applyBatch sent.dropLast (groupOf t w.registry ws) (groupOf t w.registry ds) w.stores }

/-- The requests go out one after another. -/
theorem sat_writeParts (hA : ∀ c, A c → c.Atomic) (model : String → String) (todo : List String)
    {l : List String} (hnodup : (l ++ todo).Nodup)
    (hne : ∀ store ∈ todo, groupOf t w.registry ws store ≠ [] ∨ groupOf t w.registry ds store ≠ [])
    {s : PermissionWorld × PermissionTrace} (hworld : s.1 = { w with
      stores := applyBatch l (groupOf t w.registry ws) (groupOf t w.registry ds) w.stores })
    (hsent : requestsSent s.2.reverse = batchRequests t w.registry model ws ds l) :
    (todo.forM (writePart model (groupOf t w.registry ws) (groupOf t w.registry ds))).run.Sat
      permissionStores.traced (failingAs A)
      (fun r s' => (∃ sent, BatchSent t w model ws ds (l ++ todo) r s' sent) ∧
        (r = .ok () → ∀ store ∈ todo,
          Accepting w store (groupOf t w.registry ws store) (groupOf t w.registry ds store)) ∧
        ∀ e, r = .error e → MayFail A ∨ ∃ store ∈ todo,
          ¬ Accepting w store (groupOf t w.registry ws store) (groupOf t w.registry ds store)) s := by
  induction todo generalizing l s with
  | nil =>
      refine ⟨⟨l, by simp, hsent, fun _ => ⟨by simp, ?_⟩, fun e he => by cases he⟩, by simp,
        fun e he => by cases he⟩
      rw [List.append_nil]
      exact hworld
  | cons store todo ih =>
      have hnew : store ∉ l := fun hmem =>
        (List.nodup_append.mp hnodup).2.2 store hmem store List.mem_cons_self rfl
      have hsplit : l ++ store :: todo = (l ++ [store]) ++ todo := by simp
      have hone : ∀ c, requestsSent (⟨.writeTuples store (model store) (groupOf t w.registry ws store)
          (groupOf t w.registry ds store), c, s.1⟩ :: s.2).reverse =
            batchRequests t w.registry model ws ds (l ++ [store]) := by
        intro c
        unfold requestsSent batchRequests at hsent ⊢
        rw [List.reverse_cons, List.filterMap_append, hsent, List.map_append]
        rfl
      refine Prog.sat_run_bind.mpr (Prog.sat_run_orThrow.mpr (sat_permission_call fun c hc => ?_))
      have heffect : permissionStores (.writeTuples store (model store) (groupOf t w.registry ws store)
          (groupOf t w.registry ds store)) c s.1 = Fault.answer .ofFault s.1
            (s.1.writeTuples store (groupOf t w.registry ws store) (groupOf t w.registry ds store))
            c.fault := rfl
      have hfailed : ∀ e, ∃ sent, BatchSent t w model ws ds (l ++ store :: todo) (.error e)
          (s.1, ⟨.writeTuples store (model store) (groupOf t w.registry ws store)
            (groupOf t w.registry ds store), c, s.1⟩ :: s.2) sent := by
        intro e
        refine ⟨l ++ [store], ⟨todo, hsplit.symm⟩, hone c, (fun h => ?_), fun _ _ => ?_⟩
        · cases h
        · rw [List.dropLast_concat]
          exact hworld
      rw [heffect]
      cases hfault : c.fault with
      | some f =>
          have hlost : f.applied = false := hA c hc f (by simp [hfault])
          simp only [Fault.answer, hlost]
          refine ⟨hfailed _, (fun h => by cases h), fun _ _ => .inl ⟨c, hc, by simp [hfault]⟩⟩
      | none =>
          simp only [Fault.answer]
          have haccepting := accepting_applyBatch (w := w) hnew (groupOf t w.registry ws)
            (groupOf t w.registry ds) (groupOf t w.registry ws store) (groupOf t w.registry ds store)
          rw [← hworld] at haccepting
          rcases writeTuples_cases (w := s.1) (s := store) (hne store List.mem_cons_self) with
            ⟨htakes, h⟩ | ⟨hrefuses, e, h⟩
          · rw [h, hsplit]
            rw [hsplit] at hnodup
            refine (ih hnodup (fun store' hstore' => hne store' (List.mem_cons_of_mem _ hstore')) ?_
              (hone c)).post fun r s' hend => ⟨hend.1, fun hok => ?_, fun e he => ?_⟩
            · rw [hworld]
              simp only [applyBatch_concat hnew]
            · exact List.forall_mem_cons.mpr ⟨haccepting.mp htakes, hend.2.1 hok⟩
            · refine (hend.2.2 e he).imp_right ?_
              rintro ⟨store', hmem, hno⟩
              exact ⟨store', List.mem_cons_of_mem _ hmem, hno⟩
          · rw [h]
            refine ⟨hfailed _, (fun h => by cases h), fun _ _ => .inr ⟨store, List.mem_cons_self, ?_⟩⟩
            exact fun htakes => hrefuses (haccepting.mpr htakes)

/-- What a batch needs to be written: every type resolves, and every store takes its part. -/
def Writable (order : List String → List String) (t : String) (w : PermissionWorld)
    (ws ds : List RelationTupleKey) : Prop :=
  (∀ k ∈ ws ++ ds, Configured t w.registry k.nspace) ∧ ∀ store ∈ touched order t w.registry ws ds,
    Accepting w store (groupOf t w.registry ws store) (groupOf t w.registry ds store)

/-- **A batch** of OpenFGA, as long as requests that fail have no effect. -/
theorem sat_batchWrite (hA : ∀ c, A c → c.Atomic) {order : List String → List String}
    (horder : ∀ l, (order l).Perm l) {tr : PermissionTrace} (htr : requestsSent tr = []) :
    (OpenFga.writeTuples order t ws ds).run.Sat permissionStores.traced (failingAs A)
      (fun r s => (∃ model sent, BatchSent t w model ws ds (touched order t w.registry ws ds) r s sent ∧
          ∀ q ∈ batchRequests t w.registry model ws ds sent, q.Routed t w.registry ws ds) ∧
        (r = .ok () → Writable order t w ws ds) ∧
        ∀ e, r = .error e → MayFail A ∨ ¬ Writable order t w ws ds) (w, tr) := by
  have hnone : AllResolved t w.registry (ws ++ ds) [] [] := ⟨by simp, by simp⟩
  have hstart : Unsent w (w, tr) := ⟨rfl, htr⟩
  refine Prog.sat_run_bind.mpr
    ((sat_resolveAll (ws ++ ds) (List.Subset.refl _) hnone hstart).post fun r s h => ?_)
  obtain ⟨⟨hworld, hunsent⟩, hrecords, hfails⟩ := h
  have hunsent' : requestsSent s.2.reverse = [] := by
    unfold requestsSent at hunsent ⊢
    rw [List.filterMap_reverse, hunsent]
    rfl
  have hworld₀ : s.1 = { w with
      stores := applyBatch [] (groupOf t w.registry ws) (groupOf t w.registry ds) w.stores } := by
    rw [hworld]
    simp [applyBatch]
  rcases r with e | records
  · refine ⟨⟨fun _ => "", [], ⟨List.nil_prefix, hunsent', (fun h => by cases h), fun _ _ => hworld₀⟩,
      by simp [batchRequests]⟩, (fun h => by cases h), fun _ _ => ?_⟩
    refine (hfails e rfl).imp_right ?_
    rintro ⟨k, hk, hno⟩ hwritable
    exact hno (hwritable.1 k hk)
  obtain ⟨keys, hkeys, -, hall⟩ := hrecords records rfl
  have hresolved : AllResolved t w.registry (ws ++ ds) (ws ++ ds) records :=
    ⟨hall.ofKeys, fun k hk => hall.found k (hkeys hk)⟩
  have hfound := hresolved.found
  have hconfigured : ∀ k ∈ ws ++ ds, Configured t w.registry k.nspace := by
    intro k hk
    obtain ⟨r, hr⟩ := Option.isSome_iff_exists.mp (hfound k hk)
    exact ⟨r, hresolved.right _ r hr⟩
  have hws (s : String) : OpenFga.keysOf records s ws = groupOf t w.registry ws s :=
    keysOf_eq hresolved.right (fun k hk => hfound k (List.mem_append_left _ hk)) s
  have hds (s : String) : OpenFga.keysOf records s ds = groupOf t w.registry ds s :=
    keysOf_eq hresolved.right (fun k hk => hfound k (List.mem_append_right _ hk)) s
  have hmap : (ws ++ ds).map (OpenFga.storeOfKey records) = (ws ++ ds).map (storeFor t w.registry) :=
    List.map_congr_left fun k hk => storeOfKey_eq hresolved.right (hfound k hk)
  have hnodup : ([] ++ touched order t w.registry ws ds).Nodup :=
    (horder _).nodup_iff.mpr (List.nodup_dedup _)
  show ((order ((ws ++ ds).map (OpenFga.storeOfKey records)).dedup).forM
    (writePart (OpenFga.modelOfStore records) (fun s => OpenFga.keysOf records s ws)
      fun s => OpenFga.keysOf records s ds)).run.Sat _ _ _ s
  rw [hmap, funext hws, funext hds]
  have hparts := sat_writeParts hA (OpenFga.modelOfStore records) (touched order t w.registry ws ds)
    hnodup (fun store hstore => groupOf_ne_nil horder hstore) hworld₀ hunsent'
  refine hparts.post fun r s' h => ?_
  obtain ⟨⟨sent, hbatch⟩, hok, herr⟩ := h
  refine ⟨⟨OpenFga.modelOfStore records, sent, hbatch, fun q hq => ?_⟩, fun h => ⟨hconfigured, hok h⟩,
    fun e he => (herr e he).imp_right ?_⟩
  · obtain ⟨store, hstore, rfl⟩ := List.mem_map.mp hq
    obtain ⟨k, hk, rfl⟩ := (mem_touched horder).mp (hbatch.first.subset hstore)
    exact ⟨rfl, rfl, exists_modelOfStore hresolved (List.mem_append.mpr hk)⟩
  · rintro ⟨store, hstore, hno⟩ hwritable
    exact hno (hwritable.2 store hstore)

/-! ### Each key once -/

/-- The requests of a batch, store by store, and each key at most once. -/
structure SentByStore (t : String) (R : Namespaces) (ws ds : List RelationTupleKey)
    (sent : List FgaRequest) : Prop where
  stores : (sent.map (·.store)).Nodup
  routed : ∀ q ∈ sent, q.Routed t R ws ds
  writes : (sent.flatMap (·.placedWrites)).Subperm (ws.map (placed t R))
  deletes : (sent.flatMap (·.placedDeletes)).Subperm (ds.map (placed t R))

/-- The groups of the stores listed are the keys of these stores. -/
theorem perm_groupOf {R : Namespaces} {l : List String} (hl : l.Nodup) (keys : List RelationTupleKey) :
    (l.flatMap fun s => (groupOf t R keys s).map fun x => (s, x)).Perm
      ((keys.filter fun k => storeFor t R k ∈ l).map (placed t R)) := by
  have hgroup : (fun s => (groupOf t R keys s).map fun x => (s, x)) =
      fun s => (keys.filter fun k => storeFor t R k = s).map (placed t R) := by
    funext s
    unfold groupOf
    rw [List.map_map]
    refine List.map_congr_left fun k hk => ?_
    have hs : storeFor t R k = s := by simpa using (List.mem_filter.mp hk).2
    simp [placed, hs]
  rw [hgroup, ← List.map_flatMap]
  exact (perm_flatMap_filter hl keys).map _

variable {model : String → String} {l sent : List String} {R : Namespaces}

theorem flatMap_placedWrites : (batchRequests t R model ws ds l).flatMap (·.placedWrites) =
    l.flatMap fun s => (groupOf t R ws s).map fun x => (s, x) := by
  simp [batchRequests, List.flatMap_map, FgaRequest.placedWrites]

theorem flatMap_placedDeletes : (batchRequests t R model ws ds l).flatMap (·.placedDeletes) =
    l.flatMap fun s => (groupOf t R ds s).map fun x => (s, x) := by
  simp [batchRequests, List.flatMap_map, FgaRequest.placedDeletes]

theorem map_store_batchRequests : (batchRequests t R model ws ds l).map (·.store) = l := by
  unfold batchRequests
  rw [List.map_map]
  exact List.map_id l

theorem sentByStore (hl : l.Nodup)
    (hrouted : ∀ q ∈ batchRequests t R model ws ds l, q.Routed t R ws ds) :
    SentByStore t R ws ds (batchRequests t R model ws ds l) where
  stores := by rwa [map_store_batchRequests]
  routed := hrouted
  writes := by
    rw [flatMap_placedWrites]
    exact (perm_groupOf hl ws).subperm.trans (List.filter_sublist.map _).subperm
  deletes := by
    rw [flatMap_placedDeletes]
    exact (perm_groupOf hl ds).subperm.trans (List.filter_sublist.map _).subperm

/-- Where every store has its request, every key is sent. -/
theorem perm_placed (hl : l.Nodup) {keys : List RelationTupleKey} (hall : ∀ k ∈ keys, storeFor t R k ∈ l) :
    (l.flatMap fun s => (groupOf t R keys s).map fun x => (s, x)).Perm (keys.map (placed t R)) := by
  have hkeys : (keys.filter fun k => storeFor t R k ∈ l) = keys :=
    List.filter_eq_self.mpr fun k hk => decide_eq_true (hall k hk)
  have hperm := perm_groupOf (R := R) (t := t) hl keys
  rwa [hkeys] at hperm

/-- Where all keys are of one store, there is at most one request. -/
theorem touched_length_le {order : List String → List String} (horder : ∀ l, (order l).Perm l)
    (hone : ∀ k ∈ ws ++ ds, ∀ k' ∈ ws ++ ds, storeFor t R k = storeFor t R k') :
    (touched order t R ws ds).length ≤ 1 := by
  have hnodup : (touched order t R ws ds).Nodup := (horder _).nodup_iff.mpr (List.nodup_dedup _)
  by_contra hlong
  rcases htouched : touched order t R ws ds with _ | ⟨s, _ | ⟨s', l⟩⟩
  · simp [htouched] at hlong
  · simp [htouched] at hlong
  · obtain ⟨k, hk, rfl⟩ := (mem_touched (R := R) (T := t) horder).mp (htouched ▸ List.mem_cons_self)
    obtain ⟨k', hk', rfl⟩ := (mem_touched (R := R) (T := t) horder).mp
      (htouched ▸ List.mem_cons_of_mem _ List.mem_cons_self)
    rw [htouched] at hnodup
    have hne := (List.nodup_cons.mp hnodup).1
    exact hne (by simp [hone k (List.mem_append.mpr hk) k' (List.mem_append.mpr hk')])

end batches

/-! ## The batch -/

/-- **A batch goes out store by store.** Each key is sent at most once, to the store of the namespace its
type resolves to, and under the current model of a namespace of that store; a batch that succeeds has
sent every key. If it fails, the requests before the failing one have had their effect and no other
has; so nothing has changed where all keys are of one store. -/
theorem write_tuples_by_store {order : List String → List String} (horder : ∀ l, (order l).Perm l)
    (t : String) (ws ds : List RelationTupleKey) (w : PermissionWorld) (o : ℕ → PermissionChoice)
    (hatomic : ∀ n, ∀ f ∈ (o n).fault, f.applied = false) :
    let run := (OpenFga.writeTuples order t ws ds).run.run permissionStores o w
    let sent := requestsSent ((OpenFga.writeTuples order t ws ds).run.events permissionStores o w)
    SentByStore t w.registry ws ds sent ∧
      (run.1 = .ok () →
        (sent.flatMap (·.placedWrites)).Perm (ws.map (placed t w.registry)) ∧
        (sent.flatMap (·.placedDeletes)).Perm (ds.map (placed t w.registry)) ∧
        run.2 = batched order t w ws ds) ∧
      ∀ e, run.1 = .error e →
        run.2 = { w with
          stores := applyBatch (sent.dropLast.map (·.store)) (groupOf t w.registry ws)
            (groupOf t w.registry ds) w.stores } ∧
        ((∀ k ∈ ws ++ ds, ∀ k' ∈ ws ++ ds, storeFor t w.registry k = storeFor t w.registry k') →
          run.2 = w) := by
  intro run sent
  have hempty : requestsSent [] = [] := rfl
  have hsat : (OpenFga.writeTuples order t ws ds).run.Sat permissionStores.traced
      (failingAs PermissionChoice.Atomic) _ (w, []) := sat_batchWrite (fun _ h => h) horder hempty
  have hend := hsat.run_of_choices (o := o) fun _ n _ => hatomic n
  rw [Prog.run_traced, List.append_nil] at hend
  obtain ⟨⟨model, stores, hbatch, hrouted⟩, -, -⟩ := hend
  have hsent : sent = batchRequests t w.registry model ws ds stores := by
    have hrequests := hbatch.requests
    rwa [List.reverse_reverse] at hrequests
  have hnodup : (touched order t w.registry ws ds).Nodup :=
    (horder _).nodup_iff.mpr (List.nodup_dedup _)
  have hstores : stores.Nodup := hnodup.sublist hbatch.first.sublist
  rw [hsent]
  refine ⟨sentByStore hstores hrouted, fun hok => ?_, fun e he => ?_⟩
  · obtain ⟨rfl, hworld⟩ := hbatch.all hok
    have hcovers : ∀ k, k ∈ ws ∨ k ∈ ds →
        storeFor t w.registry k ∈ touched order t w.registry ws ds :=
      fun k hk => (mem_touched horder).mpr ⟨k, hk, rfl⟩
    rw [flatMap_placedWrites, flatMap_placedDeletes]
    exact ⟨perm_placed hnodup fun k hk => hcovers k (.inl hk),
      perm_placed hnodup fun k hk => hcovers k (.inr hk), hworld⟩
  · have hworld := hbatch.failed e he
    have hlast : ((batchRequests t w.registry model ws ds stores).dropLast.map (·.store)) =
        stores.dropLast := by
      rw [List.map_dropLast, map_store_batchRequests]
    rw [hlast]
    refine ⟨hworld, fun hone => ?_⟩
    have hshort : stores.length ≤ 1 :=
      hbatch.first.length_le.trans (touched_length_le horder hone)
    have hdrop : stores.dropLast = [] := by
      refine List.eq_nil_of_length_eq_zero ?_
      rw [List.length_dropLast]
      omega
    rw [hdrop] at hworld
    refine Eq.trans hworld ?_
    simp [applyBatch]

/-! ## Two namespaces -/

/-- The records of two namespaces of a tenant, in the stores given. -/
def docAndFile (docs files : String) : List NamespaceRow :=
  [⟨"acme", "doc", .null, some docs, some "doc-model", 0, 0⟩,
    ⟨"acme", "file", .null, some files, some "file-model", 0, 0⟩]

theorem docAndFile_key (docs files : String) :
    (docAndFile docs files).Pairwise fun r r' => ¬ r.IsOf r'.tenantId r'.nspace := by
  simp [docAndFile, NamespaceRow.IsOf]

theorem docAndFile_types (docs files : String) : ∀ x ∈ ([] : List NamespaceTypeRow),
    ∃ r ∈ docAndFile docs files, r.IsOf x.tenantId x.nspace := by simp

theorem docAndFile_typeKey : ([] : List NamespaceTypeRow).Pairwise fun x x' =>
    ¬ (x.tenantId = x'.tenantId ∧ x.type = x'.type) := .nil

/-- The two namespaces. -/
def twoNamespaces (docs files : String) : Namespaces where
  records := docAndFile docs files
  types := []
  recordKey := docAndFile_key docs files
  typeKey := docAndFile_typeKey
  typeRecord := docAndFile_types docs files

/-- The stores of OpenFGA, with alice as a reader of a file. -/
def twoStores (docs files : String) : PermissionWorld where
  registry := twoNamespaces docs files
  mirror := .empty
  keto := []
  stores := [⟨"docs", "acme-doc", []⟩, ⟨"files", "acme-file", [⟨"user:alice", "reader", "file:1"⟩]⟩]

/-- Nothing fails. -/
def calmStores (_ : ℕ) : PermissionChoice := ⟨none, 0, fun _ => ""⟩

/-- The program that makes alice a reader of a document and of a file. -/
def readsBoth (file : String) : Prog PermissionStoreSig (Except BackendError Unit) :=
  (OpenFga.writeTuples id "acme" [⟨"doc", "1", "reader", "alice"⟩, ⟨"file", file, "reader", "alice"⟩] []).run

/-- Both keys are sent, each to its store. -/
theorem write_tuples_by_store_two :
    let sent := requestsSent ((readsBoth "2").events permissionStores calmStores (twoStores "docs" "files"))
    (sent.flatMap (·.placedWrites)).Perm
      [("docs", ⟨"user:alice", "reader", "doc:1"⟩), ("files", ⟨"user:alice", "reader", "file:2"⟩)] :=
  ((write_tuples_by_store (fun l => List.Perm.refl l) "acme"
    [⟨"doc", "1", "reader", "alice"⟩, ⟨"file", "2", "reader", "alice"⟩] [] (twoStores "docs" "files")
    calmStores fun _ _ hf => absurd hf (by simp [calmStores])).2.1 rfl).1

/-- Alice is a reader of the file already: the batch fails, but she is a reader of the document now. And
where the two namespaces share a store, the key of the file is written under the model of the other. -/
theorem write_tuples_partly :
    ((readsBoth "1").run permissionStores calmStores (twoStores "docs" "files")).1 =
        .error (.openFga 400 "write failed due to invalid input") ∧
      ((readsBoth "1").run permissionStores calmStores (twoStores "docs" "files")).2.stores =
        [⟨"docs", "acme-doc", [⟨"user:alice", "reader", "doc:1"⟩]⟩,
          ⟨"files", "acme-file", [⟨"user:alice", "reader", "file:1"⟩]⟩] ∧
      requestsSent ((readsBoth "1").events permissionStores calmStores (twoStores "docs" "docs")) =
        [⟨"docs", "doc-model",
          [⟨"user:alice", "reader", "doc:1"⟩, ⟨"user:alice", "reader", "file:1"⟩], []⟩] := by
  refine ⟨rfl, rfl, rfl⟩

end SsoGateway
