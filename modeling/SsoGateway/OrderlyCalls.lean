import SsoGateway.Lib.History
import SsoGateway.MirrorEffects

/-!
# Requests whose calls fail early

A request writes the mirror and the backend one after the other, without a transaction. This is about
requests none of whose calls fails once something was written.

* `Orderly`, `InOrder` — the calls of a request that fail do so before anything was written.
* `Serves` — what a program does under that contract; `serves_query`, `serves_write` — one call.
* `serves_resolveAll`, `serves_parts` — the parts of a batch of OpenFGA.
* `serves_writeTuples` — the batch goes to all of its stores, or to none.
-/

namespace SsoGateway

open Lib Prog

/-! ## Calls that fail -/

/-- The calls of a request so far. -/
abbrev PermissionTrace := List (Event PermissionStoreSig PermissionChoice PermissionWorld)

/-- The call reads only. -/
def PermissionCall.IsQuery : PermissionCall → Prop
  | .getNamespace _ _ => True
  | .getNamespaceByType _ _ => True
  | .getRow _ _ => True
  | .findStoreByName _ => True
  | .readTuples _ _ => True
  | _ => False

/-- The call deletes a store. -/
def PermissionCall.IsStoreDeletion : PermissionCall → Prop
  | .deleteStore _ => True
  | _ => False

/-- Nothing has been written. -/
def NothingWritten (tr : PermissionTrace) : Prop := ∀ e ∈ tr, e.op.IsQuery

/-- The ids that are generated for new rows are new. -/
def PermissionCall.NewIds (c : PermissionChoice) (w : PermissionWorld) : PermissionCall → Prop
  | .createRows t keys =>
      (TupleMirror.newRows c.ids t keys ++ w.mirror.rows).Pairwise fun x y => x.id ≠ y.id
  | _ => True

/-- If the call fails, then before anything was written and without an effect; and not so that it
looks like the deletion of a store that is gone. The ids it generates are new. -/
def Orderly (op : PermissionCall) (c : PermissionChoice) (s : PermissionWorld × PermissionTrace) :
    Prop :=
  op.NewIds c s.1 ∧ ∀ f, c.fault = some f → NothingWritten s.2 ∧ (op.IsQuery ∨ f.applied = false) ∧
    (op.IsStoreDeletion → ∀ m, f.error ≠ .ory 404 m)

/-- The calls of the request are orderly. -/
def InOrder (b : PermissionBackend) (w : PermissionWorld) (s : PermissionStep) : Prop :=
  ∀ e ∈ remembered [] ((s.program b).run.events permissionStores s.choices w),
    Orderly e.op e.choice e.before

/-- The contract of a request whose calls are orderly. -/
def orderly : Contract PermissionStoreSig PermissionChoice (PermissionWorld × PermissionTrace) :=
  Contract.alone Orderly fun _ _ _ => True

/-- The program ends in `Q`, which speaks of its result, the stores, and the calls made. -/
def Serves {α : Type} (p : Prog PermissionStoreSig α)
    (Q : α → PermissionWorld → PermissionTrace → Prop) (w : PermissionWorld) (tr : PermissionTrace) :
    Prop :=
  p.Sat permissionStores.traced orderly (fun a s => Q a s.1 s.2) (w, tr)

/-- A request that is served in order. -/
theorem Serves.run {b : PermissionBackend} {s : PermissionStep} {w w' : PermissionWorld}
    {Q : Except ServiceError Unit → PermissionWorld → PermissionTrace → Prop}
    (hserves : Serves (s.program b).run Q w []) (horder : InOrder b w s)
    (hstep : permissionStep b w s = some w') : ∃ r tr, Q r w' tr := by
  obtain rfl := Option.some.inj hstep
  have hassume : ∀ ev ∈ (s.program b).run.events permissionStores.traced s.choices (w, []),
      Orderly ev.op ev.choice ev.before := by
    intro ev hev
    rw [events_traced] at hev
    exact horder ev hev
  have hend := (Sat.run_events (K := orderly) (fun _ => rfl) hserves hassume).2
  rw [run_traced] at hend
  exact ⟨_, _, hend⟩

section rules

variable {ε ε' α β : Type} {w : PermissionWorld} {tr : PermissionTrace}

theorem serves_run_bind {x : ExceptT ε (Prog PermissionStoreSig) α}
    {f : α → ExceptT ε (Prog PermissionStoreSig) β}
    {P : Except ε α → PermissionWorld → PermissionTrace → Prop}
    {Q : Except ε β → PermissionWorld → PermissionTrace → Prop} (hx : Serves x.run P w tr)
    (hok : ∀ a w' tr', P (.ok a) w' tr' → Serves (f a).run Q w' tr')
    (herr : ∀ e w' tr', P (.error e) w' tr' → Q (.error e) w' tr') :
    Serves (x >>= f).run Q w tr := by
  refine sat_run_bind.mpr (Sat.post hx fun r s hr => ?_)
  rcases r with e | a
  · exact herr e s.1 s.2 hr
  · exact hok a s.1 s.2 hr

theorem Serves.post {p : Prog PermissionStoreSig α}
    {P Q : α → PermissionWorld → PermissionTrace → Prop} (hp : Serves p P w tr)
    (hQ : ∀ a w' tr', P a w' tr' → Q a w' tr') : Serves p Q w tr :=
  Sat.post hp fun a s h => hQ a s.1 s.2 h

theorem serves_run_orThrow {g : ε → ε'} {p : Prog PermissionStoreSig (Except ε α)}
    {Q : Except ε' α → PermissionWorld → PermissionTrace → Prop}
    (hp : Serves p (fun r => Q (r.mapError g)) w tr) : Serves (orThrow g p).run Q w tr :=
  sat_run_orThrow.mpr hp

/-- A check that is passed. -/
theorem serves_checked {r : Except ε α} {a : α} {f : α → ExceptT ε (Prog PermissionStoreSig) β}
    {Q : Except ε β → PermissionWorld → PermissionTrace → Prop} (hr : r = .ok a)
    (hf : Serves (f a).run Q w tr) :
    Serves ((ExceptT.mk (Pure.pure r) : ExceptT ε (Prog PermissionStoreSig) α) >>= f).run Q w tr := by
  subst hr
  exact hf

theorem serves_run_mk {r : Except ε α} {Q : Except ε α → PermissionWorld → PermissionTrace → Prop}
    (h : Q r w tr) : Serves (ExceptT.mk (Pure.pure r) : ExceptT ε (Prog PermissionStoreSig) α).run Q
      w tr := h

/-- What a reading call leaves: it has answered, and whether something was written is as before. -/
def Reads (w w' : PermissionWorld) (tr tr' : PermissionTrace) : Prop :=
  w' = w ∧ (NothingWritten tr' ↔ NothingWritten tr)

theorem Reads.refl : Reads w w tr tr := ⟨rfl, Iff.rfl⟩

theorem nothingWritten_cons {e : Event PermissionStoreSig PermissionChoice PermissionWorld} :
    NothingWritten (e :: tr) ↔ e.op.IsQuery ∧ NothingWritten tr := by
  simp [NothingWritten]

/-- **A reading call** answers what the stores say; it fails only if nothing was written yet. -/
theorem serves_query (op : PermissionCall) (view : PermissionCall.Res op → Except ε α)
    {report : OryClientError → ε} {r : Except ε α} {g : ε → ε'} (hquery : op.IsQuery)
    (hop : ∀ c, (view (permissionStores op c w).1, (permissionStores op c w).2) =
      Fault.answer report w (r, w) c.fault)
    {Q : Except ε' α → PermissionWorld → PermissionTrace → Prop}
    (hok : ∀ tr', (NothingWritten tr' ↔ NothingWritten tr) → Q (r.mapError g) w tr')
    (herr : ∀ e tr', (NothingWritten tr' ↔ NothingWritten tr) → NothingWritten tr → Q (.error e) w tr') :
    Serves (orThrow g (Prog.call op fun a => Prog.pure (view a))).run Q w tr := by
  refine serves_run_orThrow ?_
  rintro s' rfl c hc
  refine ⟨trivial, ?_⟩
  have htr : NothingWritten (⟨op, c, w⟩ :: tr) ↔ NothingWritten tr := by
    rw [nothingWritten_cons]
    exact and_iff_right hquery
  show Q (Except.mapError g (view (permissionStores op c w).1)) (permissionStores op c w).2
    (⟨op, c, w⟩ :: tr)
  have hanswer := congrArg Prod.fst (hop c)
  have hworld := congrArg Prod.snd (hop c)
  simp only at hanswer hworld
  rw [hanswer, hworld]
  rcases hf : c.fault with _ | f
  · exact hok _ htr
  · have hw : (Fault.answer report w (r, w) (some f)).2 = w := by simp [Fault.answer]
    rw [hw]
    exact herr _ _ htr (hc.2 f hf).1

/-- **A writing call** has its effect; it fails only if nothing was written yet, and has none then. -/
theorem serves_write (op : PermissionCall) (view : PermissionCall.Res op → Except ε α)
    {report : OryClientError → ε} {eff : PermissionChoice → Except ε α × PermissionWorld} {g : ε → ε'}
    (hwrite : ¬ op.IsQuery)
    (hop : ∀ c, (view (permissionStores op c w).1, (permissionStores op c w).2) =
      Fault.answer report w (eff c) c.fault)
    {Q : Except ε' α → PermissionWorld → PermissionTrace → Prop}
    (hok : ∀ c tr', op.NewIds c w → ¬ NothingWritten tr' → Q ((eff c).1.mapError g) (eff c).2 tr')
    (herr : ∀ f tr', (op.IsStoreDeletion → ∀ m, f ≠ .ory 404 m) → NothingWritten tr →
      Q (.error (g (report f))) w tr') :
    Serves (orThrow g (Prog.call op fun a => Prog.pure (view a))).run Q w tr := by
  refine serves_run_orThrow ?_
  rintro s' rfl c hc
  refine ⟨trivial, ?_⟩
  show Q (Except.mapError g (view (permissionStores op c w).1)) (permissionStores op c w).2
    (⟨op, c, w⟩ :: tr)
  have hanswer := congrArg Prod.fst (hop c)
  have hworld := congrArg Prod.snd (hop c)
  simp only at hanswer hworld
  rw [hanswer, hworld]
  rcases hf : c.fault with _ | f
  · refine hok c _ hc.1 fun h => hwrite ?_
    exact (nothingWritten_cons.mp h).1
  · obtain ⟨hun, happlied, hgone⟩ := hc.2 f hf
    have hno : f.applied = false := happlied.resolve_left hwrite
    simpa [Fault.answer, hno, Except.mapError] using herr f.error _ hgone hun

/-- A call to the backend, seen from the service. -/
theorem serves_backendCall {x : BackendMethod α}
    {P : Except BackendError α → PermissionWorld → PermissionTrace → Prop}
    (hx : Serves x.run P w tr) :
    Serves (backendCall x).run (fun r w' tr' => (∀ a, r = .ok a → P (.ok a) w' tr') ∧
      (∀ e, r = .error e → ∃ e', P (.error e') w' tr')) w tr := by
  refine serves_run_orThrow (hx.post ?_)
  rintro (e | a) w' tr' h
  · exact ⟨fun a ha => by simp [Except.mapError] at ha, fun _ _ => ⟨e, h⟩⟩
  · refine ⟨fun a' ha => ?_, fun e he => by simp [Except.mapError] at he⟩
    obtain rfl := Except.ok.inj ha
    exact h

end rules

/-! ## OpenFGA -/

section fga

variable {T : String} {w : PermissionWorld} {tr : PermissionTrace}

/-- The type resolves to a record that can be written to. -/
def Configured (t : String) (R : Namespaces) (n : String) : Prop :=
  ∃ r, R.getByType t n = some r ∧ OpenFga.Provisioned r

theorem usable_eq_ok {t n : String} {record : Option NamespaceRow} {r : NamespaceRow} :
    OpenFga.usable t n record = .ok r ↔ record = some r ∧ OpenFga.Provisioned r := by
  unfold OpenFga.usable
  split
  · split
    · rename_i h
      constructor
      · intro hr
        obtain rfl := Except.ok.inj hr
        exact ⟨rfl, h⟩
      · rintro ⟨hr, -⟩
        rw [Option.some.inj hr]
    · rename_i h
      refine iff_of_false (by simp) fun hr => h ?_
      rw [Option.some.inj hr.1]
      exact hr.2
  · simp

theorem serves_resolveMapping (t n : String) :
    Serves (OpenFga.resolveMapping t n).run (fun r w' tr' => Reads w w' tr tr' ∧
      (∀ record, r = .ok record → w.registry.getByType t n = some record ∧
        OpenFga.Provisioned record) ∧
      (∀ e, r = .error e → NothingWritten tr ∨ ¬ Configured t w.registry n)) w tr := by
  refine serves_run_bind (P := fun r w' tr' => Reads w w' tr tr' ∧
    (∀ record, r = .ok record → record = w.registry.getByType t n) ∧
    (∀ e, r = .error e → NothingWritten tr)) ?_ ?_ ?_
  · refine serves_query (.getNamespaceByType t n) id trivial (fun c => rfl) (fun tr' htr => ?_)
      (fun e tr' htr hun => ?_)
    · refine ⟨⟨rfl, htr⟩, fun record hrecord => ?_, fun e he => by simp [Except.mapError] at he⟩
      exact (Except.ok.inj hrecord).symm
    · exact ⟨⟨rfl, htr⟩, fun record hrecord => by simp at hrecord, fun _ _ => hun⟩
  · rintro record w' tr' ⟨⟨rfl, htr⟩, hrecord, -⟩
    obtain rfl := hrecord record rfl
    refine serves_run_mk ⟨⟨rfl, htr⟩, fun r hr => usable_eq_ok.mp hr, fun e he => .inr ?_⟩
    rintro ⟨r, hr⟩
    rw [usable_eq_ok.mpr hr] at he
    simp at he
  · rintro e w' tr' ⟨hreads, -, herr⟩
    exact ⟨hreads, fun record hrecord => by simp at hrecord, fun _ _ => .inl (herr e rfl)⟩

/-- The records are those the namespaces resolve to. -/
def RightRecords (t : String) (R : Namespaces) (records : List (String × NamespaceRow)) : Prop :=
  ∀ n r, records.lookup n = some r → R.getByType t n = some r ∧ OpenFga.Provisioned r

theorem serves_resolveInto {t : String} {records : List (String × NamespaceRow)}
    (hright : RightRecords t w.registry records) (key : RelationTupleKey) :
    Serves (OpenFga.resolveInto t records key).run (fun r w' tr' => Reads w w' tr tr' ∧
      (∀ records', r = .ok records' → RightRecords t w.registry records' ∧
        (records'.lookup key.nspace).isSome ∧
        ∀ n, (records.lookup n).isSome → (records'.lookup n).isSome) ∧
      (∀ e, r = .error e → NothingWritten tr ∨ ¬ Configured t w.registry key.nspace)) w tr := by
  unfold OpenFga.resolveInto
  rcases hkey : records.lookup key.nspace with _ | record
  · refine serves_run_bind (serves_resolveMapping t key.nspace) ?_ ?_
    · rintro record w' tr' ⟨hreads, hrecord, -⟩
      obtain ⟨hget, hprov⟩ := hrecord record rfl
      refine ⟨hreads, ?_, fun e he => by simp at he⟩
      intro records' hrecords'
      obtain rfl := Except.ok.inj hrecords'
      refine ⟨fun n r hr => ?_, ?_, fun n hn => ?_⟩
      · rw [List.lookup_append] at hr
        rcases hn : records.lookup n with _ | r'
        · by_cases hnk : n = key.nspace
          · subst hnk
            obtain rfl : record = r := by simpa [hn] using hr
            exact ⟨hget, hprov⟩
          · simp [hn, List.lookup_cons, beq_false_of_ne hnk] at hr
        · obtain rfl : r' = r := by simpa [hn] using hr
          exact hright n r' hn
      · simp [List.lookup_append, hkey]
      · rw [List.lookup_append]
        obtain ⟨r, hr⟩ := Option.isSome_iff_exists.mp hn
        simp [hr]
    · rintro e w' tr' ⟨hreads, -, herr⟩
      exact ⟨hreads, fun records' h => by simp at h, fun _ _ => herr e rfl⟩
  · refine ⟨Reads.refl, fun records' h => ?_, fun e he => by simp at he⟩
    obtain rfl := Except.ok.inj h
    exact ⟨hright, by simp [hkey], fun n hn => hn⟩

theorem serves_resolveAll {t : String} (keys : List RelationTupleKey)
    {records : List (String × NamespaceRow)} (hright : RightRecords t w.registry records) :
    Serves (keys.foldlM (OpenFga.resolveInto t) records).run (fun r w' tr' => Reads w w' tr tr' ∧
      (∀ records', r = .ok records' → RightRecords t w.registry records' ∧
        (∀ k ∈ keys, (records'.lookup k.nspace).isSome) ∧
        ∀ n, (records.lookup n).isSome → (records'.lookup n).isSome) ∧
      (∀ e, r = .error e → NothingWritten tr ∨ ∃ k ∈ keys, ¬ Configured t w.registry k.nspace)) w tr := by
  induction keys generalizing records tr with
  | nil =>
      refine ⟨Reads.refl, fun records' h => ?_, fun e he => by simp at he⟩
      obtain rfl := Except.ok.inj h
      exact ⟨hright, by simp, fun n hn => hn⟩
  | cons key keys ih =>
      rw [List.foldlM_cons]
      refine serves_run_bind (serves_resolveInto hright key) ?_ ?_
      · rintro records₁ w₁ tr₁ ⟨⟨rfl, htr⟩, hnext, -⟩
        obtain ⟨hright₁, hkey, hmore⟩ := hnext records₁ rfl
        refine (ih hright₁).post ?_
        rintro r w₂ tr₂ ⟨⟨rfl, htr₂⟩, hok, herr⟩
        refine ⟨⟨rfl, htr₂.trans htr⟩, fun records' h => ?_, fun e he => ?_⟩
        · obtain ⟨hright', hkeys, hmore'⟩ := hok records' h
          refine ⟨hright', fun k hk => ?_, fun n hn => hmore' n (hmore n hn)⟩
          rcases List.mem_cons.mp hk with rfl | hk
          · exact hmore' _ hkey
          · exact hkeys k hk
        · rcases herr e he with hun | ⟨k, hk, hno⟩
          · exact .inl (htr.mp hun)
          · exact .inr ⟨k, List.mem_cons_of_mem _ hk, hno⟩
      · rintro e w' tr' ⟨hreads, -, herr⟩
        refine ⟨hreads, fun records' h => by simp at h, fun _ _ => ?_⟩
        rcases herr e rfl with hun | hno
        · exact .inl hun
        · exact .inr ⟨key, List.mem_cons_self, hno⟩

/-! ### Writing -/

/-- The store takes its part of a batch. -/
def Takes (stores : List FgaStore) (s : String) (ws ds : List FgaTuple) : Prop :=
  ∃ st ∈ stores, st.id = s ∧ FgaAccepts st.tuples ws ds

theorem findStore_eq {st : FgaStore} (hkey : w.stores.Pairwise fun st st' => st.id ≠ st'.id)
    (hst : st ∈ w.stores) : w.findStore st.id = some st := by
  rcases h : w.findStore st.id with _ | st'
  · simpa using List.find?_eq_none.mp h st hst
  · have hst' : st' ∈ w.stores := List.mem_of_find?_eq_some h
    have hid : st'.id = st.id := by simpa using List.find?_some h
    have hsymm : Std.Symm fun st st' : FgaStore => st.id ≠ st'.id := ⟨fun _ _ h h' => h h'.symm⟩
    by_contra hne
    exact hkey.forall hst' hst (fun heq => hne (by rw [heq])) hid

/-- A part of a batch is applied to its store, or refused. -/
theorem writeTuples_eq {s : String} {ws ds : List FgaTuple} (hne : ws ≠ [] ∨ ds ≠ [])
    (hkey : w.stores.Pairwise fun st st' => st.id ≠ st'.id) :
    (Takes w.stores s ws ds → w.writeTuples s ws ds =
      (.ok (), { w with stores := w.stores.map fun st => if st.id = s then st.apply ws ds else st })) ∧
    (¬ Takes w.stores s ws ds → ∃ e, w.writeTuples s ws ds = (.error e, w)) := by
  have hsome : ¬ (ws = [] ∧ ds = []) := by
    rintro ⟨rfl, rfl⟩
    simp at hne
  unfold PermissionWorld.writeTuples
  rw [if_neg hsome]
  constructor
  · rintro ⟨st, hst, rfl, haccepts⟩
    simp [findStore_eq hkey hst, haccepts]
  · intro hno
    rcases h : w.findStore s with _ | st
    · exact ⟨_, rfl⟩
    · have hst : st ∈ w.stores := List.mem_of_find?_eq_some h
      have hid : st.id = s := by simpa using List.find?_some h
      have hrefused : ¬ FgaAccepts st.tuples ws ds := fun ha => hno ⟨st, hst, hid, ha⟩
      simp [hrefused]

/-- The stores after one more part. -/
theorem applyBatch_concat {l : List String} {s : String} {ws ds : String → List FgaTuple}
    {stores : List FgaStore} (hs : s ∉ l) :
    (applyBatch l ws ds stores).map (fun st => if st.id = s then st.apply (ws s) (ds s) else st) =
      applyBatch (l ++ [s]) ws ds stores := by
  simp only [applyBatch, List.map_map]
  refine List.map_congr_left fun st _ => ?_
  by_cases hl : st.id ∈ l
  · have hne : st.id ≠ s := fun h => hs (h ▸ hl)
    simp [hl, hne, FgaStore.apply]
  · by_cases hid : st.id = s
    · simp [hid, hs]
    · simp [hl, hid]

/-- A store that was not written yet takes its part as at first. -/
theorem takes_applyBatch {l : List String} {s : String} {ws ds : String → List FgaTuple}
    {stores : List FgaStore} (hs : s ∉ l) (h : Takes stores s (ws s) (ds s)) :
    Takes (applyBatch l ws ds stores) s (ws s) (ds s) := by
  obtain ⟨st, hst, rfl, haccepts⟩ := h
  exact ⟨st, mem_applyBatch.mpr ⟨st, hst, by simp [hs]⟩, rfl, haccepts⟩

/-- The call that writes one part. -/
def writePart (model : String → String) (ws ds : String → List FgaTuple) (s : String) :
    BackendMethod Unit :=
  OpenFga.fgaCall (Prog.perform (S := PermissionStoreSig) (.writeTuples s (model s) (ws s) (ds s)))

/-- Parts that are all taken are written one after another; the first of them may fail instead. -/
theorem serves_parts (model : String → String) {ws ds : String → List FgaTuple}
    (hkey : w.stores.Pairwise fun st st' => st.id ≠ st'.id) (todo : List String) :
    ∀ {l : List String} (tr : PermissionTrace), (l ++ todo).Nodup →
      (∀ s ∈ todo, (ws s ≠ [] ∨ ds s ≠ []) ∧ Takes w.stores s (ws s) (ds s)) →
      Serves (todo.forM (writePart model ws ds)).run (fun r w' tr' =>
        (r = .ok () → w' = { w with stores := applyBatch (l ++ todo) ws ds w.stores } ∧
          (NothingWritten tr' → NothingWritten tr ∧ todo = [])) ∧
        (∀ e, r = .error e → w' = { w with stores := applyBatch l ws ds w.stores } ∧
          NothingWritten tr))
        { w with stores := applyBatch l ws ds w.stores } tr := by
  induction todo with
  | nil =>
      intro l tr _ _
      exact ⟨fun _ => ⟨by simp, fun h => ⟨h, rfl⟩⟩, fun e he => by simp at he⟩
  | cons s todo ih =>
      intro l tr hnodup htakes
      obtain ⟨hne, hs⟩ := htakes s List.mem_cons_self
      have hsl : s ∉ l := fun h =>
        (List.nodup_append.mp hnodup).2.2 s h s List.mem_cons_self rfl
      have hkey' : (applyBatch l ws ds w.stores).Pairwise fun st st' => st.id ≠ st'.id := by
        refine List.pairwise_map.mpr (hkey.imp fun h => ?_)
        rwa [applied_id, applied_id]
      have heff := (writeTuples_eq (w := { w with stores := applyBatch l ws ds w.stores }) hne
        hkey').1 (takes_applyBatch hsl hs)
      have hconcat : (l ++ [s]) ++ todo = l ++ s :: todo := by simp
      show Serves (writePart model ws ds s >>= fun _ => todo.forM (writePart model ws ds)).run _ _ tr
      refine serves_run_bind (P := fun r w' tr' =>
        (r = .ok () → w' = { w with stores := applyBatch (l ++ [s]) ws ds w.stores } ∧
          ¬ NothingWritten tr') ∧
        (∀ e, r = .error e → w' = { w with stores := applyBatch l ws ds w.stores } ∧
          NothingWritten tr)) ?_ ?_ ?_
      · refine serves_write (.writeTuples s (model s) (ws s) (ds s)) id id (fun c => rfl)
          (fun c tr' _ hwritten => ?_) (fun f tr' _ hun => ?_)
        · rw [heff]
          refine ⟨fun _ => ⟨?_, hwritten⟩, fun e he => by simp [Except.mapError] at he⟩
          simp only [applyBatch_concat hsl]
        · exact ⟨fun h => by simp at h, fun _ _ => ⟨rfl, hun⟩⟩
      · rintro ⟨⟩ w' tr' ⟨hok, -⟩
        obtain ⟨rfl, hwritten⟩ := hok rfl
        refine (ih tr' (hconcat ▸ hnodup) fun s' hs' => htakes s' (List.mem_cons_of_mem s hs')).post ?_
        rintro r w'' tr'' ⟨hok, herr⟩
        refine ⟨fun h => ?_, fun e he => absurd (herr e he).2 hwritten⟩
        rw [← hconcat]
        exact ⟨(hok h).1, fun hnothing => absurd ((hok h).2 hnothing).1 hwritten⟩
      · rintro e w' tr' ⟨-, herr⟩
        exact ⟨fun h => by simp at h, fun _ _ => herr e rfl⟩

/-- If the first store refuses its part, nothing is written. -/
theorem serves_refused {model : String → String} {ws ds : String → List FgaTuple} {s : String}
    {l : List String} (hkey : w.stores.Pairwise fun st st' => st.id ≠ st'.id)
    (hne : ws s ≠ [] ∨ ds s ≠ []) (hno : ¬ Takes w.stores s (ws s) (ds s)) :
    Serves ((s :: l).forM (writePart model ws ds)).run
      (fun r w' _ => (∃ e, r = .error e) ∧ w' = w) w tr := by
  obtain ⟨e, he⟩ := (writeTuples_eq hne hkey).2 hno
  refine serves_run_bind (P := fun r w' _ => (∃ e, r = .error e) ∧ w' = w) ?_ ?_ ?_
  · refine serves_write (.writeTuples s (model s) (ws s) (ds s)) id id (fun c => rfl)
      (fun c tr' _ _ => ?_) (fun f tr' _ _ => ⟨⟨_, rfl⟩, rfl⟩)
    rw [he]
    exact ⟨⟨_, rfl⟩, rfl⟩
  · rintro ⟨⟩ w' tr' ⟨⟨e, he⟩, -⟩
    simp at he
  · rintro e w' tr' ⟨-, rfl⟩
    exact ⟨⟨e, rfl⟩, rfl⟩

/-- The stores a batch goes to, in the order they are written. -/
def touched (order : List String → List String) (T : String) (R : Namespaces)
    (ws ds : List RelationTupleKey) : List String :=
  order ((ws ++ ds).map (storeFor T R)).dedup

/-- Every store takes its part, or the first of them refuses. -/
def StoresAccept (order : List String → List String) (T : String) (R : Namespaces)
    (stores : List FgaStore) (ws ds : List RelationTupleKey) : Prop :=
  (∀ s ∈ touched order T R ws ds, Takes stores s (groupOf T R ws s) (groupOf T R ds s)) ∨
    ∃ s l, touched order T R ws ds = s :: l ∧
      ¬ Takes stores s (groupOf T R ws s) (groupOf T R ds s)

section records

variable {R : Namespaces} {records : List (String × NamespaceRow)} {keys : List RelationTupleKey}

theorem storeOfKey_eq (hright : RightRecords T R records) {k : RelationTupleKey}
    (hk : (records.lookup k.nspace).isSome) : OpenFga.storeOfKey records k = storeFor T R k := by
  obtain ⟨r, hr⟩ := Option.isSome_iff_exists.mp hk
  rw [storeFor_of_getByType (hright _ r hr).1]
  simp [OpenFga.storeOfKey, hr]

theorem keysOf_eq (hright : RightRecords T R records)
    (hkeys : ∀ k ∈ keys, (records.lookup k.nspace).isSome) (s : String) :
    OpenFga.keysOf records s keys = groupOf T R keys s := by
  unfold OpenFga.keysOf groupOf
  refine congrArg _ (List.filter_congr fun k hk => ?_)
  rw [storeOfKey_eq hright (hkeys k hk)]

end records

theorem mem_touched {order : List String → List String} (horder : ∀ l, (order l).Perm l)
    {R : Namespaces} {ws ds : List RelationTupleKey} {s : String} :
    s ∈ touched order T R ws ds ↔ ∃ k, (k ∈ ws ∨ k ∈ ds) ∧ storeFor T R k = s := by
  simp [touched, (horder _).mem_iff, or_and_right, exists_or]

/-- Every store that is touched has a part of the batch. -/
theorem groupOf_ne_nil {order : List String → List String} (horder : ∀ l, (order l).Perm l)
    {R : Namespaces} {ws ds : List RelationTupleKey} {s : String}
    (hs : s ∈ touched order T R ws ds) : groupOf T R ws s ≠ [] ∨ groupOf T R ds s ≠ [] := by
  obtain ⟨k, hk | hk, hks⟩ := (mem_touched horder).mp hs
  · exact .inl (List.ne_nil_of_mem (mem_groupOf.mpr ⟨k, hk, hks, rfl⟩))
  · exact .inr (List.ne_nil_of_mem (mem_groupOf.mpr ⟨k, hk, hks, rfl⟩))

/-- The world after a batch. -/
def batched (order : List String → List String) (T : String) (w : PermissionWorld)
    (ws ds : List RelationTupleKey) : PermissionWorld :=
  let l := touched order T w.registry ws ds
  { w with stores := applyBatch l (groupOf T w.registry ws) (groupOf T w.registry ds) w.stores }

/-- **A batch of OpenFGA** goes to all of its stores, or to none. -/
theorem serves_writeTuples {order : List String → List String} (horder : ∀ l, (order l).Perm l)
    (hkey : w.stores.Pairwise fun st st' => st.id ≠ st'.id) {ws ds : List RelationTupleKey}
    (haccept : (∀ k, k ∈ ws ∨ k ∈ ds → Configured T w.registry k.nspace) →
      StoresAccept order T w.registry w.stores ws ds) :
    Serves (OpenFga.writeTuples order T ws ds).run (fun r w' tr' =>
      (r = .ok () → Batch T w.registry w.stores ws ds (touched order T w.registry ws ds) ∧
        w' = batched order T w ws ds ∧
        (NothingWritten tr' → NothingWritten tr ∧ touched order T w.registry ws ds = [])) ∧
      (∀ e, r = .error e → w' = w ∧ (NothingWritten tr ∨
        (∃ k, (k ∈ ws ∨ k ∈ ds) ∧ ¬ Configured T w.registry k.nspace) ∨
        ∃ s ∈ touched order T w.registry ws ds,
          ¬ Takes w.stores s (groupOf T w.registry ws s) (groupOf T w.registry ds s)))) w tr := by
  have hempty : RightRecords T w.registry [] := by
    intro n r h
    simp at h
  refine serves_run_bind (serves_resolveAll (ws ++ ds) hempty) ?_ ?_
  · rintro records w₁ tr₁ ⟨⟨rfl, htr⟩, hok, -⟩
    obtain ⟨hright, hkeys, -⟩ := hok records rfl
    have hconfigured : ∀ k, k ∈ ws ∨ k ∈ ds → Configured T w₁.registry k.nspace := by
      intro k hk
      obtain ⟨r, hr⟩ := Option.isSome_iff_exists.mp (hkeys k (List.mem_append.mpr hk))
      exact ⟨r, hright _ r hr⟩
    have hws (s : String) : OpenFga.keysOf records s ws = groupOf T w₁.registry ws s :=
      keysOf_eq hright (fun k hk => hkeys k (List.mem_append_left _ hk)) s
    have hds (s : String) : OpenFga.keysOf records s ds = groupOf T w₁.registry ds s :=
      keysOf_eq hright (fun k hk => hkeys k (List.mem_append_right _ hk)) s
    have hmap : (ws ++ ds).map (OpenFga.storeOfKey records) = (ws ++ ds).map (storeFor T w₁.registry) :=
      List.map_congr_left fun k hk => storeOfKey_eq hright (hkeys k hk)
    have hnodup : ([] ++ touched order T w₁.registry ws ds).Nodup :=
      (horder _).nodup_iff.mpr (List.nodup_dedup _)
    rw [hmap]
    show Serves ((touched order T w₁.registry ws ds).forM (writePart (OpenFga.modelOfStore records)
      (fun s => OpenFga.keysOf records s ws) fun s => OpenFga.keysOf records s ds)).run _ w₁ tr₁
    rw [funext hws, funext hds]
    rcases haccept hconfigured with hall | ⟨s, l, hfirst, hno⟩
    · have hparts := serves_parts (w := w₁) (OpenFga.modelOfStore records) hkey
        (touched order T w₁.registry ws ds) tr₁ hnodup
        fun s hs => ⟨groupOf_ne_nil horder hs, hall s hs⟩
      have hnil : applyBatch [] (groupOf T w₁.registry ws) (groupOf T w₁.registry ds) w₁.stores =
          w₁.stores := by simp [applyBatch]
      rw [hnil] at hparts
      refine hparts.post ?_
      rintro r w' tr' ⟨hok, herr⟩
      refine ⟨fun h => ⟨⟨hconfigured, fun k hk => ?_, hall⟩, (hok h).1, fun hnothing => ?_⟩,
        fun e he => ⟨(herr e he).1, .inl (htr.mp (herr e he).2)⟩⟩
      · exact (mem_touched horder).mpr ⟨k, hk, rfl⟩
      · obtain ⟨hun, hl⟩ := (hok h).2 hnothing
        exact ⟨htr.mp hun, hl⟩
    · have hs : s ∈ touched order T w₁.registry ws ds := hfirst ▸ List.mem_cons_self
      rw [hfirst]
      refine (serves_refused hkey (groupOf_ne_nil horder hs) hno).post ?_
      rintro r w' tr' ⟨⟨e, rfl⟩, rfl⟩
      exact ⟨fun h => by simp at h, fun _ _ => ⟨rfl, .inr (.inr ⟨s, List.mem_cons_self, hno⟩)⟩⟩
  · rintro e w' tr' ⟨⟨rfl, -⟩, -, herr⟩
    refine ⟨fun h => by simp at h, fun _ _ => ⟨rfl, ?_⟩⟩
    rcases herr e rfl with hun | ⟨k, hk, hno⟩
    · exact .inl hun
    · exact .inr (.inl ⟨k, List.mem_append.mp hk, hno⟩)

end fga

end SsoGateway
