import Mathlib.Data.Fintype.Basic
import SsoGateway.Lib.Machine
import SsoGateway.Namespaces

/-!
# Upserts of namespaces, statement by statement

Any number of transactions run the statements of `upsert`, interleaved, next to deletions. A statement
sees what has been committed and what its own transaction has written; it waits for another
transaction that has written the rows it is about to write (READ COMMITTED).

* `upsertStep` — one statement of one transaction, or a deletion.
* `IndexesFree` — when a transaction inserts its types, no other namespace owns one of them.
* `type_index_consistent` — then the index has exactly the types of the models.
* `type_skipped` — two upserts that both find a type free; one of them skips it.

Source: `db/permission_namespace.rs`.
-/

namespace SsoGateway

open Lib

/-! ## Transactions -/

/-- How far an upsert has come, with what it has written. -/
inductive UpsertPhase where
  | begun
  | checked
  | recorded (W : UpsertWrites)
  | pruned (W : UpsertWrites)
  | indexed (W : UpsertWrites)
  | ended (r : Except DbError NamespaceRow)

/-- What it has written and not committed. -/
def UpsertPhase.writes : UpsertPhase → Option UpsertWrites
  | .recorded W => some W
  | .pruned W => some W
  | .indexed W => some W
  | _ => none

/-- The committed registry, and the transactions. -/
structure Upserts (ι : Type) where
  registry : Namespaces
  phase : ι → UpsertPhase

/-- What may happen next. -/
inductive RegistryAction (ι : Type) where
  /-- The next statement of a transaction. The last is the `SELECT` of the row with `COMMIT`. -/
  | statement (i : ι) (now : ℤ)
  /-- A transaction fails, and is rolled back. -/
  | fail (i : ι) (err : DbError)
  /-- Source: `delete`. -/
  | remove (tenantId nspace : String)

/-- The transaction has written the row of that namespace. -/
def LocksRecord (q : UpsertRequest) (phase : UpsertPhase) (tenantId nspace : String) : Prop :=
  phase.writes.isSome ∧ q.tenantId = tenantId ∧ q.nspace = nspace

/-- The transaction has removed or added that type. -/
def LocksType (q : UpsertRequest) (phase : UpsertPhase) (tenantId type : String) : Prop :=
  match phase.writes with
  | some W => q.tenantId = tenantId ∧ (type ∈ W.deleted ∨ type ∈ W.inserted)
  | none => False

instance (q : UpsertRequest) (phase : UpsertPhase) (t n : String) :
    Decidable (LocksRecord q phase t n) := inferInstanceAs (Decidable (_ ∧ _))

instance (q : UpsertRequest) (phase : UpsertPhase) (t y : String) :
    Decidable (LocksType q phase t y) := by
  unfold LocksType
  split
  · exact inferInstance
  · exact inferInstance

/-- The next statement is not the one that inserts the types, or no other namespace owns one. -/
def UpsertPhase.IndexFree (R : Namespaces) (q : UpsertRequest) : UpsertPhase → Prop
  | .pruned _ => R.conflicts q = []
  | _ => True

instance (R : Namespaces) (q : UpsertRequest) : DecidablePred (UpsertPhase.IndexFree R q)
  | .pruned _ => inferInstanceAs (Decidable (R.conflicts q = []))
  | .begun | .checked | .recorded _ | .indexed _ | .ended _ => inferInstanceAs (Decidable True)

section machine

variable {ι : Type} [DecidableEq ι] [Fintype ι] (request : ι → UpsertRequest)

/-- Another transaction has written one of those types of the tenant of `i`. -/
def TypesLocked (s : Upserts ι) (i : ι) (types : List String) : Prop :=
  ∃ j, j ≠ i ∧ ∃ type ∈ types, LocksType (request j) (s.phase j) (request i).tenantId type

instance (s : Upserts ι) (i : ι) (types : List String) :
    Decidable (TypesLocked request s i types) := inferInstanceAs (Decidable (∃ _, _))

/-- A transaction goes on. -/
def Upserts.moveTo (s : Upserts ι) (i : ι) (phase : UpsertPhase) : Upserts ι :=
  { s with phase := Function.update s.phase i phase }

omit [Fintype ι] in
@[simp] theorem Upserts.moveTo_self (s : Upserts ι) (i : ι) (phase : UpsertPhase) :
    (s.moveTo i phase).phase i = phase := Function.update_self _ _ _

omit [Fintype ι] in
theorem Upserts.moveTo_of_ne (s : Upserts ι) {i j : ι} (phase : UpsertPhase) (h : j ≠ i) :
    (s.moveTo i phase).phase j = s.phase j := Function.update_of_ne h _ _

/-- The next statement of a transaction; none while it waits, and when it has ended. -/
def upsertStatement (s : Upserts ι) (i : ι) (now : ℤ) : Option (Upserts ι) :=
  let q := request i
  match s.phase i with
  | .begun =>
      match s.registry.conflicts q with
      | type :: _ => some (s.moveTo i (.ended (.error (.namespaceTypeConflict type))))
      | [] => some (s.moveTo i .checked)
  | .checked =>
      if ∃ j, j ≠ i ∧ LocksRecord (request j) (s.phase j) q.tenantId q.nspace then none
      else some (s.moveTo i (.recorded (s.registry.recordStatement q now)))
  | .recorded W =>
      if TypesLocked request s i (s.registry.pruneStatement q W).deleted then none
      else some (s.moveTo i (.pruned (s.registry.pruneStatement q W)))
  | .pruned W =>
      if TypesLocked request s i q.indexTypes then none
      else some (s.moveTo i (.indexed (s.registry.indexStatement q W)))
  | .indexed W =>
      match s.registry.commit q W with
      | .ok registry => some { s.moveTo i (.ended (.ok W.record)) with registry := registry }
      | .error e => some (s.moveTo i (.ended (.error e)))
  | .ended _ => none

/-- One step. -/
def upsertStep (s : Upserts ι) : RegistryAction ι → Option (Upserts ι)
  | .statement i now => upsertStatement request s i now
  | .fail i err =>
      match s.phase i with
      | .ended _ => none
      | _ => some (s.moveTo i (.ended (.error err)))
  | .remove t n =>
      if ∃ j, LocksRecord (request j) (s.phase j) t n then none
      else some { s with registry := s.registry.remove t n }

/-- When a transaction inserts its types, no other namespace owns one of them. -/
def IndexesFree (s : Upserts ι) : RegistryAction ι → Prop
  | .statement i _ => (s.phase i).IndexFree s.registry (request i)
  | _ => True

instance (s : Upserts ι) : DecidablePred (IndexesFree request s)
  | .statement i _ => inferInstanceAs (Decidable ((s.phase i).IndexFree s.registry (request i)))
  | .fail _ _ => inferInstanceAs (Decidable True)
  | .remove _ _ => inferInstanceAs (Decidable True)

/-- The transactions have not begun. -/
def Upserts.start (R : Namespaces) : Upserts ι := ⟨R, fun _ => .begun⟩

/-! ## The invariant -/

variable {request}

/-- What a transaction has written is what its statements have yielded, on a registry whose rows of
its namespace are still the same. -/
def UpsertPhase.Sound (R : Namespaces) (q : UpsertRequest) : UpsertPhase → Prop
  | .recorded W => W.record.IsOf q.tenantId q.nspace ∧ W.record.model = q.model
  | .pruned W => W.record.IsOf q.tenantId q.nspace ∧ W.record.model = q.model ∧
      ∀ type, type ∈ W.deleted ↔
        (⟨q.tenantId, type, q.nspace⟩ : NamespaceTypeRow) ∈ R.types ∧ type ∉ q.indexTypes
  | .indexed W => W.record.IsOf q.tenantId q.nspace ∧ W.record.model = q.model ∧
      (∀ type, type ∈ W.deleted ↔
        (⟨q.tenantId, type, q.nspace⟩ : NamespaceTypeRow) ∈ R.types ∧ type ∉ q.indexTypes) ∧
      (∀ type ∈ W.inserted, type ∈ q.indexTypes) ∧
      ∀ type ∈ q.indexTypes,
        (⟨q.tenantId, type, q.nspace⟩ : NamespaceTypeRow) ∈ R.types ∨ type ∈ W.inserted
  | _ => True

/-- Only the types of its own namespace matter to a transaction. -/
theorem UpsertPhase.Sound.congr {R R' : Namespaces} {q : UpsertRequest} {phase : UpsertPhase}
    (h : phase.Sound R q)
    (htypes : phase.writes.isSome → ∀ type, (⟨q.tenantId, type, q.nspace⟩ : NamespaceTypeRow) ∈ R'.types ↔
      (⟨q.tenantId, type, q.nspace⟩ : NamespaceTypeRow) ∈ R.types) : phase.Sound R' q := by
  cases phase with
  | begun | checked | recorded W | ended r => exact h
  | pruned W =>
      have htypes := htypes rfl
      refine ⟨h.1, h.2.1, fun type => ?_⟩
      rw [htypes]
      exact h.2.2 type
  | indexed W =>
      have htypes := htypes rfl
      refine ⟨h.1, h.2.1, fun type => ?_, h.2.2.2.1, fun type hy => ?_⟩
      · rw [htypes]
        exact h.2.2.1 type
      · rw [htypes]
        exact h.2.2.2.2 type hy

/-- The invariant of the transactions. -/
structure UpsertsSound (request : ι → UpsertRequest) (s : Upserts ι) : Prop where
  consistent : s.registry.Consistent
  sound : ∀ i, (s.phase i).Sound s.registry (request i)
  /-- Two transactions have not written the row of one namespace. -/
  exclusive : ∀ i j, i ≠ j → (s.phase i).writes.isSome → (s.phase j).writes.isSome →
    ¬ ((request i).tenantId = (request j).tenantId ∧ (request i).nspace = (request j).nspace)

/-- A commit leaves the index of the other namespaces, and makes that of its own the types of its
model. -/
theorem commit_sound {R R' : Namespaces} {q : UpsertRequest} {W : UpsertWrites} (hR : R.Consistent)
    (hsound : (UpsertPhase.indexed W).Sound R q) (h : R.commit q W = .ok R') :
    R'.Consistent ∧ ∀ t n, ¬ (t = q.tenantId ∧ n = q.nspace) → ∀ type,
      (⟨t, type, n⟩ : NamespaceTypeRow) ∈ R'.types ↔ (⟨t, type, n⟩ : NamespaceTypeRow) ∈ R.types := by
  obtain ⟨hof, hmodel, hdeleted, hinserted, hindexed⟩ := hsound
  obtain ⟨hrecords, htypes⟩ := Namespaces.commit_ok h
  have hothers : ∀ t n, ¬ (t = q.tenantId ∧ n = q.nspace) → ∀ type,
      (⟨t, type, n⟩ : NamespaceTypeRow) ∈ R'.types ↔ (⟨t, type, n⟩ : NamespaceTypeRow) ∈ R.types := by
    intro t n hne type
    rw [htypes, Namespaces.mem_typesAfter]
    constructor
    · rintro (⟨hown, -⟩ | ⟨hx, -⟩)
      · exact absurd hown hne
      · exact hx
    · intro hx
      refine .inr ⟨hx, ?_⟩
      rintro ⟨ht, hy⟩
      -- the type that was removed had the other namespace as its one owner
      have hrow := Namespaces.type_unique hx ((hdeleted type).mp hy).1 ht rfl
      exact hne ⟨ht, congrArg NamespaceTypeRow.nspace hrow⟩
  refine ⟨?_, hothers⟩
  intro r hr type
  rw [hrecords, Namespaces.mem_recordsAfter] at hr
  rcases hr with rfl | ⟨hr, hne⟩
  · rw [hmodel, htypes, Namespaces.mem_typesAfter, hof.1, hof.2]
    constructor
    · rintro (⟨-, hy⟩ | ⟨hx, hkept⟩)
      · exact hinserted type hy
      · by_contra hy
        exact hkept ⟨rfl, (hdeleted type).mpr ⟨hx, hy⟩⟩
    · intro hy
      rcases hindexed type hy with hx | hx
      · refine .inr ⟨hx, ?_⟩
        rintro ⟨-, hdel⟩
        exact ((hdeleted type).mp hdel).2 hy
      · exact .inl ⟨⟨rfl, rfl⟩, hx⟩
  · rw [hothers _ _ hne]
    exact hR r hr type

/-- A deletion leaves the index of the other namespaces. -/
theorem mem_types_remove {R : Namespaces} {t n t' n' type : String} (hne : ¬ (t' = t ∧ n' = n)) :
    (⟨t', type, n'⟩ : NamespaceTypeRow) ∈ (R.remove t n).types ↔
      (⟨t', type, n'⟩ : NamespaceTypeRow) ∈ R.types := by
  simp only [Namespaces.remove, NamespaceTypeRow.IsOf, List.mem_filter]
  exact and_iff_left (decide_eq_true hne)

theorem consistent_remove {R : Namespaces} (hR : R.Consistent) (t n : String) :
    (R.remove t n).Consistent := by
  intro r hr type
  obtain ⟨hr, hne⟩ := List.mem_filter.mp hr
  rw [mem_types_remove (of_decide_eq_true hne)]
  exact hR r hr type

variable {s s' : Upserts ι}

omit [Fintype ι] in
/-- A statement that does not commit. -/
theorem UpsertsSound.moveTo (h : UpsertsSound request s) {i : ι} {phase : UpsertPhase}
    (hphase : phase.Sound s.registry (request i))
    (hexclusive : phase.writes.isSome → ∀ j, j ≠ i → (s.phase j).writes.isSome →
      ¬ ((request i).tenantId = (request j).tenantId ∧ (request i).nspace = (request j).nspace)) :
    UpsertsSound request (s.moveTo i phase) where
  consistent := h.consistent
  sound j := by
    by_cases hj : j = i
    · subst hj
      rw [s.moveTo_self]
      exact hphase
    · rw [s.moveTo_of_ne phase hj]
      exact h.sound j
  exclusive j k hjk hj hk := by
    by_cases hji : j = i
    · subst hji
      rw [s.moveTo_self] at hj
      rw [s.moveTo_of_ne phase (Ne.symm hjk)] at hk
      exact hexclusive hj k (Ne.symm hjk) hk
    · rw [s.moveTo_of_ne phase hji] at hj
      by_cases hki : k = i
      · subst hki
        rw [s.moveTo_self] at hk
        intro hsame
        exact hexclusive hk j hji hj ⟨hsame.1.symm, hsame.2.symm⟩
      · rw [s.moveTo_of_ne phase hki] at hk
        exact h.exclusive j k hjk hj hk

omit [Fintype ι] in
/-- Where the transaction has written before, it holds its namespace already. -/
theorem UpsertsSound.goOn (h : UpsertsSound request s) {i : ι} (phase : UpsertPhase)
    (hphase : phase.Sound s.registry (request i)) (hwrites : (s.phase i).writes.isSome) :
    UpsertsSound request (s.moveTo i phase) :=
  h.moveTo hphase fun _ j hji hj => h.exclusive i j (Ne.symm hji) hwrites hj

/-- One statement of a transaction. -/
theorem UpsertsSound.statement (h : UpsertsSound request s) {i : ι} {now : ℤ}
    (hfree : (s.phase i).IndexFree s.registry (request i))
    (hs' : upsertStatement request s i now = some s') : UpsertsSound request s' := by
  have hsound := h.sound i
  unfold upsertStatement at hs'
  rcases hi : s.phase i with _ | _ | W | W | W | r
  · rw [hi] at hs'
    dsimp only at hs'
    split at hs'
    · obtain rfl := Option.some.inj hs'
      exact h.moveTo trivial fun hw => by simp [UpsertPhase.writes] at hw
    · obtain rfl := Option.some.inj hs'
      exact h.moveTo trivial fun hw => by simp [UpsertPhase.writes] at hw
  · rw [hi] at hs'
    dsimp only at hs'
    split at hs'
    · simp at hs'
    · rename_i hunlocked
      obtain rfl := Option.some.inj hs'
      refine h.moveTo ⟨Namespaces.mergedRow_isOf now, Namespaces.mergedRow_model now⟩ ?_
      intro _ j hji hj hsame
      exact hunlocked ⟨j, hji, hj, hsame.1.symm, hsame.2.symm⟩
  · rw [hi] at hs' hsound
    dsimp only at hs'
    split at hs'
    · simp at hs'
    · obtain rfl := Option.some.inj hs'
      refine h.goOn _ ⟨hsound.1, hsound.2, fun type => ?_⟩ (by rw [hi]; rfl)
      exact Namespaces.mem_pruned
  · rw [hi] at hs' hsound hfree
    dsimp only at hs'
    split at hs'
    · simp at hs'
    · obtain rfl := Option.some.inj hs'
      obtain ⟨hof, hmodel, hdeleted⟩ := hsound
      refine h.goOn _ ⟨hof, hmodel, hdeleted, fun type hy => (Namespaces.mem_indexed.mp hy).1, ?_⟩
        (by rw [hi]; rfl)
      intro type hy
      by_cases hx : ∃ x ∈ s.registry.types, x.tenantId = (request i).tenantId ∧ x.type = type
      · -- the type is there already; no other namespace owns it
        obtain ⟨⟨t, y, n⟩, hx, rfl, rfl⟩ := hx
        have hn := Namespaces.conflicts_eq_nil.mp hfree _ hx rfl hy
        exact .inl (hn ▸ hx)
      · refine .inr (Namespaces.mem_indexed.mpr ⟨hy, fun x hxin ht hxy => hx ⟨x, hxin, ht, hxy⟩⟩)
  · rw [hi] at hs' hsound
    dsimp only at hs'
    split at hs'
    · rename_i R' hcommit
      obtain rfl := Option.some.inj hs'
      obtain ⟨hconsistent, hothers⟩ := commit_sound h.consistent hsound hcommit
      have hmoved := h.goOn (.ended (.ok W.record)) trivial (by rw [hi]; rfl)
      refine ⟨hconsistent, fun j => (hmoved.sound j).congr fun hw type => ?_, hmoved.exclusive⟩
      refine hothers _ _ (fun hsame => ?_) type
      by_cases hji : j = i
      · subst hji
        rw [s.moveTo_self] at hw
        simp [UpsertPhase.writes] at hw
      · rw [s.moveTo_of_ne _ hji] at hw
        exact h.exclusive j i hji hw (by rw [hi]; rfl) hsame
    · obtain rfl := Option.some.inj hs'
      exact h.moveTo trivial fun hw => by simp [UpsertPhase.writes] at hw
  · rw [hi] at hs'
    simp at hs'

/-- One step. -/
theorem UpsertsSound.step (h : UpsertsSound request s) {a : RegistryAction ι}
    (hfree : IndexesFree request s a) (hs' : upsertStep request s a = some s') :
    UpsertsSound request s' := by
  cases a with
  | statement i now => exact h.statement hfree hs'
  | fail i err =>
      simp only [upsertStep] at hs'
      split at hs'
      · simp at hs'
      · obtain rfl := Option.some.inj hs'
        exact h.moveTo trivial fun hw => by simp [UpsertPhase.writes] at hw
  | remove t n =>
      simp only [upsertStep] at hs'
      split at hs'
      · simp at hs'
      · rename_i hunlocked
        obtain rfl := Option.some.inj hs'
        refine ⟨consistent_remove h.consistent t n, fun j => (h.sound j).congr fun hw type => ?_,
          h.exclusive⟩
        exact mem_types_remove fun hsame => hunlocked ⟨j, hw, hsame.1, hsame.2⟩

/-- Only a commit changes the registry. -/
theorem registry_statement {i : ι} {now : ℤ} (hs' : upsertStatement request s i now = some s')
    (hended : ∀ row, s'.phase i ≠ .ended (.ok row)) : s'.registry = s.registry := by
  unfold upsertStatement at hs'
  rcases hi : s.phase i with _ | _ | W | W | W | r
  · rw [hi] at hs'
    dsimp only at hs'
    split at hs' <;> obtain rfl := Option.some.inj hs' <;> rfl
  · rw [hi] at hs'
    dsimp only at hs'
    split at hs'
    · simp at hs'
    · obtain rfl := Option.some.inj hs'
      rfl
  · rw [hi] at hs'
    dsimp only at hs'
    split at hs'
    · simp at hs'
    · obtain rfl := Option.some.inj hs'
      rfl
  · rw [hi] at hs'
    dsimp only at hs'
    split at hs'
    · simp at hs'
    · obtain rfl := Option.some.inj hs'
      rfl
  · rw [hi] at hs'
    dsimp only at hs'
    split at hs'
    · obtain rfl := Option.some.inj hs'
      exact absurd (s.moveTo_self i _) (hended W.record)
    · obtain rfl := Option.some.inj hs'
      rfl
  · rw [hi] at hs'
    simp at hs'

/-- **The type index is consistent** along every run of transactions and deletions in which, whenever
a transaction inserts its types, no other namespace owns one of them: an object type has one owner,
the index has exactly the types of the models, and no statement but the commit of an upsert changes
the registry. -/
theorem type_index_consistent (request : ι → UpsertRequest) (R : Namespaces) (hR : R.Consistent)
    (acts : List (RegistryAction ι))
    (hfree : Machine.Along (upsertStep request) (IndexesFree request) (.start R) acts)
    {s : Upserts ι} (hrun : Machine.run (upsertStep request) (.start R) acts = some s) :
    (∀ x ∈ s.registry.types, ∀ x' ∈ s.registry.types, x.tenantId = x'.tenantId → x.type = x'.type →
      x.nspace = x'.nspace) ∧
    s.registry.Consistent ∧
    ∀ i now s', upsertStep request s (.statement i now) = some s' →
      (∀ row, s'.phase i ≠ .ended (.ok row)) → s'.registry = s.registry := by
  have hstart : UpsertsSound request (.start R) :=
    ⟨hR, fun _ => trivial, fun _ _ _ h => by simp [Upserts.start, UpsertPhase.writes] at h⟩
  have hsound := Machine.run_invariant (I := UpsertsSound request)
    (fun _ _ _ h hP hstep => h.step hP hstep) hstart hfree hrun
  refine ⟨fun x hx x' hx' ht hy => ?_, hsound.consistent, fun i now s' hs' => registry_statement hs'⟩
  rw [Namespaces.type_unique hx hx' ht hy]

end machine

/-! ## A type that is skipped -/

/-- A model that defines a relation for one type. -/
def modelOf (type : String) : Value :=
  .obj [("schema_version", .str "1.1"),
    ("type_definitions", .arr [.obj [("type", .str type),
      ("relations", .obj [("viewer", .obj [("this", .obj [])])])]])]

/-- Two namespaces whose models define the same type. -/
def sharedType : Bool → UpsertRequest
  | false => ⟨"acme", "one", modelOf "Shared", none, none⟩
  | true => ⟨"acme", "two", modelOf "Shared", none, none⟩

/-- The next statements of one of them. -/
def statements (i : Bool) (n : ℕ) : List (RegistryAction Bool) := List.replicate n (.statement i 0)

/-- One after the other: the second finds the conflict. -/
theorem type_index_consistent_sequential :
    ∃ s, Machine.run (upsertStep sharedType) (.start .empty) (statements false 5 ++ statements true 1) =
        some s ∧ s.phase true = .ended (.error (.namespaceTypeConflict "Shared")) ∧
      s.registry.Consistent := by
  have hfree : Machine.Along (upsertStep sharedType) (IndexesFree sharedType) (.start .empty)
      (statements false 5 ++ statements true 1) := by decide
  have hempty : Namespaces.empty.Consistent := fun r hr => absurd hr List.not_mem_nil
  exact ⟨_, rfl, rfl, (type_index_consistent sharedType .empty hempty _ hfree rfl).2.1⟩

/-- Both find the type free before either inserts it: the second skips it, and its model has a type
that the index does not give it. -/
theorem type_skipped :
    ∃ s, Machine.run (upsertStep sharedType) (.start .empty)
        (statements false 1 ++ statements true 1 ++ statements false 4 ++ statements true 4) = some s ∧
      (∃ row, s.phase true = .ended (.ok row) ∧ row ∈ s.registry.records ∧
        "Shared" ∈ relationBearingTypeNames row.model) ∧
      s.registry.types = [⟨"acme", "Shared", "one"⟩] ∧ ¬ s.registry.Consistent := by
  refine ⟨_, rfl, ⟨_, rfl, List.mem_cons_self, by decide⟩, rfl, fun h => ?_⟩
  have hindexed := (h _ List.mem_cons_self "Shared").mpr (by decide)
  exact absurd hindexed (by decide)

end SsoGateway
