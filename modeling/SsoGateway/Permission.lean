import SsoGateway.Errors
import SsoGateway.Lib.Contract
import SsoGateway.Lib.Text

/-!
# The permission backend

Relation tuples and the backend (Keto or OpenFGA) that stores and evaluates them, one store of
tuples for each tenant. A subject is an identity or a *subject set* `ns:object#relation`, which
stands for everyone who holds that relation.

* `RelationTupleKey`, `StoredTuple` — tuples, and tuples in a tenant's store.
* `Holds` — who holds a relation, as the least relation closed under subject sets.
* `checkWithin` — the evaluation of `Holds` to a bounded depth, as the backends do it
  (`holds_of_checkWithin`, `exists_checkWithin_of_holds`).
* `PermissionSig`, `permissionHandler` — the calls of the `PermissionBackend` trait that the
  entitlement service makes, and what they do to the tuples.
-/

namespace SsoGateway

open Lib

/-! ## Tuples -/

/-- Source: `services/permission.rs` `RelationTupleKey`. -/
structure RelationTupleKey where
  nspace : String
  object : String
  relation : String
  subjectId : String
deriving DecidableEq, Repr

/-- A tuple in the store of a tenant. -/
structure StoredTuple where
  tenantId : String
  key : RelationTupleKey
deriving DecidableEq, Repr

/-- Read a subject as a subject set. Source: `services/permission.rs` `keto_subject`. -/
def subjectSet (subjectId : String) : Option (String × String × String) :=
  match splitOnce subjectId '#' with
  | none => none
  | some (left, relation) =>
      match splitOnce left ':' with
      | none => none
      | some (nspace, object) =>
          if nspace ≠ "" ∧ object ≠ "" ∧ relation ≠ "" then some (nspace, object, relation)
          else none

/-- The subjects of the tuples on an object and relation. -/
def subjectsOf (tuples : List StoredTuple) (tenantId nspace object relation : String) :
    List String :=
  (tuples.filter fun t => t.tenantId = tenantId ∧ t.key.nspace = nspace ∧
    t.key.object = object ∧ t.key.relation = relation).map fun t => t.key.subjectId

theorem mem_subjectsOf {tuples : List StoredTuple} {t n o r s : String} :
    s ∈ subjectsOf tuples t n o r ↔ (⟨t, ⟨n, o, r, s⟩⟩ : StoredTuple) ∈ tuples := by
  constructor
  · intro hs
    obtain ⟨⟨t', ⟨n', o', r', s'⟩⟩, hx, rfl⟩ := List.mem_map.mp hs
    obtain ⟨hx', hp⟩ := List.mem_filter.mp hx
    obtain ⟨rfl, rfl, rfl, rfl⟩ : t' = t ∧ n' = n ∧ o' = o ∧ r' = r := by simpa using hp
    exact hx'
  · intro hx
    exact List.mem_map.mpr ⟨_, List.mem_filter.mpr ⟨hx, by simp⟩, rfl⟩

/-! ## Who holds a relation -/

/-- `subject` holds `relation` on `object` in the tenant's store: by a tuple of its own, or
through a subject set that has the relation. -/
inductive Holds (tuples : List StoredTuple) (tenantId : String) :
    String → String → String → String → Prop where
  | direct {n o r subject : String} :
      (⟨tenantId, ⟨n, o, r, subject⟩⟩ : StoredTuple) ∈ tuples → Holds tuples tenantId n o r subject
  | viaSet {n o r s n' o' r' subject : String} :
      (⟨tenantId, ⟨n, o, r, s⟩⟩ : StoredTuple) ∈ tuples → subjectSet s = some (n', o', r') →
      Holds tuples tenantId n' o' r' subject → Holds tuples tenantId n o r subject

/-- `Holds`, evaluated to at most `depth` tuples deep. -/
def checkWithin (tuples : List StoredTuple) (tenantId : String) :
    ℕ → String → String → String → String → Bool
  | 0, _, _, _, _ => false
  | depth + 1, n, o, r, subject =>
      (subjectsOf tuples tenantId n o r).any fun s =>
        s == subject ||
          match subjectSet s with
          | some (n', o', r') => checkWithin tuples tenantId depth n' o' r' subject
          | none => false

theorem checkWithin_succ {tuples : List StoredTuple} {t n o r subject : String} {depth : ℕ} :
    checkWithin tuples t (depth + 1) n o r subject = true ↔
      ∃ s, (⟨t, ⟨n, o, r, s⟩⟩ : StoredTuple) ∈ tuples ∧
        (s = subject ∨ ∃ n' o' r', subjectSet s = some (n', o', r') ∧
          checkWithin tuples t depth n' o' r' subject = true) := by
  simp only [checkWithin, List.any_eq_true, mem_subjectsOf, Bool.or_eq_true, beq_iff_eq]
  refine exists_congr fun s => and_congr_right fun _ => or_congr_right ?_
  cases hset : subjectSet s with
  | none => simp
  | some set =>
      obtain ⟨n', o', r'⟩ := set
      simp

/-- Evaluation is sound. -/
theorem holds_of_checkWithin {tuples : List StoredTuple} {t : String} {depth : ℕ}
    {n o r subject : String} (h : checkWithin tuples t depth n o r subject = true) :
    Holds tuples t n o r subject := by
  induction depth generalizing n o r with
  | zero => exact absurd h (by simp [checkWithin])
  | succ depth ih =>
      obtain ⟨s, hs, rfl | ⟨n', o', r', hset, hrec⟩⟩ := checkWithin_succ.mp h
      · exact .direct hs
      · exact .viaSet hs hset (ih hrec)

/-- Evaluation is complete: to some depth it finds whatever holds. -/
theorem exists_checkWithin_of_holds {tuples : List StoredTuple} {t n o r subject : String}
    (h : Holds tuples t n o r subject) :
    ∃ depth, checkWithin tuples t depth n o r subject = true := by
  induction h with
  | direct hs => exact ⟨1, checkWithin_succ.mpr ⟨_, hs, .inl rfl⟩⟩
  | viaSet hs hset _ ih =>
      obtain ⟨depth, hdepth⟩ := ih
      exact ⟨depth + 1, checkWithin_succ.mpr ⟨_, hs, .inr ⟨_, _, _, hset, hdepth⟩⟩⟩

/-! ## Writing tuples -/

/-- The store after an idempotent batch: the `writes` are present and the `deletes` absent. -/
def applyTuples (tuples : List StoredTuple) (tenantId : String)
    (writes deletes : List RelationTupleKey) : List StoredTuple :=
  writes.map (fun k => ⟨tenantId, k⟩) ++
    tuples.filter fun t => ¬ (t.tenantId = tenantId ∧ (t.key ∈ writes ∨ t.key ∈ deletes))

theorem mem_applyTuples {tuples : List StoredTuple} {tenantId : String}
    {writes deletes : List RelationTupleKey} {x : StoredTuple} :
    x ∈ applyTuples tuples tenantId writes deletes ↔
      (x.tenantId = tenantId ∧ x.key ∈ writes) ∨
        (x ∈ tuples ∧ ¬ (x.tenantId = tenantId ∧ x.key ∈ deletes)) := by
  obtain ⟨t, k⟩ := x
  by_cases ht : t = tenantId
  · subst ht
    by_cases hw : k ∈ writes
    · simp [applyTuples, hw]
    · simp [applyTuples, hw]
  · simp [applyTuples, ht, Ne.symm ht]

/-! ## The calls of the backend -/

/-- Source: `services/permission.rs` `PermissionBackend` (the calls the entitlement service
makes). -/
inductive PermissionOp where
  | ensureModel (tenantId nspace : String)
  | ensureTuples (tenantId : String) (writes deletes : List RelationTupleKey)
  | checkPermission (tenantId nspace object relation subjectId : String)
  | readTuples (tenantId nspace object : String)
  | listUsers (tenantId nspace object relation : String)

/-- The answers of the backend. -/
@[reducible] def PermissionOp.Res : PermissionOp → Type
  | .ensureModel _ _ => Except PermissionBackendError Unit
  | .ensureTuples _ _ _ => Except PermissionBackendError Unit
  | .checkPermission _ _ _ _ _ => Except PermissionBackendError Bool
  | .readTuples _ _ _ => Except PermissionBackendError (List RelationTupleKey)
  | .listUsers _ _ _ _ => Except PermissionBackendError (List String)

/-- The signature of the backend. -/
@[reducible] def PermissionSig : Sig := ⟨PermissionOp, PermissionOp.Res⟩

/-- A backend request under a possible fault. -/
def answer {α W : Type} (w : W) (fault : Option Fault) (r : Except PermissionBackendError α × W) :
    Except PermissionBackendError α × W :=
  Fault.answer PermissionBackendError.ofOryClientError w r fault

/-- What the calls do. Publishing a model leaves the tuples alone; `depth` bounds how deep a check
follows subject sets. -/
def permissionHandler (depth : ℕ) : Handler PermissionSig (Option Fault) (List StoredTuple)
  | .ensureModel _ _, fault, ts => answer ts fault (.ok (), ts)
  | .ensureTuples t writes deletes, fault, ts =>
      answer ts fault (.ok (), applyTuples ts t writes deletes)
  | .checkPermission t n o r s, fault, ts =>
      answer ts fault (.ok (checkWithin ts t depth n o r s), ts)
  | .readTuples t n o, fault, ts =>
      answer ts fault
        (.ok ((ts.filter fun x => x.tenantId = t ∧ x.key.nspace = n ∧ x.key.object = o).map
          fun x => x.key), ts)
  | .listUsers t n o r, fault, ts =>
      answer ts fault
        (.ok ((((ts.filter fun x => x.tenantId = t).map fun x => x.key.subjectId).filter
          fun s => subjectSet s = none ∧ checkWithin ts t depth n o r s = true).dedup), ts)

end SsoGateway
