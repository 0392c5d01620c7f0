import SsoGateway.Gateway
import Mathlib.Data.List.Dedup

/-!
# What one call can do

Every property of the gateway rests on what its calls do to the world, faults included. It is said
here once:

* `Step`, `gateway_step` — the possible worlds after a call.
* `gateway_getPublicId`, `gateway_check`, … — what a reading call answers: what the world says, or
  an error.
* `Db` lemmas — what an accepted statement leaves in the tables.
-/

namespace SsoGateway

open Lib

/-! ## Statements -/

namespace Db

variable {db db' : Db}

/-- A writing statement leaves the database as it was or as the accepted statement makes it. -/
theorem write_snd {α : Type} (c : Choice) (r : Except DbError Db) (a : α) :
    (db.write c r a).2 = db ∨ ∃ db', r = .ok db' ∧ (db.write c r a).2 = db' := by
  cases r with
  | error e => exact .inl ((Fault.answer_snd (c.fault 0)).elim id id)
  | ok db' => exact (Fault.answer_snd (c.fault 0)).imp_right fun h => ⟨db', rfl, h⟩

theorem write_ok {α : Type} {c : Choice} {r : Except DbError Db} {a x : α}
    (h : (db.write c r a).1 = .ok x) : x = a ∧ ∃ db', r = .ok db' ∧ (db.write c r a).2 = db' := by
  unfold write at h ⊢
  obtain ⟨hf, hr⟩ := Fault.answer_ok h
  rw [hf]
  cases r with
  | ok db' =>
      cases hr
      exact ⟨rfl, db', rfl, rfl⟩
  | error e => cases hr

theorem write_faultFree {α : Type} {c : Choice} (hc : c.FaultFree) (r : Except DbError Db) (a : α) :
    db.write c r a = match r with
      | .ok db' => (.ok a, db')
      | .error e => (.error e, db) := by
  unfold write
  rw [hc 0]
  rfl

/-- A row of `applications` is determined by its public id. -/
theorem application_unique {a a' : ApplicationRow} (ha : a ∈ db.applications)
    (ha' : a' ∈ db.applications) (hp : a.publicId = a'.publicId) : a = a' := by
  have hsymm : Std.Symm fun a a' : ApplicationRow => a.publicId ≠ a'.publicId :=
    ⟨fun _ _ h => Ne.symm h⟩
  by_contra hne
  exact db.applicationKey.forall ha ha' hne hp

/-- Two rows of `id_mappings` that conflict are the same. -/
theorem mapping_unique {m m' : IdMappingRow} (hm : m ∈ db.idMappings) (hm' : m' ∈ db.idMappings)
    (h : m.Conflicts m') : m = m' := by
  have hsymm : Std.Symm fun m m' : IdMappingRow => ¬ m.Conflicts m' :=
    ⟨fun _ _ h h' => h h'.symm⟩
  by_contra hne
  exact db.mappingKeys.forall hm hm' hne h

/-- What `INSERT INTO id_mappings` does when it is accepted. -/
theorem insertMapping_ok {m : IdMappingRow} (h : db.insertMapping m = .ok db') :
    db'.idMappings = m :: db.idMappings ∧ db'.applications = db.applications ∧
      db'.agents = db.agents ∧ db'.tenants = db.tenants ∧
      (∀ m' ∈ db.idMappings, ¬ m.Conflicts m') ∧ db.HasTenant m.tenantId := by
  unfold insertMapping at h
  split at h
  · rename_i hkeys
    split at h
    · rename_i htenant
      cases h
      exact ⟨rfl, rfl, rfl, rfl, (List.pairwise_cons.mp hkeys).1, htenant⟩
    · cases h
  · cases h

/-- When it is accepted. -/
theorem exists_insertMapping {m : IdMappingRow} (hkeys : ∀ m' ∈ db.idMappings, ¬ m.Conflicts m')
    (htenant : db.HasTenant m.tenantId) : ∃ db', db.insertMapping m = .ok db' := by
  unfold insertMapping
  rw [dif_pos (List.pairwise_cons.mpr ⟨hkeys, db.mappingKeys⟩), dif_pos htenant]
  exact ⟨_, rfl⟩

/-- What `DELETE FROM id_mappings` does when a row matches. -/
theorem deleteMapping_ok {t p : String} {b : Backend} (h : db.deleteMapping t b p = .ok db') :
    (∃ m ∈ db.idMappings, m.tenantId = t ∧ m.backend = b ∧ m.publicId = p) ∧
      db'.idMappings = db.idMappings.filter (fun m => m.publicId ≠ p) ∧
      db'.applications = db.applications.filter (fun a => a.publicId ≠ p) ∧
      db'.agents = db.agents ∧ db'.tenants = db.tenants := by
  unfold deleteMapping at h
  split at h
  · rename_i hrow
    cases h
    exact ⟨hrow, rfl, rfl, rfl, rfl⟩
  · cases h

/-- What the re-homing `UPDATE` does when it is accepted. -/
theorem updateTenant_ok {b : Backend} {p t : String} (h : db.updateTenant b p t = .ok db') :
    (∃ m ∈ db.idMappings, m.backend = b ∧ m.publicId = p) ∧
      db'.idMappings = db.idMappings.map (rehome b p t) ∧ db'.applications = db.applications ∧
      db'.agents = db.agents ∧ db'.tenants = db.tenants ∧ db.HasTenant t := by
  unfold updateTenant at h
  split at h
  · rename_i hrow
    split at h
    · split at h
      · rename_i htenant
        cases h
        exact ⟨hrow, rfl, rfl, rfl, rfl, htenant⟩
      · cases h
    · cases h
  · cases h

/-- When it is accepted: the tenant has no mapping of that backend id yet. -/
theorem exists_updateTenant {b : Backend} {p t : String}
    (hrow : ∃ m ∈ db.idMappings, m.backend = b ∧ m.publicId = p)
    (hfree : ∀ m ∈ db.idMappings, m.backend = b → m.publicId = p → ∀ m' ∈ db.idMappings,
      ¬ (m'.tenantId = t ∧ m'.backend = b ∧ m'.oryGlobalId = m.oryGlobalId))
    (htenant : db.HasTenant t) : ∃ db', db.updateTenant b p t = .ok db' := by
  have hkeys : (db.idMappings.map (rehome b p t)).Pairwise fun m m' => ¬ m.Conflicts m' := by
    rw [List.pairwise_map]
    refine db.mappingKeys.imp_of_mem fun {m m'} hm hm' hne => ?_
    have hpublic : m.publicId ≠ m'.publicId := fun h => hne (.inl h)
    rintro (hconflict | ⟨ht, hb, ho⟩)
    · rw [rehome_publicId, rehome_publicId] at hconflict
      exact hpublic hconflict
    · unfold rehome at ht hb ho
      split at ht
      · rename_i hmatch
        rw [if_pos hmatch] at hb ho
        split at ht
        · rename_i hmatch'
          exact hpublic (hmatch.2.trans hmatch'.2.symm)
        · rename_i hmatch'
          rw [if_neg hmatch'] at hb ho
          exact hfree m hm hmatch.1 hmatch.2 m' hm' ⟨ht.symm, hb.symm.trans hmatch.1, ho.symm⟩
      · rename_i hmatch
        rw [if_neg hmatch] at hb ho
        split at ht
        · rename_i hmatch'
          rw [if_pos hmatch'] at hb ho
          exact hfree m' hm' hmatch'.1 hmatch'.2 m hm ⟨ht, hb.trans hmatch'.1, ho⟩
        · rename_i hmatch'
          rw [if_neg hmatch'] at hb ho
          exact hne (.inr ⟨ht, hb, ho⟩)
  unfold updateTenant
  rw [if_pos hrow, dif_pos hkeys, dif_pos htenant]
  exact ⟨_, rfl⟩

/-- What `INSERT INTO applications` does when it is accepted. -/
theorem insertApplication_ok {a : ApplicationRow} (h : db.insertApplication a = .ok db') :
    db'.applications = a :: db.applications ∧ db'.idMappings = db.idMappings ∧
      db'.agents = db.agents ∧ db'.tenants = db.tenants ∧
      ∀ a' ∈ db.applications, a.publicId ≠ a'.publicId := by
  unfold insertApplication at h
  split at h
  · rename_i hkey
    split at h
    · cases h
      exact ⟨rfl, rfl, rfl, rfl, (List.pairwise_cons.mp hkey).1⟩
    · cases h
  · cases h

/-- When it is accepted. -/
theorem exists_insertApplication {a : ApplicationRow}
    (hkey : ∀ a' ∈ db.applications, a.publicId ≠ a'.publicId)
    (hmap : ∃ m ∈ db.idMappings, m.publicId = a.publicId) (htenant : db.HasTenant a.tenantId) :
    ∃ db', db.insertApplication a = .ok db' := by
  unfold insertApplication
  rw [dif_pos (List.pairwise_cons.mpr ⟨hkey, db.applicationKey⟩), dif_pos ⟨hmap, htenant⟩]
  exact ⟨_, rfl⟩

theorem deleteApplication_ok {t p : String} (h : db.deleteApplication t p = .ok db') :
    db'.applications = db.applications.filter (fun a => a.publicId ≠ p) ∧
      db'.idMappings = db.idMappings ∧ db'.agents = db.agents ∧ db'.tenants = db.tenants := by
  unfold deleteApplication at h
  split at h
  · cases h
    exact ⟨rfl, rfl, rfl, rfl⟩
  · cases h

theorem insertAgent_ok {a : AgentRow} (h : db.insertAgent a = .ok db') :
    db'.agents = a :: db.agents ∧ db'.idMappings = db.idMappings ∧
      db'.applications = db.applications ∧ db'.tenants = db.tenants := by
  unfold insertAgent at h
  split at h
  · split at h
    · cases h
      exact ⟨rfl, rfl, rfl, rfl⟩
    · cases h
  · cases h

theorem deleteAgent_ok {t i : String} (h : db.deleteAgent t i = .ok db') :
    db'.agents = db.agents.filter (fun a => a.id ≠ i) ∧ db'.idMappings = db.idMappings ∧
      db'.applications = db.applications ∧ db'.tenants = db.tenants := by
  unfold deleteAgent at h
  split at h
  · cases h
    exact ⟨rfl, rfl, rfl, rfl⟩
  · cases h

end Db

/-! ## Writes of the entitlement service -/

/-- The batches an entitlement call may apply to the tuples: in tenant `t`, with these writes and
deletes. -/
def EntitlementOp.Writes (t : String) (writes deletes : List RelationTupleKey) :
    EntitlementOp → Prop
  | .grant t' i a level =>
      t = t' ∧ writes = [entitlementKey a level.relation i] ∧ deletes = []
  | .seedApplication t' a groups =>
      t = t' ∧ writes = EntitlementServiceImpl.groupLinks a groups ∧ deletes = []
  | .removeApplication t' a => t = t' ∧ writes = [] ∧ ∀ k ∈ deletes, k.object = a
  | .setGroupMembership t' g i member =>
      t = t' ∧ writes = (if member then [entitlementKey g memberRel i] else []) ∧
        deletes = (if member then [] else [entitlementKey g memberRel i])
  | _ => False

namespace EntitlementServiceImpl

/-- The calls of the permission backend, under an assumption on their faults. -/
def backend (A : Option Fault → Prop) :
    Contract PermissionSig (Option Fault) (List StoredTuple) :=
  Contract.alone (fun _ c _ => A c) fun _ _ _ => True

section methods

variable {depth : ℕ} {A : Option Fault → Prop} {ts : List StoredTuple}

/-- A backend call, run alone. -/
theorem sat_backend {op : PermissionOp} {Q : op.Res → List StoredTuple → Prop} :
    (Prog.perform (S := PermissionSig) op).Sat (permissionHandler depth) (backend A) Q ts ↔
      ∀ c, A c → Q (permissionHandler depth op c ts).1 (permissionHandler depth op c ts).2 := by
  rw [Prog.sat_perform]
  constructor
  · intro h c hc
    exact (h ts rfl c hc).2
  · rintro h ts rfl c hc
    exact ⟨trivial, h c hc⟩

/-- Some fault is possible. -/
def Faulty (A : Option Fault → Prop) : Prop := ∃ f, A (some f)

theorem sat_ensureNamespace {t : String} {Q : Except ServiceError Unit → List StoredTuple → Prop}
    (hok : Q (.ok ()) ts) (herr : Faulty A → ∀ e, Q (.error e) ts) :
    (ensureNamespace t).run.Sat (permissionHandler depth) (backend A) Q ts := by
  rw [ensureNamespace, Prog.sat_run_orThrow]
  refine sat_backend.mpr ?_
  rintro (_ | f) hc
  · exact hok
  · simpa [permissionHandler, answer, Fault.answer, Except.mapError] using herr ⟨f, hc⟩ _

/-- A batch is applied when the call succeeds, and may be when it fails. -/
theorem sat_ensureTuples {t : String} {writes deletes : List RelationTupleKey}
    {Q : Except ServiceError Unit → List StoredTuple → Prop}
    (hok : Q (.ok ()) (applyTuples ts t writes deletes))
    (herr : Faulty A → ∀ e, Q (.error e) ts ∧ Q (.error e) (applyTuples ts t writes deletes)) :
    (ensureTuples t writes deletes).run.Sat (permissionHandler depth) (backend A) Q ts := by
  rw [ensureTuples, Prog.sat_run_orThrow]
  refine sat_backend.mpr ?_
  rintro (_ | f) hc
  · exact hok
  · by_cases hf : f.applied
    · simpa [permissionHandler, answer, Fault.answer, Except.mapError, hf] using (herr ⟨f, hc⟩ _).2
    · simpa [permissionHandler, answer, Fault.answer, Except.mapError, hf] using (herr ⟨f, hc⟩ _).1

theorem sat_check {t i a r : String} {Q : Except ServiceError Bool → List StoredTuple → Prop}
    (hok : Q (.ok (checkWithin ts t depth entitlementNamespace a r i)) ts)
    (herr : Faulty A → ∀ e, Q (.error e) ts) :
    (EntitlementServiceImpl.check t i a r).run.Sat (permissionHandler depth) (backend A) Q ts := by
  rw [EntitlementServiceImpl.check, Prog.sat_run_orThrow]
  refine sat_backend.mpr ?_
  rintro (_ | f) hc
  · exact hok
  · simpa [permissionHandler, answer, Fault.answer, Except.mapError] using herr ⟨f, hc⟩ _

/-- A check whose failure counts as a refusal says yes only to who holds the relation. -/
theorem sat_checkOrFalse {t i a r : String} {Q : Bool → List StoredTuple → Prop}
    (hQ : ∀ b, (b = true → Holds ts t entitlementNamespace a r i) → Q b ts) :
    (checkOrFalse t i a r).Sat (permissionHandler depth) (backend A) Q ts := by
  rw [checkOrFalse, Prog.sat_bind]
  exact sat_check (hQ _ holds_of_checkWithin) fun _ _ => hQ false (by simp)

theorem sat_hasAnyTuples {t a : String} {Q : Except ServiceError Bool → List StoredTuple → Prop}
    (hok : ∀ b, (b = true ↔ ∃ x ∈ ts, x.tenantId = t ∧ x.key.nspace = entitlementNamespace ∧
      x.key.object = a) → Q (.ok b) ts)
    (herr : Faulty A → ∀ e, Q (.error e) ts) :
    (hasAnyTuples t a).run.Sat (permissionHandler depth) (backend A) Q ts := by
  rw [hasAnyTuples, Prog.sat_run_bind, Prog.sat_run_orThrow]
  refine sat_backend.mpr ?_
  rintro (_ | f) hc
  · refine hok _ ?_
    simp
  · simpa [permissionHandler, answer, Fault.answer, Except.mapError] using herr ⟨f, hc⟩ _

/-- The scopes the entitlement store justifies for an identity. -/
def InCeiling (ts : List StoredTuple) (t i s : String) : Prop :=
  s ∈ oidcScopeCeiling ∨
    (Holds ts t entitlementNamespace gatewayAppObject adminRel i ∧ s ∈ adminScopeCeiling) ∨
    (Holds ts t entitlementNamespace gatewayAppObject memberRel i ∧ s ∈ readScopeCeiling)

theorem sat_effectiveScopeCeiling {t i : String} {Q : List String → List StoredTuple → Prop}
    (hQ : ∀ ceiling, (∀ s ∈ ceiling, InCeiling ts t i s) → Q ceiling ts) :
    (effectiveScopeCeiling t i).Sat (permissionHandler depth) (backend A) Q ts := by
  rw [effectiveScopeCeiling, Prog.sat_bind]
  refine sat_checkOrFalse fun isAdmin hadmin => ?_
  rw [Prog.sat_ite]
  split
  · rename_i h
    refine hQ _ fun s hs => ?_
    rcases List.mem_append.mp hs with hs | hs
    · exact .inr (.inl ⟨hadmin h, hs⟩)
    · exact .inl hs
  · rw [Prog.sat_bind]
    refine sat_checkOrFalse fun isMember hmember => ?_
    rw [Prog.sat_ite]
    split
    · rename_i h
      refine hQ _ fun s hs => ?_
      rcases List.mem_append.mp hs with hs | hs
      · exact .inr (.inr ⟨hmember h, hs⟩)
      · exact .inl hs
    · exact hQ _ fun s hs => .inl hs

/-- A minted claim lists relations that the store grants. -/
theorem sat_mintClaim {t i a : String} {Q : Value → List StoredTuple → Prop}
    (hQ : ∀ isMember isAdmin,
      (isMember = true → Holds ts t entitlementNamespace a memberRel i) →
      (isAdmin = true → Holds ts t entitlementNamespace a adminRel i) →
      Q (claimOf a isMember isAdmin) ts) :
    (mintClaim t i a).Sat (permissionHandler depth) (backend A) Q ts := by
  rw [mintClaim, Prog.sat_bind]
  refine sat_checkOrFalse fun isMember hmember => ?_
  rw [Prog.sat_bind]
  exact sat_checkOrFalse fun isAdmin hadmin => hQ isMember isAdmin hmember hadmin

/-- The tuples after a method that applies one batch. -/
def AppliesBatch (op : EntitlementOp) (ts ts' : List StoredTuple) : Prop :=
  ts' = ts ∨ ∃ t writes deletes, op.Writes t writes deletes ∧
    ts' = applyTuples ts t writes deletes

/-- Publishing the model and then applying a batch. -/
theorem sat_ensureNamespace_batch {op : EntitlementOp} {t t' : String}
    {writes deletes : List RelationTupleKey} (hop : op.Writes t' writes deletes) :
    (do ensureNamespace t; ensureTuples t' writes deletes).run.Sat (permissionHandler depth)
      (backend A) (fun _ ts' => AppliesBatch op ts ts') ts := by
  rw [Prog.sat_run_bind]
  have happly : AppliesBatch op ts (applyTuples ts t' writes deletes) :=
    .inr ⟨t', writes, deletes, hop, rfl⟩
  exact sat_ensureNamespace (sat_ensureTuples happly fun _ _ => ⟨.inl rfl, happly⟩)
    fun _ _ => .inl rfl

theorem sat_listUsers {t a r : String} {Q : Except ServiceError (List String) →
    List StoredTuple → Prop} (hQ : ∀ x, Q x ts) :
    (listUsers t a r).run.Sat (permissionHandler depth) (backend A) Q ts := by
  rw [listUsers, Prog.sat_run_orThrow]
  refine sat_backend.mpr ?_
  rintro (_ | f) _
  · exact hQ _
  · simpa [permissionHandler, answer, Fault.answer] using hQ _

theorem sat_removeApplication {t a : String} :
    (removeApplication t a).run.Sat (permissionHandler depth) (backend A)
      (fun _ ts' => AppliesBatch (.removeApplication t a) ts ts') ts := by
  rw [removeApplication, Prog.sat_run_bind]
  refine sat_listUsers fun users => ?_
  rcases users with e | users
  · exact .inl rfl
  · show Prog.Sat _ _ _ (ExceptT.run (_ >>= _)) _
    rw [Prog.sat_run_bind]
    refine sat_listUsers fun admins => ?_
    rcases admins with e | admins
    · exact .inl rfl
    · -- every delete names the application
      have hdeletes : ∀ k ∈ (((users ++ admins).flatMap fun subject =>
          [entitlementKey a memberRel subject, entitlementKey a adminRel subject]).mergeSort
          keyLe).dedup, k.object = a := by
        intro k hk
        obtain ⟨subject, -, hk⟩ := List.mem_flatMap.mp
          (List.mem_mergeSort.mp (List.mem_dedup.mp hk))
        rcases List.mem_cons.mp hk with rfl | hk
        · rfl
        · rw [List.mem_singleton.mp hk]
          rfl
      have happly : AppliesBatch (.removeApplication t a) ts (applyTuples ts t [] _) :=
        .inr ⟨t, [], _, ⟨rfl, rfl, hdeletes⟩, rfl⟩
      exact sat_ensureTuples happly fun _ _ => ⟨.inl rfl, happly⟩

end methods

end EntitlementServiceImpl

section handler

open EntitlementServiceImpl

variable (env : Env) (c : Choice) (ts : List StoredTuple)

/-- A specification of a method, read on the call. -/
theorem entitlementHandler_of_sat (op : EntitlementOp) {A : Option Fault → Prop}
    {Q : op.Res → List StoredTuple → Prop} (hc : ∀ n, A (c.fault n))
    (h : op.method.Sat (permissionHandler env.checkDepth) (backend A) Q ts) :
    Q (entitlementHandler env op c ts).1 (entitlementHandler env op c ts).2 :=
  h.run_of_choices fun _ n _ => hc n

/-- An entitlement call leaves the tuples alone or applies one of its batches. -/
theorem entitlementHandler_step (op : EntitlementOp) :
    AppliesBatch op ts (entitlementHandler env op c ts).2 := by
  refine entitlementHandler_of_sat env c ts op (A := fun _ => True)
    (Q := fun _ ts' => AppliesBatch op ts ts') (fun _ => trivial) ?_
  cases op with
  | check t i a r => exact sat_check (.inl rfl) fun _ _ => .inl rfl
  | hasAnyTuples t a => exact sat_hasAnyTuples (fun _ _ => .inl rfl) fun _ _ => .inl rfl
  | effectiveScopeCeiling t i => exact sat_effectiveScopeCeiling fun _ _ => .inl rfl
  | grant t i a level => exact sat_ensureNamespace_batch ⟨rfl, rfl, rfl⟩
  | seedApplication t a groups =>
      rw [EntitlementOp.method, seedApplication, Prog.sat_run_bind]
      refine sat_ensureNamespace ?_ fun _ _ => .inl rfl
      have happly : AppliesBatch (.seedApplication t a groups) ts
          (applyTuples ts t (groupLinks a groups) []) := .inr ⟨t, _, [], ⟨rfl, rfl, rfl⟩, rfl⟩
      by_cases hlinks : groupLinks a groups ≠ []
      · simp only [hlinks, if_true, ne_eq, not_false_eq_true]
        exact sat_ensureTuples happly fun _ _ => ⟨.inl rfl, happly⟩
      · simp only [hlinks, if_false]
        exact .inl rfl
  | removeApplication t a => exact sat_removeApplication
  | setGroupMembership t g i member =>
      cases member with
      | true => exact sat_ensureNamespace_batch ⟨rfl, rfl, rfl⟩
      | false => exact sat_ensureNamespace_batch ⟨rfl, rfl, rfl⟩
  | mintClaim t i a => exact sat_mintClaim fun _ _ _ _ => .inl rfl

end handler

/-! ## The possible worlds after a call -/

/-- What a call can have done to the world. -/
inductive Step (op : GatewayOp) (c : Choice) (w : World) : World → Prop where
  | same : Step op c w w
  | insertMapping {t : String} {b : Backend} {p o : String} {db' : Db}
      (hop : op = .mapping (.create t b p o))
      (h : w.db.insertMapping ⟨t, b, p, o, c.now⟩ = .ok db') : Step op c w { w with db := db' }
  | deleteMapping {t : String} {b : Backend} {p : String} {db' : Db}
      (hop : op = .mapping (.delete t b p))
      (h : w.db.deleteMapping t b p = .ok db') : Step op c w { w with db := db' }
  | updateTenant {b : Backend} {p t : String} {db' : Db}
      (hop : op = .mapping (.updateTenant b p t))
      (h : w.db.updateTenant b p t = .ok db') : Step op c w { w with db := db' }
  | insertApplication {t p : String} {x : Bool} {source : RegistrationSource} {db' : Db}
      (hop : op = .application (.create t p x source))
      (h : w.db.insertApplication ⟨t, p, x, source⟩ = .ok db') : Step op c w { w with db := db' }
  | deleteApplication {t p : String} {db' : Db} (hop : op = .application (.delete t p))
      (h : w.db.deleteApplication t p = .ok db') : Step op c w { w with db := db' }
  | insertAgent {t : String} {owner : Option String} {name : String} {db' : Db}
      (hop : op = .agent (.create t owner name))
      (h : w.db.insertAgent ⟨c.ulid, t, owner, name, "active"⟩ = .ok db') :
      Step op c w { w with db := db' }
  | deleteAgent {t i : String} {db' : Db} (hop : op = .agent (.delete t i))
      (h : w.db.deleteAgent t i = .ok db') : Step op c w { w with db := db' }
  | directory {o : DirectoryOp} {d : Directory} (hop : op = .directory o) :
      Step op c w { w with directory := d }
  | tuples {o : EntitlementOp} {t : String} {writes deletes : List RelationTupleKey}
      (hop : op = .entitlement o) (h : o.Writes t writes deletes) :
      Step op c w { w with tuples := applyTuples w.tuples t writes deletes }
  | hydra {o : HydraOp} (hop : op = .hydra o) :
      Step op c w { w with hydra := (hydraHandler o c w.hydra).2 }
  | kratos {o : KratosOp} (hop : op = .kratos o) :
      Step op c w { w with kratos := (kratosHandler o c w.kratos).2 }

/-- A reading statement leaves the database alone. -/
theorem Db.read_snd {α : Type} (db : Db) (c : Choice) (r : Except DbError α) :
    (db.read c r).2 = db :=
  (Fault.answer_snd (c.fault 0)).elim id id

section step

variable (env : Env) (c : Choice) (w : World)

theorem step_mapping (op : MappingOp) :
    Step (.mapping op) c w { w with db := (mappingHandler env op c w.db).2 } := by
  have hread : ∀ {α : Type} (r : Except DbError α),
      Step (.mapping op) c w { w with db := (w.db.read c r).2 } := fun r => by
    rw [Db.read_snd]
    exact .same
  cases op with
  | create t b p o =>
      simp only [mappingHandler]
      rcases Db.write_snd c (w.db.insertMapping ⟨t, b, p, o, c.now⟩) _ with h | ⟨db', hdb, h⟩
      · rw [h]
        exact .same
      · rw [h]
        exact .insertMapping rfl hdb
  | delete t b p =>
      simp only [mappingHandler]
      rcases Db.write_snd c (w.db.deleteMapping t b p) () with h | ⟨db', hdb, h⟩
      · rw [h]
        exact .same
      · rw [h]
        exact .deleteMapping rfl hdb
  | updateTenant b p t =>
      simp only [mappingHandler]
      rcases Db.write_snd c (w.db.updateTenant b p t) () with h | ⟨db', hdb, h⟩
      · rw [h]
        exact .same
      · rw [h]
        exact .updateTenant rfl hdb
  | getOryId t b p => exact hread _
  | getOryIdByPublicId b p => exact hread _
  | getPublicId t b o => exact hread _
  | getPublicIdByOryId b o => exact hread _
  | listPublicIds t b => exact hread _
  | listMappings t b => exact hread _
  | getTenantIdByOryId b o => exact hread _

theorem step_application (op : ApplicationOp) :
    Step (.application op) c w { w with db := (applicationHandler op c w.db).2 } := by
  have hread : ∀ {α : Type} (r : Except DbError α),
      Step (.application op) c w { w with db := (w.db.read c r).2 } := fun r => by
    rw [Db.read_snd]
    exact .same
  cases op with
  | create t p x source =>
      simp only [applicationHandler]
      rcases Db.write_snd c (w.db.insertApplication ⟨t, p, x, source⟩) _ with h | ⟨db', hdb, h⟩
      · rw [h]
        exact .same
      · rw [h]
        exact .insertApplication rfl hdb
  | delete t p =>
      simp only [applicationHandler]
      rcases Db.write_snd c (w.db.deleteApplication t p) () with h | ⟨db', hdb, h⟩
      · rw [h]
        exact .same
      · rw [h]
        exact .deleteApplication rfl hdb
  | get t p => exact hread _
  | getByPublicId p => exact hread _

theorem step_agent (op : AgentOp) :
    Step (.agent op) c w { w with db := (agentHandler op c w.db).2 } := by
  cases op with
  | create t owner name =>
      simp only [agentHandler]
      rcases Db.write_snd c (w.db.insertAgent ⟨c.ulid, t, owner, name, "active"⟩) _ with
        h | ⟨db', hdb, h⟩
      · rw [h]
        exact .same
      · rw [h]
        exact .insertAgent rfl hdb
  | delete t i =>
      simp only [agentHandler]
      rcases Db.write_snd c (w.db.deleteAgent t i) () with h | ⟨db', hdb, h⟩
      · rw [h]
        exact .same
      · rw [h]
        exact .deleteAgent rfl hdb
  | getStatus i =>
      simp only [agentHandler]
      rw [Db.read_snd]
      exact .same

/-- **What one call can do**, whatever fails. -/
theorem gateway_step (op : GatewayOp) : Step op c w (gateway env op c w).2 := by
  cases op with
  | mapping op => exact step_mapping env c w op
  | application op => exact step_application c w op
  | agent op => exact step_agent c w op
  | listTenants =>
      have h : (gateway env .listTenants c w).2 = w := (Fault.answer_snd (c.fault 0)).elim id id
      rw [h]
      exact .same
  | directory op => exact .directory rfl
  | getOryToken t b ty p =>
      have h : (gateway env (.getOryToken t b ty p) c w).2 = w :=
        (Fault.answer_snd (c.fault 0)).elim id id
      rw [h]
      exact .same
  | getOryTokenGlobal b ty p =>
      have h : (gateway env (.getOryTokenGlobal b ty p) c w).2 = w :=
        (Fault.answer_snd (c.fault 0)).elim id id
      rw [h]
      exact .same
  | entitlement op =>
      rcases entitlementHandler_step env c w.tuples op with h | ⟨t, writes, deletes, hop, h⟩
      · simp only [gateway, h]
        exact .same
      · simp only [gateway, h]
        exact .tuples rfl hop
  | hydra op => exact .hydra rfl
  | kratos op => exact .kratos rfl
  | newUlid => exact .same
  | nowUtc => exact .same

end step

/-! ## Clients at Hydra -/

/-- The possible clients after a call to Hydra. -/
inductive ClientStep (op : HydraOp) (c : Choice) (clients : List (String × Value)) :
    List (String × Value) → Prop
  | same : ClientStep op c clients clients
  | create {payload : Value} (hop : op = .createOauth2Client payload)
      (hnew : clients.lookup (newClientId payload c) = none) :
      ClientStep op c clients ((newClientId payload c, newClient payload c) :: clients)
  | update {id : String} {payload : Value} (hop : op = .updateOauth2Client id payload) :
      ClientStep op c clients
        ((id, payload.insert "client_id" (.str id)) :: clients.filter fun kv => kv.1 ≠ id)
  | delete {id : String} (hop : op = .deleteOauth2Client id) :
      ClientStep op c clients (clients.filter fun kv => kv.1 ≠ id)

/-- A request under a possible fault: what holds of its effect and of none holds of the outcome. -/
theorem oryAnswer_snd {α W : Type} {P : W → Prop} {w : W} {c : Choice}
    {r : Except OryClientError α × W} (hnone : P w) (heffect : P r.2) : P (oryAnswer w c r).2 := by
  have hcases : (oryAnswer w c r).2 = w ∨ (oryAnswer w c r).2 = r.2 := Fault.answer_snd (c.fault 0)
  rcases hcases with h | h
  · rw [h]
    exact hnone
  · rw [h]
    exact heffect

/-- **What a call to Hydra can do to its clients**, whatever fails. -/
theorem hydra_clients_step (op : HydraOp) (c : Choice) (hy : Hydra) :
    ClientStep op c hy.clients (hydraHandler op c hy).2.clients := by
  cases op with
  | createOauth2Client payload =>
      refine oryAnswer_snd (P := fun hy' : Hydra => ClientStep _ c hy.clients hy'.clients) .same ?_
      split
      · exact .same
      · rename_i hnew
        exact .create rfl hnew
  | updateOauth2Client id payload =>
      refine oryAnswer_snd (P := fun hy' : Hydra => ClientStep _ c hy.clients hy'.clients) .same ?_
      split
      · exact .same
      · exact .update rfl
  | deleteOauth2Client id =>
      refine oryAnswer_snd (P := fun hy' : Hydra => ClientStep _ c hy.clients hy'.clients) .same ?_
      split
      · exact .same
      · exact .delete rfl
  | _ =>
      exact oryAnswer_snd (P := fun hy' : Hydra => ClientStep _ c hy.clients hy'.clients) .same .same

/-- The other keys of a list of objects without one of them. -/
theorem lookup_filter_of_ne {α : Type} {id id' : String} (hne : id' ≠ id) (objects : List (String × α)) :
    (objects.filter fun kv => kv.1 ≠ id).lookup id' = objects.lookup id' := by
  induction objects with
  | nil => rfl
  | cons kv objects ih =>
      obtain ⟨k, v⟩ := kv
      by_cases hk : k = id
      · subst hk
        simp only [ne_eq, not_true_eq_false, decide_false, List.filter_cons, Bool.false_eq_true,
          if_false, List.lookup_cons, beq_false_of_ne hne] at ih ⊢
        exact ih
      · by_cases hk' : k = id'
        · subst hk'
          simp [hk]
        · simp only [ne_eq, hk, not_false_eq_true, decide_true, List.filter_cons, if_true,
            List.lookup_cons, beq_false_of_ne (Ne.symm hk')] at ih ⊢
          exact ih

theorem lookup_filter_self {α : Type} (id : String) (objects : List (String × α)) :
    (objects.filter fun kv => kv.1 ≠ id).lookup id = none := by
  induction objects with
  | nil => rfl
  | cons kv objects ih =>
      obtain ⟨k, v⟩ := kv
      by_cases hk : k = id
      · subst hk
        simpa using ih
      · simp only [ne_eq, hk, not_false_eq_true, decide_true, List.filter_cons, if_true,
          List.lookup_cons, beq_false_of_ne (Ne.symm hk)] at ih ⊢
        exact ih

/-! ## Calls that only read -/

/-- The calls that look at the world and leave it alone. Accepting a challenge is not among them,
although it changes nothing modelled here. -/
def GatewayOp.IsRead : GatewayOp → Prop
  | .mapping (.create _ _ _ _) => False
  | .mapping (.delete _ _ _) => False
  | .mapping (.updateTenant _ _ _) => False
  | .mapping _ => True
  | .application (.get _ _) => True
  | .application (.getByPublicId _) => True
  | .agent (.getStatus _) => True
  | .listTenants => True
  | .getOryToken _ _ _ _ => True
  | .entitlement (.check _ _ _ _) => True
  | .entitlement (.hasAnyTuples _ _) => True
  | .entitlement (.effectiveScopeCeiling _ _) => True
  | .entitlement (.mintClaim _ _ _) => True
  | .hydra (.getConsentRequest _) => True
  | .hydra (.getLoginRequest _) => True
  | .hydra (.getOauth2Client _) => True
  | .kratos (.getIdentity _) => True
  | .kratos (.toSession _) => True
  | .newUlid => True
  | .nowUtc => True
  | _ => False

/-- The reads that consult neither the scope ceiling nor the minted claim: plain lookups. -/
def GatewayOp.IsLookup : GatewayOp → Prop
  | .entitlement (.effectiveScopeCeiling _ _) => False
  | .entitlement (.mintClaim _ _ _) => False
  | op => op.IsRead

theorem GatewayOp.IsLookup.isRead {op : GatewayOp} (hop : op.IsLookup) : op.IsRead := by
  unfold GatewayOp.IsLookup at hop
  split at hop
  · exact hop.elim
  · exact hop.elim
  · exact hop

/-- The lookups that do not generate an id. -/
def GatewayOp.IsQuery : GatewayOp → Prop
  | .newUlid => False
  | op => op.IsLookup

theorem GatewayOp.IsQuery.isLookup {op : GatewayOp} (hop : op.IsQuery) : op.IsLookup := by
  unfold GatewayOp.IsQuery at hop
  split at hop
  · exact hop.elim
  · exact hop

theorem gateway_of_isRead {op : GatewayOp} (hop : op.IsRead) (env : Env) (c : Choice) (w : World) :
    (gateway env op c w).2 = w := by
  have hory : ∀ {α W : Type} (r : Except OryClientError α) (v : W),
      (oryAnswer v c (r, v)).2 = v := fun r v => (Fault.answer_snd (c.fault 0)).elim id id
  have hstep := gateway_step env c w op
  generalize (gateway env op c w).2 = w' at hstep ⊢
  cases hstep with
  | same => rfl
  | insertMapping hop' | deleteMapping hop' | updateTenant hop' | insertApplication hop'
  | deleteApplication hop' | insertAgent hop' | deleteAgent hop' | directory hop' =>
      subst hop'
      exact hop.elim
  | @tuples o t writes deletes hop' h =>
      subst hop'
      cases o <;> first | exact hop.elim | exact h.elim
  | @hydra o hop' =>
      subst hop'
      cases o <;> first | exact hop.elim | simp only [hydraHandler, hory]
  | @kratos o hop' =>
      subst hop'
      cases o <;> first | exact hop.elim | simp only [kratosHandler, hory]

/-- The reads, and accepting a consent challenge: calls that change nothing modelled here. -/
def GatewayOp.IsInert : GatewayOp → Prop
  | .hydra (.acceptConsentRequest _ _) => True
  | op => op.IsRead

theorem GatewayOp.IsRead.isInert {op : GatewayOp} (hop : op.IsRead) : op.IsInert := by
  unfold GatewayOp.IsInert
  split
  · trivial
  · exact hop

theorem gateway_of_isInert {op : GatewayOp} (hop : op.IsInert) (env : Env) (c : Choice)
    (w : World) : (gateway env op c w).2 = w := by
  unfold GatewayOp.IsInert at hop
  split at hop
  · rename_i challenge body
    have h : (hydraHandler (.acceptConsentRequest challenge body) c w.hydra).2 = w.hydra :=
      (Fault.answer_snd (c.fault 0)).elim id id
    simp only [gateway, h]
  · exact gateway_of_isRead hop env c w

/-! ## Answers

A reading call answers what the world says, or reports a fault; the world is unchanged. -/

theorem Db.read_cases {α : Type} (db : Db) (c : Choice) (r : Except DbError α) :
    db.read c r = (r, db) ∨
      ∃ e, (c.fault 0).isSome = true ∧ db.read c r = (.error (.sqlx e), db) := by
  have hread : Fault.answer Fault.sqlx db (r, db) (c.fault 0) = _ ∨ _ := Fault.answer_read _
  rcases hread with h | ⟨e, hf, h⟩
  · exact .inl h
  · exact .inr ⟨e.toText, hf, h⟩

/-- A lookup by `P` in the rows of a table finds a row, finds that there is none, or fails. -/
def Looks {α β D : Type} (c : Choice) (rows : List α) (P : α → Prop) (f : α → β)
    (notFound : DbError) (d : D) (answer : Except DbError β × D) : Prop :=
  (∃ x ∈ rows, P x ∧ answer = (.ok (f x), d)) ∨
    ((∀ x ∈ rows, ¬ P x) ∧ answer = (.error notFound, d)) ∨
    ∃ e, (c.fault 0).isSome = true ∧ answer = (.error (.sqlx e), d)

theorem Db.read_find {α β : Type} (db : Db) (c : Choice) (notFound : DbError) (f : α → β)
    (rows : List α) (P : α → Prop) [DecidablePred P] :
    Looks c rows P f notFound db
      (db.read c (orNotFound notFound f (rows.find? fun x => P x))) := by
  rcases db.read_cases c (orNotFound notFound f (rows.find? fun x => P x)) with h | h
  · rcases hx : rows.find? (fun x => P x) with _ | x
    · refine .inr (.inl ⟨fun x hx' => ?_, by rw [← hx, h, hx]; rfl⟩)
      simpa using List.find?_eq_none.mp hx x hx'
    · refine .inl ⟨x, List.mem_of_find?_eq_some hx, ?_, by rw [← hx, h, hx]; rfl⟩
      simpa using List.find?_some hx
  · exact .inr (.inr h)

/-- A lookup of the database, as a call of the gateway. -/
theorem Looks.world {α β : Type} {c : Choice} {rows : List α} {P : α → Prop} {f : α → β}
    {notFound : DbError} {w : World} {answer : Except DbError β × Db}
    (h : Looks c rows P f notFound w.db answer) :
    Looks c rows P f notFound w (answer.1, { w with db := answer.2 }) := by
  rcases h with ⟨x, hx, hP, rfl⟩ | ⟨hP, rfl⟩ | ⟨e, hf, rfl⟩
  · exact .inl ⟨x, hx, hP, rfl⟩
  · exact .inr (.inl ⟨hP, rfl⟩)
  · exact .inr (.inr ⟨e, hf, rfl⟩)

section answers

variable (env : Env) (c : Choice) (w : World)

theorem gateway_getPublicId (t : String) (b : Backend) (o : String) :
    Looks c w.db.idMappings (fun m => m.tenantId = t ∧ m.backend = b ∧ m.oryGlobalId = o)
      (·.publicId) .mappingNotFound w (gateway env (.mapping (.getPublicId t b o)) c w) :=
  (w.db.read_find c _ _ _ _).world

theorem gateway_getOryId (t : String) (b : Backend) (p : String) :
    Looks c w.db.idMappings (fun m => m.tenantId = t ∧ m.backend = b ∧ m.publicId = p)
      (·.oryGlobalId) .mappingNotFound w (gateway env (.mapping (.getOryId t b p)) c w) :=
  (w.db.read_find c _ _ _ _).world

theorem gateway_getOryIdByPublicId (b : Backend) (p : String) :
    Looks c w.db.idMappings (fun m => m.backend = b ∧ m.publicId = p)
      (·.oryGlobalId) .mappingNotFound w (gateway env (.mapping (.getOryIdByPublicId b p)) c w) :=
  (w.db.read_find c _ _ _ _).world

theorem gateway_getApplication (t p : String) :
    Looks c w.db.applications (fun a => a.tenantId = t ∧ a.publicId = p)
      id .applicationNotFound w (gateway env (.application (.get t p)) c w) :=
  (w.db.read_find c _ _ _ _).world

theorem gateway_getByPublicId (p : String) :
    Looks c w.db.applications (fun a => a.publicId = p)
      id .applicationNotFound w (gateway env (.application (.getByPublicId p)) c w) :=
  (w.db.read_find c _ _ _ _).world

theorem gateway_getStatus (i : String) :
    Looks c w.db.agents (fun a => a.id = i)
      (·.status) .agentNotFound w (gateway env (.agent (.getStatus i)) c w) :=
  (w.db.read_find c _ _ _ _).world

/-- The row found by an unordered `LIMIT 1` is one of the matching rows. -/
theorem gateway_getPublicIdByOryId (b : Backend) (o : String) :
    Looks c w.db.idMappings (fun m => m.backend = b ∧ m.oryGlobalId = o)
      (·.publicId) .mappingNotFound w (gateway env (.mapping (.getPublicIdByOryId b o)) c w) := by
  suffices hdb : Looks c w.db.idMappings (fun m => m.backend = b ∧ m.oryGlobalId = o)
      (·.publicId) .mappingNotFound w.db (mappingHandler env (.getPublicIdByOryId b o) c w.db) from
    hdb.world
  rcases w.db.read_cases c (orNotFound .mappingNotFound (·.publicId)
    (env.pick .publicIdByOryId (w.db.rowsOf b o))) with h | h
  · rcases hm : env.pick .publicIdByOryId (w.db.rowsOf b o) with _ | m
    · refine .inr (.inl ⟨fun m hm' hP => ?_, by rw [mappingHandler, h, hm]; rfl⟩)
      have hnil := Env.pick_eq_none.mp hm
      exact List.not_mem_nil (hnil ▸ Db.mem_rowsOf.mpr ⟨hm', hP⟩)
    · obtain ⟨hmem, hP⟩ := Db.mem_rowsOf.mp (Env.mem_of_pick hm)
      exact .inl ⟨m, hmem, hP, by rw [mappingHandler, h, hm]; rfl⟩
  · exact .inr (.inr h)

theorem gateway_getTenantIdByOryId (b : Backend) (o : String) :
    (∃ m ∈ w.db.idMappings, (m.backend = b ∧ m.oryGlobalId = o) ∧
        gateway env (.mapping (.getTenantIdByOryId b o)) c w = (.ok (some m.tenantId), w)) ∨
      ((∀ m ∈ w.db.idMappings, ¬ (m.backend = b ∧ m.oryGlobalId = o)) ∧
        gateway env (.mapping (.getTenantIdByOryId b o)) c w = (.ok none, w)) ∨
      ∃ e, (c.fault 0).isSome = true ∧
        gateway env (.mapping (.getTenantIdByOryId b o)) c w = (.error (.sqlx e), w) := by
  simp only [gateway, mappingHandler]
  rcases w.db.read_cases c (.ok ((env.pick .tenantIdByOryId (w.db.rowsOf b o)).map
    (·.tenantId))) with h | ⟨e, hf, h⟩
  · rcases hm : env.pick .tenantIdByOryId (w.db.rowsOf b o) with _ | m
    · refine .inr (.inl ⟨fun m hm' hP => ?_, by rw [← hm, h, hm]; rfl⟩)
      have hnil := Env.pick_eq_none.mp hm
      exact List.not_mem_nil (hnil ▸ Db.mem_rowsOf.mpr ⟨hm', hP⟩)
    · obtain ⟨hmem, hP⟩ := Db.mem_rowsOf.mp (Env.mem_of_pick hm)
      exact .inl ⟨m, hmem, hP, by rw [← hm, h, hm]; rfl⟩
  · exact .inr (.inr ⟨e, hf, by rw [h]⟩)

/-- A listing is what the table has. -/
theorem gateway_listMappings_ok {t : String} {b : Backend} {rows : List IdMappingRow}
    (h : (gateway env (.mapping (.listMappings t b)) c w).1 = .ok rows) :
    rows = w.db.mappingRows t b := by
  have hanswer : (w.db.read c (.ok (w.db.mappingRows t b))).1 = .ok rows := h
  obtain ⟨-, hok⟩ := Fault.answer_ok hanswer
  cases hok
  rfl

theorem gateway_listPublicIds_ok {t : String} {b : Backend} {ids : List String}
    (h : (gateway env (.mapping (.listPublicIds t b)) c w).1 = .ok ids) :
    ids = (w.db.mappingRows t b).map (·.publicId) := by
  have hanswer : (w.db.read c (.ok ((w.db.mappingRows t b).map (·.publicId)))).1 = .ok ids := h
  obtain ⟨-, hok⟩ := Fault.answer_ok hanswer
  cases hok
  rfl

/-- A fetched consent request is one Hydra has. -/
theorem gateway_getConsentRequest_ok {challenge : String} {document : Value}
    (h : (gateway env (.hydra (.getConsentRequest challenge)) c w).1 = .ok document) :
    w.hydra.consentRequests.lookup challenge = some document := by
  have hanswer : (oryAnswer w.hydra c (lookupObject w.hydra.consentRequests challenge,
      w.hydra)).1 = .ok document := h
  obtain ⟨-, hlookup⟩ := Fault.answer_ok hanswer
  unfold lookupObject at hlookup
  split at hlookup
  · cases hlookup
    assumption
  · cases hlookup

/-- A check answers what the tuples say, or fails. -/
theorem gateway_check (t i a r : String) :
    gateway env (.entitlement (.check t i a r)) c w =
        (.ok (checkWithin w.tuples t env.checkDepth entitlementNamespace a r i), w) ∨
      ∃ e, (∃ n, (c.fault n).isSome = true) ∧
        gateway env (.entitlement (.check t i a r)) c w = (.error e, w) := by
  have h := entitlementHandler_of_sat env c w.tuples (.check t i a r)
    (A := fun f => ∃ n, f = c.fault n)
    (Q := fun r ts => ts = w.tuples ∧
      (r = .ok (checkWithin w.tuples t env.checkDepth entitlementNamespace a _ i) ∨
        ∃ e, (∃ n, (c.fault n).isSome = true) ∧ r = .error e))
    (fun n => ⟨n, rfl⟩)
    (EntitlementServiceImpl.sat_check ⟨rfl, .inl rfl⟩ fun ⟨f, n, hn⟩ e =>
      ⟨rfl, .inr ⟨e, ⟨n, hn ▸ rfl⟩, rfl⟩⟩)
  obtain ⟨hts, hr | ⟨e, hf, hr⟩⟩ := h
  · exact .inl (by simp only [gateway, hts, hr])
  · exact .inr ⟨e, hf, by simp only [gateway, hts, hr]⟩

/-- The question for tuples answers what the store has, or fails. -/
theorem gateway_hasAnyTuples_ok {t a : String} {b : Bool}
    (h : (gateway env (.entitlement (.hasAnyTuples t a)) c w).1 = .ok b) :
    b = true ↔ ∃ x ∈ w.tuples, x.tenantId = t ∧ x.key.nspace = entitlementNamespace ∧
      x.key.object = a := by
  have hsat := entitlementHandler_of_sat env c w.tuples (.hasAnyTuples t a) (A := fun _ => True)
    (Q := fun r _ => ∀ b, r = .ok b → (b = true ↔ ∃ x ∈ w.tuples, x.tenantId = t ∧
      x.key.nspace = entitlementNamespace ∧ x.key.object = a)) (fun _ => trivial)
    (EntitlementServiceImpl.sat_hasAnyTuples
      (fun b hb b' hb' => by
        cases hb'
        exact hb)
      (fun _ e b hb => by cases hb))
  exact hsat b h

end answers

/-! ## Single runs -/

/-- A run by itself. -/
def anyGatewayRun : Contract Gateway Choice World := .alone (fun _ _ _ => True) fun _ _ _ => True

/-- A run by itself in which nothing fails. -/
def faultless : Contract Gateway Choice World := .alone (fun _ c _ => c.FaultFree) fun _ _ _ => True

/-- Nothing fails. -/
def smoothly (_ : ℕ) : Choice := .plain "" 0

theorem smoothly_faultFree (n : ℕ) : (smoothly n).FaultFree := fun _ => rfl

section runs

variable {env : Env} {w : World} {op : GatewayOp} {Q : op.Res → World → Prop}

theorem sat_anyGatewayRun_perform (h : ∀ c, Q (gateway env op c w).1 (gateway env op c w).2) :
    (Prog.perform (S := Gateway) op).Sat (gateway env) anyGatewayRun Q w := by
  rintro _ rfl c -
  exact ⟨trivial, h c⟩

theorem sat_faultless_perform
    (h : ∀ c, c.FaultFree → Q (gateway env op c w).1 (gateway env op c w).2) :
    (Prog.perform (S := Gateway) op).Sat (gateway env) faultless Q w := by
  rintro _ rfl c hc
  exact ⟨trivial, h c hc⟩

end runs

end SsoGateway
