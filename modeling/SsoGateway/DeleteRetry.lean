import SsoGateway.Clients
import SsoGateway.IdentityUpdates
import SsoGateway.Lib.Straight
import SsoGateway.Steps

/-!
# Deletes and their retries

`deleteIdentity`, `deleteApplication` and SCIM's `deleteUser` look the mapping of the object up, delete
the object at its backend, and delete the mapping. An attempt can end after any of these calls.

* `DeleteCall` — the three operations.
* `Converges` — after an attempt in which one request failed, a second one succeeds and leaves
  neither the object nor the mapping.
* `FailsInTime` — the condition: the failing request comes before the object is deleted.
* `retry_converges_iff` — the two are the same, for an object that is there to begin with.
* `delete_identity_retry_fails` — the mapping that can no longer be deleted.
-/

namespace SsoGateway

open Lib

/-! ## The operations -/

/-- The operations that delete an object of a backend. -/
inductive DeleteCall where
  | identity (id : String)
  | application (id : String)
  | user (id : String)
deriving DecidableEq, Repr

namespace DeleteCall

/-- The public id. -/
def id : DeleteCall → String
  | .identity id => id
  | .application id => id
  | .user id => id

/-- The scope the caller needs. -/
def scope : DeleteCall → String
  | .identity _ => scopeIdentityAdmin
  | .application _ => scopeApplicationAdmin
  | .user _ => scopeScimAdmin

/-- The backend of the object. -/
def backend : DeleteCall → Backend
  | .application _ => .hydra
  | _ => .kratos

/-- The objects of that backend. -/
def objects (call : DeleteCall) (w : World) : List (String × Value) :=
  match call.backend with
  | .hydra => w.hydra.clients
  | _ => w.kratos.identities

/-- The program of an operation. -/
def prog (ctx : RequestContext) : DeleteCall → Service Unit
  | .identity id => deleteIdentity ctx id
  | .application id => deleteApplication ctx id
  | .user id => deleteUser ctx id

/-- What comes before the delete at the backend; yields the id of the object. -/
def before (t : String) : DeleteCall → Service String
  | .identity id => Prog.orThrow ServiceError.ofDbError (IdMappingStore.getOryId t .kratos id)
  | .application id => Prog.orThrow ServiceError.ofDbError (IdMappingStore.getOryId t .hydra id)
  | .user id => do
      let oryId ← Prog.orThrow ServiceError.ofDbError (IdMappingStore.getOryId t .kratos id)
      let groupIds ← Prog.orThrow ServiceError.ofDbError (callDirectory (.listUserGroups id))
      groupIds.forM (leaveGroup t id)
      Prog.orThrow ServiceError.ofDbError (callDirectory (.removeUserFromAllGroups id))
      return oryId

/-- The delete at the backend. -/
def deleteObject (oryId : String) : DeleteCall → Service Unit
  | .application _ => Prog.orThrow mapOryError (callHydra (.deleteOauth2Client oryId))
  | _ => Prog.orThrow mapOryError (callKratos (.deleteIdentity oryId))

/-- The deletes in the database. -/
def deleteRows (t : String) : DeleteCall → Service Unit
  | .application id => do
      let _ ← Prog.attempt (ApplicationStore.delete t id)
      Prog.orThrow ServiceError.ofDbError (IdMappingStore.delete t .hydra id)
  | call => Prog.orThrow ServiceError.ofDbError (IdMappingStore.delete t .kratos call.id)

/-- The three parts of an operation, after the check. -/
theorem prog_eq (ctx : RequestContext) (call : DeleteCall) :
    call.prog ctx = (do
      let t ← check (requireTenantScope ctx call.scope)
      let oryId ← call.before t
      call.deleteObject oryId
      call.deleteRows t) := by
  cases call with
  | identity id => rfl
  | application id => rfl
  | user id =>
      simp only [prog, deleteUser, before, scope, deleteObject, deleteRows, bind_assoc, pure_bind]
      rfl

/-- The row maps the object of the operation. -/
def Maps (call : DeleteCall) (t : String) (m : IdMappingRow) : Prop :=
  m.tenantId = t ∧ m.backend = call.backend ∧ m.publicId = call.id

instance (call : DeleteCall) (t : String) (m : IdMappingRow) : Decidable (call.Maps t m) :=
  inferInstanceAs (Decidable (_ ∧ _))

/-- The calls before the delete at the backend, each with the number of its requests: leaving a group
publishes the model and writes the tuple. -/
def requests (w : World) : DeleteCall → List ℕ
  | .user id => [1] ++ ([1] ++
      (List.replicate (w.directory.groupMembers.filter fun m => m.2 = id).length 2 ++ [1]))
  | _ => [1]

end DeleteCall

/-! ## The calls -/

/-- The mappings and the objects of the backends are the same. -/
structure SameObjects (w w' : World) : Prop where
  idMappings : w'.db.idMappings = w.db.idMappings
  identities : w'.kratos.identities = w.kratos.identities
  clients : w'.hydra.clients = w.hydra.clients

theorem SameObjects.refl (w : World) : SameObjects w w := ⟨rfl, rfl, rfl⟩

theorem SameObjects.objects {w w' : World} (h : SameObjects w w') (call : DeleteCall) :
    call.objects w' = call.objects w := by
  unfold DeleteCall.objects
  rw [h.identities, h.clients]

/-- None of the requests of a call fails. -/
def Answered (n : ℕ) (c : Choice) : Prop := ∀ j < n, c.fault j = none

theorem answered_one {c : Choice} : Answered 1 c ↔ c.fault 0 = none := by
  unfold Answered
  constructor
  · intro h
    exact h 0 Nat.one_pos
  · intro h j hj
    obtain rfl : j = 0 := by omega
    exact h

theorem answered_two {c : Choice} : Answered 2 c ↔ c.fault 0 = none ∧ c.fault 1 = none := by
  unfold Answered
  constructor
  · intro h
    exact ⟨h 0 (by omega), h 1 (by omega)⟩
  · rintro ⟨h0, h1⟩ j hj
    obtain rfl | rfl : j = 0 ∨ j = 1 := by omega
    · exact h0
    · exact h1

section calls

variable (env : Env) {w w₀ : World}

/-- Looking a mapping up. -/
theorem straight_getOryId (hw : SameObjects w₀ w) {m : IdMappingRow} (hm : m ∈ w.db.idMappings) :
    (Prog.orThrow ServiceError.ofDbError
      (IdMappingStore.getOryId m.tenantId m.backend m.publicId)).run.Straight (gateway env) Answered
      (SameObjects w₀) (fun o w' => o = m.oryGlobalId ∧ w' = w) [1] w := by
  refine Prog.straight_run_orThrow (S := Gateway)
    (.mapping (.getOryId m.tenantId m.backend m.publicId)) (fun r => r) fun c => ?_
  rw [answered_one]
  rcases gateway_getOryId env c w m.tenantId m.backend m.publicId with
    ⟨m', hm', ⟨-, -, hp⟩, h⟩ | ⟨hnone, -⟩ | ⟨e, hf, h⟩
  · obtain rfl := w.db.mapping_unique hm' hm (.inl hp)
    rw [h]
    refine ⟨hw, fun _ => ⟨_, rfl, rfl, rfl⟩, fun hf => ?_⟩
    -- a call with a fault has no answer
    obtain ⟨f, hf⟩ := Option.ne_none_iff_exists'.mp hf
    have hok : (gateway env (.mapping (.getOryId m'.tenantId m'.backend m'.publicId)) c w).1 =
        .ok m'.oryGlobalId := by rw [h]
    simp only [gateway, mappingHandler, Db.read, hf] at hok
    cases hok
  · exact absurd ⟨rfl, rfl, rfl⟩ (hnone m hm)
  · rw [h]
    refine ⟨hw, fun hnone => ?_, fun _ => ⟨_, rfl⟩⟩
    rw [hnone] at hf
    cases hf

/-- Listing the groups of a user. -/
theorem straight_listUserGroups (hw : SameObjects w₀ w) (u : String) :
    (Prog.orThrow ServiceError.ofDbError (callDirectory (.listUserGroups u))).run.Straight
      (gateway env) Answered (SameObjects w₀) (fun groups w' => SameObjects w₀ w' ∧
        groups = (w.directory.groupMembers.filter fun m => m.2 = u).map fun m => m.1) [1] w := by
  refine Prog.straight_run_orThrow (S := Gateway) (.directory (.listUserGroups u)) (fun r => r)
    fun c => ?_
  rw [answered_one]
  simp only [gateway, directoryHandler]
  refine ⟨⟨hw.1, hw.2, hw.3⟩, fun hf => ?_, fun hf => ?_⟩
  · rw [hf]
    exact ⟨_, rfl, ⟨hw.1, hw.2, hw.3⟩, rfl⟩
  · obtain ⟨f, hf⟩ := Option.ne_none_iff_exists'.mp hf
    rw [hf]
    exact ⟨_, rfl⟩

/-- Changing a group membership takes two requests of the permission backend. -/
theorem straight_setGroupMembership (t g u : String) (member : Bool) (d : ℕ)
    (ts : List StoredTuple) :
    (EntitlementServiceImpl.setGroupMembership t g u member).run.Straight (permissionHandler d)
      (fun (_ : Unit) fault => fault = none) (fun _ => True) (fun _ _ => True) [(), ()] ts := by
  have hcall : ∀ (op : PermissionOp) (r : op.Res → Except PermissionBackendError Unit)
      (ts : List StoredTuple),
      (∀ f, ∃ e, r (permissionHandler d op (some f) ts).1 = .error e) →
      r (permissionHandler d op none ts).1 = .ok () →
      (Prog.orThrow mapBackendError
        (Prog.call (S := PermissionSig) op fun a => Prog.pure (r a))).run.Straight
        (permissionHandler d) (fun (_ : Unit) fault => fault = none) (fun _ => True)
        (fun _ _ => True) [()] ts := by
    intro op r ts hfault hnone
    refine Prog.straight_run_orThrow (S := PermissionSig) (I := fun _ => True) op r
      fun c => ⟨trivial, ?_, ?_⟩
    · rintro rfl
      exact ⟨(), hnone, trivial⟩
    · intro hc
      obtain ⟨f, rfl⟩ := Option.ne_none_iff_exists'.mp hc
      exact hfault f
  show Prog.Straight _ _ _ _ ([()] ++ [()]) _ _
  refine Prog.straight_run_bind (hcall (.ensureModel _ _) (fun r => r) ts
    (fun f => ⟨_, rfl⟩) rfl) fun _ ts' _ => ?_
  dsimp only
  split
  · exact hcall (.ensureTuples _ _ _) (fun r => r) ts' (fun f => ⟨_, rfl⟩) rfl
  · exact hcall (.ensureTuples _ _ _) (fun r => r) ts' (fun f => ⟨_, rfl⟩) rfl

/-- Leaving a group. -/
theorem straight_leaveGroup (hw : SameObjects w₀ w) (t u g : String) :
    (leaveGroup t u g).run.Straight (gateway env) Answered (SameObjects w₀)
      (fun _ => SameObjects w₀) [2] w := by
  refine Prog.straight_run_orThrow (S := Gateway)
    (.entitlement (.setGroupMembership t g u false)) (fun r => r) fun c => ?_
  have hstraight := straight_setGroupMembership t g u false env.checkDepth w.tuples
  rw [answered_two]
  refine ⟨⟨hw.1, hw.2, hw.3⟩, fun hf => ?_, fun hf => ?_⟩
  · obtain ⟨a, ts, -, -, hrun⟩ := hstraight.result_ok trivial c.fault fun i n hi => by
      obtain rfl | rfl : i = 0 ∨ i = 1 := by
        have := (List.getElem?_eq_some_iff.mp hi).1
        simp at this
        omega
      · exact hf.1
      · exact hf.2
    exact ⟨a, congrArg Prod.fst hrun, hw.1, hw.2, hw.3⟩
  · obtain ⟨e, ts, -, hrun⟩ := hstraight.result_error c.fault (by
      by_cases h0 : c.fault 0 = none
      · exact ⟨1, (), rfl, fun h1 => hf ⟨h0, h1⟩⟩
      · exact ⟨0, (), rfl, h0⟩)
    exact ⟨e, congrArg Prod.fst hrun⟩

/-- Taking a user out of the groups. -/
theorem straight_removeUserFromAllGroups (hw : SameObjects w₀ w) (u : String) :
    (Prog.orThrow ServiceError.ofDbError (callDirectory (.removeUserFromAllGroups u))).run.Straight
      (gateway env) Answered (SameObjects w₀) (fun _ => SameObjects w₀) [1] w := by
  refine Prog.straight_run_orThrow (S := Gateway) (.directory (.removeUserFromAllGroups u))
    (fun r => r) fun c => ?_
  rw [answered_one]
  simp only [gateway, directoryHandler, Directory.write]
  refine ⟨⟨hw.1, hw.2, hw.3⟩, fun hf => ?_, fun hf => ?_⟩
  · rw [hf]
    exact ⟨_, rfl, hw.1, hw.2, hw.3⟩
  · obtain ⟨f, hf⟩ := Option.ne_none_iff_exists'.mp hf
    rw [hf]
    exact ⟨_, rfl⟩

/-- What comes before the delete at the backend. -/
theorem straight_before (call : DeleteCall) {t : String} {m : IdMappingRow}
    (hm : m ∈ w.db.idMappings) (hmaps : call.Maps t m) :
    (call.before t).run.Straight (gateway env) Answered (SameObjects w)
      (fun o w' => o = m.oryGlobalId ∧ SameObjects w w') (call.requests w) w := by
  obtain ⟨rfl, hb, hp⟩ := hmaps
  have hget := straight_getOryId env (SameObjects.refl w) hm
  rw [hb, hp] at hget
  have hlookup : (Prog.orThrow ServiceError.ofDbError
      (IdMappingStore.getOryId m.tenantId call.backend call.id)).run.Straight (gateway env) Answered
      (SameObjects w) (fun o w' => o = m.oryGlobalId ∧ SameObjects w w') [1] w :=
    hget.post fun o w' h => ⟨h.1, h.2 ▸ .refl w⟩
  cases call with
  | identity id => exact hlookup
  | application id => exact hlookup
  | user id =>
      refine Prog.straight_run_bind hget fun o w₁ hw₁ => ?_
      obtain ⟨rfl, rfl⟩ := hw₁
      refine Prog.straight_run_bind (straight_listUserGroups env (.refl w₁) id) fun groups w₂ hw₂ => ?_
      obtain ⟨hw₂, rfl⟩ := hw₂
      have hleave := Prog.straight_run_forM (fun g w hw => straight_leaveGroup env hw
        m.tenantId id g) ((w₁.directory.groupMembers.filter fun m => m.2 = id).map fun m => m.1) hw₂
      rw [List.length_map] at hleave
      refine Prog.straight_run_bind hleave fun _ w₃ hw₃ => ?_
      have hremove := straight_removeUserFromAllGroups env hw₃ id
      show Prog.Straight _ _ _ _ ([1] ++ []) _ _
      exact Prog.straight_run_bind hremove fun _ w₄ hw₄ => Prog.straight_run_pure ⟨rfl, hw₄⟩

/-- No row maps the object: the lookup fails. -/
theorem before_unmapped {call : DeleteCall} {t : String}
    (hnone : ∀ m ∈ w.db.idMappings, ¬ call.Maps t m) (o : ℕ → Choice)
    (rest : String → Service Unit) :
    ∃ e, (call.before t >>= rest).run.run (gateway env) o w = (.error e, w) := by
  have hlookup : ∀ rest : String → Service Unit, ∃ e,
      (Prog.orThrow ServiceError.ofDbError (IdMappingStore.getOryId t call.backend call.id) >>=
        rest).run.run (gateway env) o w = (.error e, w) := by
    intro rest
    have hrun := Prog.run_orThrow_bind (S := Gateway) (h := gateway env) (f := ServiceError.ofDbError)
      (.mapping (.getOryId t call.backend call.id)) (fun r => r) rest o w
    rcases gateway_getOryId env (o 0) w t call.backend call.id with
      ⟨m, hm, hmaps, -⟩ | ⟨-, h⟩ | ⟨e, -, h⟩
    · exact absurd hmaps (hnone m hm)
    · rw [h] at hrun
      exact ⟨_, hrun⟩
    · rw [h] at hrun
      exact ⟨_, hrun⟩
  cases call with
  | identity id => exact hlookup rest
  | application id => exact hlookup rest
  | user id =>
      unfold DeleteCall.before
      simp only [bind_assoc]
      exact hlookup _

/-! ## The delete at the backend -/

/-- The world without an object of the backend. -/
def DeleteCall.without (call : DeleteCall) (o : String) (w : World) : World :=
  match call.backend with
  | .hydra => { w with hydra := { w.hydra with clients :=
      (w.hydra.clients.filter fun kv => kv.1 ≠ o) } }
  | _ => { w with kratos := { w.kratos with identities :=
      (w.kratos.identities.filter fun kv => kv.1 ≠ o) } }

theorem DeleteCall.lookup_without (call : DeleteCall) (o : String) (w : World) :
    (call.objects (call.without o w)).lookup o = none := by
  cases call with
  | _ => exact lookup_filter_self o _

theorem DeleteCall.idMappings_without (call : DeleteCall) (o : String) (w : World) :
    (call.without o w).db = w.db := by
  cases call with
  | _ => rfl

/-- What the delete of an object does: the backend answers 404 for one that it does not have; one that
is there is deleted, is deleted although the answer is lost, or is not. -/
def Deletes {α ε : Type} (c : Choice) (object : Option Value) (gone w : World) (a : α)
    (answer : Except ε α × World) : Prop :=
  (object = none ∧ ∃ e, answer = (.error e, w)) ∨
    (object ≠ none ∧ c.fault 0 = none ∧ answer = (.ok a, gone)) ∨
      (object ≠ none ∧ ∃ f, c.fault 0 = some f ∧
        ∃ e, answer = (.error e, if f.applied then gone else w))

theorem deletes_deleteIdentity (id o : String) (c : Choice) (w : World) :
    Deletes c (w.kratos.identities.lookup o) ((DeleteCall.identity id).without o w) w ()
      (gateway env (.kratos (.deleteIdentity o)) c w) := by
  simp only [gateway, kratosHandler, oryAnswer]
  rcases w.kratos.identities.lookup o with _ | v
  · refine .inl ⟨rfl, ?_⟩
    rcases c.fault 0 with _ | f
    · exact ⟨_, rfl⟩
    · exact ⟨f.error, by simp [Fault.answer]⟩
  · refine .inr ?_
    rcases hf : c.fault 0 with _ | f
    · exact .inl ⟨Option.some_ne_none v, rfl, rfl⟩
    · refine .inr ⟨Option.some_ne_none v, f, rfl, f.error, ?_⟩
      rcases happlied : f.applied with _ | _
      · simp [Fault.answer, happlied]
      · simp [Fault.answer, happlied, DeleteCall.without, DeleteCall.backend]

theorem deletes_deleteOauth2Client (id o : String) (c : Choice) (w : World) :
    Deletes c (w.hydra.clients.lookup o) ((DeleteCall.application id).without o w) w ()
      (gateway env (.hydra (.deleteOauth2Client o)) c w) := by
  simp only [gateway, hydraHandler, oryAnswer]
  rcases w.hydra.clients.lookup o with _ | v
  · refine .inl ⟨rfl, ?_⟩
    rcases c.fault 0 with _ | f
    · exact ⟨_, rfl⟩
    · exact ⟨f.error, by simp [Fault.answer]⟩
  · refine .inr ?_
    rcases hf : c.fault 0 with _ | f
    · exact .inl ⟨Option.some_ne_none v, rfl, rfl⟩
    · refine .inr ⟨Option.some_ne_none v, f, rfl, f.error, ?_⟩
      rcases happlied : f.applied with _ | _
      · simp [Fault.answer, happlied]
      · simp [Fault.answer, happlied, DeleteCall.without, DeleteCall.backend]

/-- The same of the call, with what follows it. -/
theorem deleteObject_cases (call : DeleteCall) (o : String) (ch : ℕ → Choice) (w : World)
    (rest : Unit → Service Unit) :
    ((call.objects w).lookup o = none ∧
        ∃ e, (call.deleteObject o >>= rest).run.run (gateway env) ch w = (.error e, w)) ∨
      ((call.objects w).lookup o ≠ none ∧ (ch 0).fault 0 = none ∧
        (call.deleteObject o >>= rest).run.run (gateway env) ch w =
          (rest ()).run.run (gateway env) (fun i => ch (i + 1)) (call.without o w)) ∨
      ((call.objects w).lookup o ≠ none ∧ ∃ f, (ch 0).fault 0 = some f ∧
        ∃ e, (call.deleteObject o >>= rest).run.run (gateway env) ch w =
          (.error e, if f.applied then call.without o w else w)) := by
  have hidentity : ∀ id, Deletes (ch 0) (w.kratos.identities.lookup o)
      ((DeleteCall.identity id).without o w) w ()
      (gateway env (.kratos (.deleteIdentity o)) (ch 0) w) :=
    fun id => deletes_deleteIdentity env id o (ch 0) w
  have hkratos := Prog.run_orThrow_bind (S := Gateway) (h := gateway env) (f := mapOryError)
    (.kratos (.deleteIdentity o)) (fun r => r) rest ch w
  cases call with
  | identity id | user id =>
      refine (hidentity id).imp ?_ (Or.imp ?_ ?_)
      · rintro ⟨hnone, e, h⟩
        rw [h] at hkratos
        exact ⟨hnone, _, hkratos⟩
      · rintro ⟨hsome, hf, h⟩
        rw [h] at hkratos
        exact ⟨hsome, hf, hkratos⟩
      · rintro ⟨hsome, f, hf, e, h⟩
        rw [h] at hkratos
        exact ⟨hsome, f, hf, _, hkratos⟩
  | application id =>
      have hhydra := Prog.run_orThrow_bind (S := Gateway) (h := gateway env) (f := mapOryError)
        (.hydra (.deleteOauth2Client o)) (fun r => r) rest ch w
      refine (deletes_deleteOauth2Client env id o (ch 0) w).imp ?_ (Or.imp ?_ ?_)
      · rintro ⟨hnone, e, h⟩
        rw [h] at hhydra
        exact ⟨hnone, _, hhydra⟩
      · rintro ⟨hsome, hf, h⟩
        rw [h] at hhydra
        exact ⟨hsome, hf, hhydra⟩
      · rintro ⟨hsome, f, hf, e, h⟩
        rw [h] at hhydra
        exact ⟨hsome, f, hf, _, hhydra⟩

/-! ## The deletes in the database -/

/-- The objects are the same, and no mapping is new. -/
def Unmapping (w w' : World) : Prop :=
  w'.kratos = w.kratos ∧ w'.hydra = w.hydra ∧ ∀ m ∈ w'.db.idMappings, m ∈ w.db.idMappings

theorem Unmapping.objects {w w' : World} (h : Unmapping w w') (call : DeleteCall) :
    call.objects w' = call.objects w := by
  unfold DeleteCall.objects
  rw [h.1, h.2.1]

/-- Rows are deleted, whatever fails. -/
theorem deleteRows_unmapping (call : DeleteCall) (t : String) (ch : ℕ → Choice) (w : World) :
    Unmapping w ((call.deleteRows t).run.run (gateway env) ch w).2 := by
  have hcalls : (call.deleteRows t).run.Calls fun op : GatewayOp =>
      (∃ b p, op = .mapping (.delete t b p)) ∨ ∃ p, op = .application (.delete t p) := by
    cases call with
    | identity id | user id => exact Prog.calls_run_orThrow (Prog.calls_perform (.inl ⟨_, _, rfl⟩))
    | application id =>
        refine Prog.calls_run_bind (Prog.calls_run_attempt (Prog.calls_perform (.inr ⟨_, rfl⟩)))
          fun _ => ?_
        exact Prog.calls_run_orThrow (Prog.calls_perform (.inl ⟨_, _, rfl⟩))
  have hsat : (call.deleteRows t).run.Sat (gateway env)
      (Contract.alone (fun _ _ _ => True) fun _ _ _ => True) (fun _ w' => Unmapping w w') w := by
    refine hcalls.sat (I := Unmapping w) ?_ ?_ ⟨rfl, rfl, fun _ hm => hm⟩
    · rintro w' _ hw' rfl
      exact hw'
    · intro op c w' hop hw' _
      refine ⟨trivial, ?_⟩
      rcases hop with ⟨b, p, rfl⟩ | ⟨p, rfl⟩
      · simp only [gateway, mappingHandler]
        rcases Db.write_snd c (w'.db.deleteMapping t b p) () with h | ⟨db', hdb', h⟩
        · rw [h]
          exact hw'
        · rw [h]
          refine ⟨hw'.1, hw'.2.1, fun m hm => hw'.2.2 m ?_⟩
          dsimp only at hm
          rw [(Db.deleteMapping_ok hdb').2.1] at hm
          exact (List.mem_filter.mp hm).1
      · simp only [gateway, applicationHandler]
        rcases Db.write_snd c (w'.db.deleteApplication t p) () with h | ⟨db', hdb', h⟩
        · rw [h]
          exact hw'
        · rw [h]
          refine ⟨hw'.1, hw'.2.1, fun m hm => hw'.2.2 m ?_⟩
          dsimp only at hm
          rw [(Db.deleteApplication_ok hdb').2.1] at hm
          exact hm
  exact hsat.run_of_choices fun _ _ _ => trivial

/-- The mapping that is there is deleted, if nothing fails. -/
theorem deleteRows_faultFree {call : DeleteCall} {t : String} {ch : ℕ → Choice}
    (hch : ∀ i, (ch i).FaultFree) {m : IdMappingRow} (hm : m ∈ w.db.idMappings)
    (hmaps : call.Maps t m) :
    ((call.deleteRows t).run.run (gateway env) ch w).1 = .ok () ∧
      ∀ m' ∈ ((call.deleteRows t).run.run (gateway env) ch w).2.db.idMappings,
        ¬ call.Maps t m' := by
  have hdelete : ∀ (w : World) (c : Choice), c.FaultFree → m ∈ w.db.idMappings →
      (gateway env (.mapping (.delete t call.backend call.id)) c w).1 = .ok () ∧
        ∀ m' ∈ (gateway env (.mapping (.delete t call.backend call.id)) c w).2.db.idMappings,
          ¬ call.Maps t m' := by
    intro w c hc hm
    simp only [gateway, mappingHandler, Db.write_faultFree hc]
    have hrow : ∃ m ∈ w.db.idMappings, m.tenantId = t ∧ m.backend = call.backend ∧
        m.publicId = call.id := ⟨m, hm, hmaps⟩
    rcases hdeleted : w.db.deleteMapping t call.backend call.id with e | db'
    · unfold Db.deleteMapping at hdeleted
      rw [if_pos hrow] at hdeleted
      cases hdeleted
    · refine ⟨rfl, fun m' hm' hmaps' => ?_⟩
      dsimp only at hm'
      rw [(Db.deleteMapping_ok hdeleted).2.1] at hm'
      simpa [hmaps'.2.2] using (List.mem_filter.mp hm').2
  have hsat : (call.deleteRows t).run.Sat (gateway env)
      (Contract.alone (fun _ c _ => c.FaultFree) fun _ _ _ => True)
      (fun r w' => r = .ok () ∧ ∀ m' ∈ w'.db.idMappings, ¬ call.Maps t m') w := by
    cases call with
    | identity id | user id =>
        refine Prog.sat_run_orThrow.mpr (Prog.sat_perform.mpr ?_)
        rintro w' rfl c hc
        obtain ⟨hok, hgone⟩ := hdelete w c hc hm
        refine ⟨trivial, ?_, hgone⟩
        exact congrArg (Except.mapError ServiceError.ofDbError) hok
    | application id =>
        refine Prog.sat_run_bind.mpr (Prog.sat_run_attempt.mpr (Prog.sat_perform.mpr ?_))
        rintro w' rfl c _
        refine ⟨trivial, Prog.sat_run_orThrow.mpr (Prog.sat_perform.mpr ?_)⟩
        rintro w' rfl c' hc'
        have hkept : m ∈ (gateway env (.application (.delete t id)) c w).2.db.idMappings := by
          simp only [gateway, applicationHandler]
          rcases Db.write_snd c (w.db.deleteApplication t id) () with h | ⟨db', hdb', h⟩
          · rw [h]
            exact hm
          · rw [h, (Db.deleteApplication_ok hdb').2.1]
            exact hm
        obtain ⟨hok, hgone⟩ := hdelete _ c' hc' hkept
        refine ⟨trivial, ?_, hgone⟩
        exact congrArg (Except.mapError ServiceError.ofDbError) hok
  exact hsat.run_of_choices fun _ n _ => hch n

end calls

/-! ## Attempts -/

/-- The result of an attempt, and the world after it. -/
def DeleteCall.result (env : Env) (ctx : RequestContext) (call : DeleteCall) (ch : ℕ → Choice)
    (w : World) : Except ServiceError Unit × World :=
  (call.prog ctx).run.run (gateway env) ch w

/-- The choices under which the `n`-th request of the `k`-th call fails, and nothing else does. -/
def withFault (ch : ℕ → Choice) (k n : ℕ) (f : Fault) (i : ℕ) : Choice :=
  { ch i with fault := fun j => if i = k ∧ j = n then some f else none }

/-- The choices under which nothing fails. -/
def withoutFaults (ch : ℕ → Choice) (i : ℕ) : Choice := { ch i with fault := fun _ => none }

/-- The object is there: the caller may delete it, and it is mapped and known to the backend. -/
def DeleteCall.Present (ctx : RequestContext) (call : DeleteCall) (w : World) : Prop :=
  ∃ t ∈ (requireTenantScope ctx call.scope).toOption, ∃ m ∈ w.db.idMappings,
    call.Maps t m ∧ (call.objects w).lookup m.oryGlobalId ≠ none

/-- Neither the mapping nor the object it was of is there any more. -/
def DeleteCall.Gone (ctx : RequestContext) (call : DeleteCall) (w w' : World) : Prop :=
  ∀ t ∈ (requireTenantScope ctx call.scope).toOption,
    (∀ m ∈ w'.db.idMappings, ¬ call.Maps t m) ∧
      ∀ m ∈ w.db.idMappings, call.Maps t m → (call.objects w').lookup m.oryGlobalId = none

/-- After a first attempt under `first`, a second one succeeds and leaves nothing. -/
def DeleteCall.Converges (env : Env) (ctx : RequestContext) (call : DeleteCall) (w : World)
    (first second : ℕ → Choice) : Prop :=
  (call.result env ctx second (call.result env ctx first w).2).1 = .ok () ∧
    call.Gone ctx w (call.result env ctx second (call.result env ctx first w).2).2

/-- The failing request comes before the delete at the backend, or is that delete and had no
effect. -/
def DeleteCall.FailsInTime (call : DeleteCall) (w : World) (k n : ℕ) (f : Fault) : Prop :=
  (∃ r ∈ (call.requests w)[k]?, n < r) ∨
    (k = (call.requests w).length ∧ n = 0 ∧ f.applied = false)

section attempts

variable (env : Env) {ctx : RequestContext} {call : DeleteCall} {t : String} {w : World}

theorem result_authorized (ht : requireTenantScope ctx call.scope = .ok t) (ch : ℕ → Choice) :
    call.result env ctx ch w = (call.before t >>= fun o => call.deleteObject o >>= fun _ =>
      call.deleteRows t).run.run (gateway env) ch w := by
  unfold DeleteCall.result
  rw [call.prog_eq, ht]
  rfl

/-- An object that is not there is not deleted. -/
theorem result_absent (ht : requireTenantScope ctx call.scope = .ok t)
    (habsent : ∀ m ∈ w.db.idMappings, call.Maps t m → (call.objects w).lookup m.oryGlobalId = none)
    (ch : ℕ → Choice) :
    ∃ e w', call.result env ctx ch w = (.error e, w') ∧ SameObjects w w' := by
  rw [result_authorized env ht]
  by_cases hmapped : ∃ m ∈ w.db.idMappings, call.Maps t m
  · obtain ⟨m, hm, hmaps⟩ := hmapped
    have hstraight := straight_before env call hm hmaps
    by_cases hgood : ∀ i n, (call.requests w)[i]? = some n → Answered n (ch i)
    · obtain ⟨o, w', -, ⟨rfl, hw'⟩, hrun⟩ := hstraight.run_ok (.refl w) ch hgood
      rw [hrun]
      have hmissing : (call.objects w').lookup m.oryGlobalId = none := by
        rw [hw'.objects]
        exact habsent m hm hmaps
      rcases deleteObject_cases env call m.oryGlobalId _ w' _ with
        ⟨-, e, h⟩ | ⟨hsome, -⟩ | ⟨hsome, -⟩
      · exact ⟨e, w', h, hw'⟩
      · exact absurd hmissing hsome
      · exact absurd hmissing hsome
    · push Not at hgood
      obtain ⟨e, w', hw', hrun⟩ := hstraight.run_error ch hgood
      exact ⟨e, w', hrun _, hw'⟩
  · push Not at hmapped
    obtain ⟨e, hrun⟩ := before_unmapped env hmapped ch _
    exact ⟨e, w, hrun, .refl w⟩

/-- An object that is there is deleted if nothing fails. -/
theorem result_present (ht : requireTenantScope ctx call.scope = .ok t) {m : IdMappingRow}
    (hm : m ∈ w.db.idMappings) (hmaps : call.Maps t m)
    (hpresent : (call.objects w).lookup m.oryGlobalId ≠ none) (ch : ℕ → Choice) :
    (call.result env ctx (withoutFaults ch) w).1 = .ok () ∧
      (∀ m' ∈ (call.result env ctx (withoutFaults ch) w).2.db.idMappings, ¬ call.Maps t m') ∧
      (call.objects (call.result env ctx (withoutFaults ch) w).2).lookup m.oryGlobalId = none := by
  rw [result_authorized env ht]
  obtain ⟨o, w', -, ⟨rfl, hw'⟩, hrun⟩ := (straight_before env call hm hmaps).run_ok (.refl w)
    (withoutFaults ch) fun _ _ _ _ _ => rfl
  rw [hrun]
  rw [← hw'.objects] at hpresent
  rcases deleteObject_cases env call m.oryGlobalId _ w' _ with
    ⟨hnone, -⟩ | ⟨-, -, h⟩ | ⟨-, f, hf, -⟩
  · exact absurd hnone hpresent
  · rw [h]
    have hm' : m ∈ (call.without m.oryGlobalId w').db.idMappings := by
      rw [call.idMappings_without, hw'.idMappings]
      exact hm
    refine ⟨(deleteRows_faultFree env (fun _ _ => rfl) hm' hmaps).1,
      (deleteRows_faultFree env (fun _ _ => rfl) hm' hmaps).2, ?_⟩
    rw [(deleteRows_unmapping env call t _ _).objects]
    exact call.lookup_without m.oryGlobalId w'
  · cases hf

/-- A first attempt leaves the object as it is, or deletes it: it depends on which request fails. -/
theorem result_withFault (ht : requireTenantScope ctx call.scope = .ok t) {m : IdMappingRow}
    (hm : m ∈ w.db.idMappings) (hmaps : call.Maps t m)
    (hpresent : (call.objects w).lookup m.oryGlobalId ≠ none) (ch : ℕ → Choice) (k n : ℕ)
    (f : Fault) :
    (call.FailsInTime w k n f ∧
        SameObjects w (call.result env ctx (withFault ch k n f) w).2) ∨
      (¬ call.FailsInTime w k n f ∧
        (call.objects (call.result env ctx (withFault ch k n f) w).2).lookup m.oryGlobalId = none ∧
        ∀ m' ∈ (call.result env ctx (withFault ch k n f) w).2.db.idMappings,
          m' ∈ w.db.idMappings) := by
  rw [result_authorized env ht]
  have hstraight := straight_before env call hm hmaps
  have hanswered : ∀ i r, Answered r (withFault ch k n f i) ↔ ¬ (i = k ∧ n < r) := by
    intro i r
    unfold Answered withFault
    constructor
    · rintro h ⟨rfl, hr⟩
      simpa using h n hr
    · intro h j hj
      by_cases hik : i = k
      · have hne : j ≠ n := by
          rintro rfl
          exact h ⟨hik, hj⟩
        simp [hne]
      · simp [hik]
  by_cases hhit : ∃ r ∈ (call.requests w)[k]?, n < r
  · obtain ⟨r, hr, hn⟩ := hhit
    obtain ⟨e, w', hw', hrun⟩ := hstraight.run_error (withFault ch k n f)
      ⟨k, r, hr, fun h => (hanswered k r).mp h ⟨rfl, hn⟩⟩
    rw [hrun]
    exact .inl ⟨.inl ⟨r, hr, hn⟩, hw'⟩
  · obtain ⟨o, w', -, ⟨rfl, hw'⟩, hrun⟩ := hstraight.run_ok (.refl w) (withFault ch k n f) fun i r hr =>
      (hanswered i r).mpr fun h => hhit ⟨r, h.1 ▸ hr, h.2⟩
    rw [hrun]
    rw [← hw'.objects] at hpresent
    have hfault : (withFault ch k n f (0 + (call.requests w).length)).fault 0 =
        if (call.requests w).length = k ∧ 0 = n then some f else none := by simp [withFault]
    rcases deleteObject_cases env call m.oryGlobalId
        (fun i => withFault ch k n f (i + (call.requests w).length)) w'
        (fun _ => call.deleteRows t) with
      ⟨hnone, -⟩ | ⟨-, hf, h⟩ | ⟨-, flt, hf, e, h⟩
    · exact absurd hnone hpresent
    · -- the backend has confirmed the delete
      rw [hfault] at hf
      have hrows := deleteRows_unmapping env call t
        (fun i => withFault ch k n f (i + 1 + (call.requests w).length))
        (call.without m.oryGlobalId w')
      rw [h]
      refine .inr ⟨?_, ?_, fun m' hm' => ?_⟩
      · rintro (hin | ⟨hk, hn, -⟩)
        · exact hhit hin
        · rw [if_pos ⟨hk.symm, hn.symm⟩] at hf
          cases hf
      · rw [hrows.objects]
        exact call.lookup_without m.oryGlobalId w'
      · have hm'' := hrows.2.2 m' hm'
        rw [call.idMappings_without, hw'.idMappings] at hm''
        exact hm''
    · rw [hfault] at hf
      rw [h]
      split at hf
      · rename_i hkn
        cases hf
        rcases happlied : f.applied with _ | _
        · exact .inl ⟨.inr ⟨hkn.1.symm, hkn.2.symm, happlied⟩, hw'⟩
        · refine .inr ⟨?_, call.lookup_without m.oryGlobalId w', fun m' hm' => ?_⟩
          · rintro (hin | ⟨-, -, hunapplied⟩)
            · exact hhit hin
            · rw [happlied] at hunapplied
              cases hunapplied
          · simp only [if_true, call.idMappings_without, hw'.idMappings] at hm'
            exact hm'
      · cases hf

/-- **Deletes converge on retry** exactly when the object is there to begin with and the failing
request comes in time: for every state, every request of the first attempt that may fail, with or
without effect, and whatever the environment decides otherwise. -/
theorem retry_converges_iff (env : Env) (ctx : RequestContext) (call : DeleteCall) (w : World)
    (first second : ℕ → Choice) (k n : ℕ) (f : Fault) :
    call.Converges env ctx w (withFault first k n f) (withoutFaults second) ↔
      call.Present ctx w ∧ call.FailsInTime w k n f := by
  unfold DeleteCall.Converges
  rcases ht : requireTenantScope ctx call.scope with e | t
  · refine iff_of_false (fun h => ?_) fun h => ?_
    · have herror : (call.result env ctx (withoutFaults second)
          (call.result env ctx (withFault first k n f) w).2).1 = .error e := by
        unfold DeleteCall.result
        rw [call.prog_eq, ht]
        rfl
      rw [herror] at h
      cases h.1
    · obtain ⟨⟨t, hauth, -⟩, -⟩ := h
      rw [ht] at hauth
      cases hauth
  have hpresent_iff : call.Present ctx w ↔ ∃ m ∈ w.db.idMappings, call.Maps t m ∧
      (call.objects w).lookup m.oryGlobalId ≠ none := by
    unfold DeleteCall.Present
    rw [ht]
    constructor
    · rintro ⟨t', ht', h⟩
      cases ht'
      exact h
    · intro h
      exact ⟨t, rfl, h⟩
  rw [hpresent_iff]
  by_cases hpresent : ∃ m ∈ w.db.idMappings, call.Maps t m ∧
      (call.objects w).lookup m.oryGlobalId ≠ none
  · obtain ⟨m, hm, hmaps, hobject⟩ := hpresent
    -- the mapping of the object is the only one of its public id
    have hsole : ∀ m' ∈ w.db.idMappings, call.Maps t m' → m' = m := fun m' hm' hmaps' =>
      w.db.mapping_unique hm' hm (.inl (hmaps'.2.2.trans hmaps.2.2.symm))
    rcases result_withFault env ht hm hmaps hobject first k n f with
      ⟨hintime, hsame⟩ | ⟨hlate, hgone, hrows⟩
    · have hm₁ := hm
      rw [← hsame.idMappings] at hm₁
      have hobject₁ := hobject
      rw [← hsame.objects] at hobject₁
      obtain ⟨hok, hrows, hgone⟩ := result_present env ht hm₁ hmaps hobject₁ second
      refine iff_of_true ⟨hok, fun t' ht' => ?_⟩ ⟨⟨m, hm, hmaps, hobject⟩, hintime⟩
      rw [ht] at ht'
      cases ht'
      refine ⟨hrows, fun m' hm' hmaps' => ?_⟩
      rw [hsole m' hm' hmaps']
      exact hgone
    · obtain ⟨e, w', hresult, -⟩ := result_absent env ht (fun m' hm' hmaps' => by
        rw [hsole m' (hrows m' hm') hmaps']
        exact hgone) (withoutFaults second)
      rw [hresult]
      refine iff_of_false (fun h => ?_) fun h => hlate h.2
      cases h.1
  · push Not at hpresent
    obtain ⟨e, w₁, hfirst, hsame⟩ := result_absent env ht hpresent (withFault first k n f)
    rw [hfirst]
    rw [← hsame.idMappings, ← hsame.objects] at hpresent
    obtain ⟨e', w₂, hsecond, -⟩ := result_absent env ht hpresent (withoutFaults second)
    rw [hsecond]
    refine iff_of_false (fun h => ?_) fun h => ?_
    · cases h.1
    · obtain ⟨⟨m, hm, hmaps, hobject⟩, -⟩ := h
      rw [← hsame.idMappings] at hm
      rw [← hsame.objects] at hobject
      exact hobject (hpresent m hm hmaps)

end attempts

/-! ## A mapping that stays -/

/-- An admin of a tenant's identities. -/
def acmeIdentityAdmin : RequestContext := ⟨some "acme", some ⟨"acme", "root", .user, ["identity:admin"]⟩⟩

/-- A tenant with one identity, as `createIdentity` leaves it. -/
def oneIdentity : World :=
  ((createIdentity ⟨"default", fun _ => .ok fun _ => .ok ()⟩ acmeIdentityAdmin
    ⟨"", some (.ok (.obj [("email", .str "alice@example.com")])), ""⟩).run.run (gateway .firstRow)
    (fun i => Choice.plain (toString i) 0)
    { World.empty [⟨"acme"⟩] with directory :=
      { Directory.empty with schemas := [⟨"acme", "default", 1, .obj [], true⟩] } }).2

/-- The connection is lost before the request arrives. -/
def connectionLost : Fault := ⟨false, .http "connection closed"⟩

/-- The mapping's delete fails, after Kratos has deleted the identity. -/
def mappingKept : ℕ → Choice := withFault (fun i => Choice.plain (toString i) 0) 2 0 connectionLost

/-- Nothing fails. -/
def nothingFails : ℕ → Choice := withoutFaults fun i => Choice.plain (toString i) 0

/-- The retry stops at Kratos' 404: the mapping of the deleted identity stays. -/
theorem delete_identity_retry_fails :
    (DeleteCall.identity "2").Present acmeIdentityAdmin oneIdentity ∧
    ¬ (DeleteCall.identity "2").Converges .firstRow acmeIdentityAdmin oneIdentity mappingKept
      nothingFails ∧
    (((DeleteCall.identity "2").result .firstRow acmeIdentityAdmin nothingFails
      ((DeleteCall.identity "2").result .firstRow acmeIdentityAdmin mappingKept oneIdentity).2).2.db.idMappings.map
        fun m => m.publicId) = ["2"] := by
  refine ⟨⟨"acme", rfl, ?_⟩, fun h => ?_, by decide⟩
  · decide
  · have hfails : ((DeleteCall.identity "2").result .firstRow acmeIdentityAdmin nothingFails
        ((DeleteCall.identity "2").result .firstRow acmeIdentityAdmin mappingKept oneIdentity).2).1.toOption =
        none := by decide
    rw [h.1] at hfails
    cases hfails

end SsoGateway
