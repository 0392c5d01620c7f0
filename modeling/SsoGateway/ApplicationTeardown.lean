import SsoGateway.AgentLifecycle
import SsoGateway.DcrCalls
import SsoGateway.DeleteRetry
import SsoGateway.SystemPrivilege

/-!
# Two ways to delete a client

An administrator deletes an application; a registered client deletes itself, and what is left of it is
cleaned up from the id Hydra had for it. Both delete the mapping, and the row with it. The second removes
the users' tuples on the application as well; the first does not.

* `CleansUpAlike` — the same rows and tuples after both, and no tuple of a user's after either.
* `sat_deleteApplication_faultless`, `sat_deleteOrphanedClientMapping_faultless` — what is left where
  nothing fails.
* `client_teardown_alike` — when the two clean up alike.
* `deleted_application_keeps_users` — a deleted application, and its user.

Source: `services/application.rs` `delete_application`; `services/handlers/oauth2.rs`
`delete_orphaned_client_mapping`; `services/entitlement.rs` `remove_application`.
-/

namespace SsoGateway

open Lib

/-! ## The two ways -/

/-- The tuple gives a user something on the application, in the store of the tenant that owns it. -/
def DirectUser (m : IdMappingRow) (x : StoredTuple) : Prop :=
  x.tenantId = m.tenantId ∧ x.key.nspace = entitlementNamespace ∧ x.key.object = m.publicId ∧
    subjectSet x.key.subjectId = none

/-- No user has anything on the application. -/
def NoDirectUsers (m : IdMappingRow) (w : World) : Prop := ∀ x ∈ w.tuples, ¬ DirectUser m x

/-- The mappings, the applications and the tuples are the same. -/
structure SameStores (w w' : World) : Prop where
  mappings : w.db.idMappings = w'.db.idMappings
  applications : w.db.applications = w'.db.applications
  tuples : w.tuples = w'.tuples

/-- The deletion by an administrator. -/
def deletedByAdmin (env : Env) (ctx : RequestContext) (m : IdMappingRow) (o : ℕ → Choice) (w : World) :
    Except ServiceError Unit × World := (deleteApplication ctx m.publicId).run.run (gateway env) o w

/-- The clean-up of a client that has deleted itself. -/
def deletedByItself (env : Env) (m : IdMappingRow) (o : ℕ → Choice) (w : World) : Unit × World :=
  (deleteOrphanedClientMapping m.oryGlobalId).run (gateway env) o w

/-- Where nothing fails, both ways leave the same. And whatever fails, no user has anything on the
application after a deletion that succeeds, or a clean-up that deletes the mapping. -/
structure CleansUpAlike (ctx : RequestContext) (m : IdMappingRow) (w : World) : Prop where
  same : ∀ env o o', (∀ n, (o n).FaultFree) → (∀ n, (o' n).FaultFree) →
    SameStores (deletedByAdmin env ctx m o w).2 (deletedByItself env m o' w).2
  byAdmin : ∀ env o, (deletedByAdmin env ctx m o w).1 = .ok () →
    NoDirectUsers m (deletedByAdmin env ctx m o w).2
  byItself : ∀ env o, m ∉ (deletedByItself env m o w).2.db.idMappings →
    NoDirectUsers m (deletedByItself env m o w).2

/-! ## What every run leaves alone -/

section tuples

variable {env : Env} {c : Choice} {w : World}

/-- Only the entitlement service writes tuples. -/
theorem gateway_tuples {op : GatewayOp} (hop : ∀ e, op ≠ .entitlement e) :
    (gateway env op c w).2.tuples = w.tuples := by
  cases op with
  | entitlement e => exact absurd rfl (hop e)
  | listTenants | getOryToken | getOryTokenGlobal => exact (Fault.answer_snd (c.fault 0)).elim (· ▸ rfl) (· ▸ rfl)
  | _ => rfl

/-- A deletion by an administrator leaves the tuples alone. -/
theorem tuples_deletedByAdmin (env : Env) (ctx : RequestContext) (m : IdMappingRow) (o : ℕ → Choice) (w : World) :
    (deletedByAdmin env ctx m o w).2.tuples = w.tuples := by
  have hcalls : (deleteApplication ctx m.publicId).run.Calls fun op : GatewayOp =>
      ∀ e, op ≠ .entitlement e := by
    refine Prog.calls_run_bind trivial fun t => ?_
    refine Prog.calls_run_bind (Prog.calls_run_orThrow (Prog.calls_perform (by simp))) fun oryId => ?_
    refine Prog.calls_run_bind (Prog.calls_run_orThrow (Prog.calls_perform (by simp))) fun _ => ?_
    refine Prog.calls_run_bind (Prog.calls_run_attempt (Prog.calls_perform (by simp))) fun _ => ?_
    exact Prog.calls_run_orThrow (Prog.calls_perform (by simp))
  have hsat : (deleteApplication ctx m.publicId).run.Sat (gateway env)
      (Contract.alone (fun _ _ _ => True) fun _ _ _ => True) (fun _ w' => w'.tuples = w.tuples) w :=
    hcalls.sat (fun _ _ hw hrely => hrely ▸ hw) (fun _ _ _ hop hw _ => ⟨trivial, (gateway_tuples hop).trans hw⟩) rfl
  exact hsat.run_of_choices fun _ _ _ => trivial

/-- A clean-up writes no tuples. -/
theorem tuples_deletedByItself (env : Env) (m : IdMappingRow) (o : ℕ → Choice) (w : World) :
    ∀ x ∈ (deletedByItself env m o w).2.tuples, x ∈ w.tuples := by
  have hcalls : (deleteOrphanedClientMapping m.oryGlobalId).Calls fun op : GatewayOp =>
      ∀ c w, ∀ x ∈ (gateway env op c w).2.tuples, x ∈ w.tuples := by
    refine calls_deleteOrphanedClientMapping (fun op hop c w x hx => ?_) (fun t p c w x hx => ?_)
      (fun t p c w x hx => hx) _
    · rwa [gateway_of_isRead hop.isRead] at hx
    · have hstep := gateway_step env c w (.entitlement (.removeApplication t p))
      generalize (gateway env (.entitlement (.removeApplication t p)) c w).2 = w' at hstep hx
      cases hstep with
      | same => exact hx
      | tuples hop hwrites =>
          cases hop
          obtain ⟨rfl, rfl, -⟩ := hwrites
          rcases mem_applyTuples.mp hx with ⟨-, hwritten⟩ | ⟨hx, -⟩
          · exact absurd hwritten List.not_mem_nil
          · exact hx
      | insertMapping hop | deleteMapping hop | updateTenant hop | insertApplication hop
      | deleteApplication hop | insertAgent hop | deleteAgent hop | directory hop | hydra hop
      | kratos hop => cases hop
  have hsat : (deleteOrphanedClientMapping m.oryGlobalId).Sat (gateway env)
      (Contract.alone (fun _ _ _ => True) fun _ _ _ => True) (fun _ w' => ∀ x ∈ w'.tuples, x ∈ w.tuples) w :=
    hcalls.sat (fun _ _ hw hrely => hrely ▸ hw)
      (fun _ c w' hop hw _ => ⟨trivial, fun x hx => hw x (hop c w' x hx)⟩) fun x hx => hx
  exact hsat.run_of_choices fun _ _ _ => trivial

end tuples

/-! ## Where nothing fails -/

/-- The mapping is gone, and the row with it. -/
structure MappingDeleted (publicId : String) (w w' : World) : Prop where
  mappings : w'.db.idMappings = w.db.idMappings.filter fun m => m.publicId ≠ publicId
  applications : w'.db.applications = w.db.applications.filter fun a => a.publicId ≠ publicId

section faultless

variable {env : Env} {c : Choice} {w : World} {m : IdMappingRow}

/-- The mapping of a row that is there is deleted. -/
theorem gateway_deleteMapping_faultless (hc : c.FaultFree) (hm : m ∈ w.db.idMappings) (hb : m.backend = .hydra) :
    (gateway env (.mapping (.delete m.tenantId .hydra m.publicId)) c w).1 = .ok () ∧
      MappingDeleted m.publicId w (gateway env (.mapping (.delete m.tenantId .hydra m.publicId)) c w).2 := by
  simp only [gateway, mappingHandler, Db.write_faultFree hc]
  cases hdeleted : w.db.deleteMapping m.tenantId .hydra m.publicId with
  | error e =>
      unfold Db.deleteMapping at hdeleted
      rw [if_pos ⟨m, hm, rfl, hb, rfl⟩] at hdeleted
      cases hdeleted
  | ok db' =>
      obtain ⟨-, hmappings, happlications, -⟩ := Db.deleteMapping_ok hdeleted
      exact ⟨rfl, hmappings, happlications⟩

/-- The delete of a row leaves the mappings alone, and at most that row goes. -/
theorem gateway_deleteApplication_rows (env : Env) (c : Choice) (w : World) (t p : String) :
    (gateway env (.application (.delete t p)) c w).2.db.idMappings = w.db.idMappings ∧
      (gateway env (.application (.delete t p)) c w).2.db.applications.filter (fun a => a.publicId ≠ p) =
        w.db.applications.filter fun a => a.publicId ≠ p := by
  simp only [gateway, applicationHandler]
  rcases Db.write_snd c (w.db.deleteApplication t p) () with h | ⟨db', hdb', h⟩
  · rw [h]
    exact ⟨rfl, rfl⟩
  · obtain ⟨happlications, hmappings, -⟩ := Db.deleteApplication_ok hdb'
    rw [h, hmappings, happlications, List.filter_filter]
    simp

/-- **An administrator's deletion** of a client that Hydra has. -/
theorem sat_deleteApplication_faultless {ctx : RequestContext}
    (ht : requireTenantScope ctx scopeApplicationAdmin = .ok m.tenantId) (hm : m ∈ w.db.idMappings)
    (hb : m.backend = .hydra) (hclient : w.hydra.clients.lookup m.oryGlobalId ≠ none) :
    (deleteApplication ctx m.publicId).run.Sat (gateway env) faultless (fun r w' =>
      r = .ok () ∧ MappingDeleted m.publicId w w') w := by
  refine Prog.sat_run_bind.mpr ?_
  rw [ht]
  refine Prog.sat_run_bind.mpr (Prog.sat_run_orThrow.mpr (sat_faultless_perform fun c hc => ?_))
  rcases gateway_getOryId env c w m.tenantId .hydra m.publicId with
    ⟨m', hm', ⟨-, -, hp⟩, h⟩ | ⟨hnone, -⟩ | ⟨e, hfault, -⟩
  · obtain rfl := Db.mapping_unique hm hm' (.inl hp.symm)
    rw [h]
    refine Prog.sat_run_bind.mpr (Prog.sat_run_orThrow.mpr (sat_faultless_perform fun c₁ hc₁ => ?_))
    rcases deletes_deleteOauth2Client env m.publicId m.oryGlobalId c₁ w with
      ⟨hnone, -⟩ | ⟨-, -, hdeleted⟩ | ⟨-, f, hf, -⟩
    · exact absurd hnone hclient
    · rw [hdeleted]
      refine Prog.sat_run_bind.mpr (Prog.sat_run_attempt.mpr (sat_faultless_perform fun c₂ _ => ?_))
      have hdb := DeleteCall.idMappings_without (.application m.publicId) m.oryGlobalId w
      obtain ⟨hmappings, happlications⟩ := gateway_deleteApplication_rows env c₂
        ((DeleteCall.application m.publicId).without m.oryGlobalId w) m.tenantId m.publicId
      rw [hdb] at hmappings happlications
      refine Prog.sat_run_orThrow.mpr (sat_faultless_perform fun c₃ hc₃ => ?_)
      obtain ⟨hok, hgone⟩ := gateway_deleteMapping_faultless hc₃ (hmappings ▸ hm) hb
      refine ⟨congrArg (Except.mapError ServiceError.ofDbError) hok, ?_, ?_⟩
      · rw [hgone.mappings, hmappings]
      · rw [hgone.applications, happlications]
    · rw [hc₁ 0] at hf
      cases hf
  · exact absurd ⟨rfl, hb, rfl⟩ (hnone m hm)
  · simp [hc 0] at hfault

/-- What Hydra does not have is not deleted, and nothing else either. -/
theorem sat_deleteApplication_absent {ctx : RequestContext}
    (ht : requireTenantScope ctx scopeApplicationAdmin = .ok m.tenantId) (hm : m ∈ w.db.idMappings)
    (hclient : w.hydra.clients.lookup m.oryGlobalId = none) :
    (deleteApplication ctx m.publicId).run.Sat (gateway env) faultless (fun _ w' => w' = w) w := by
  refine Prog.sat_run_bind.mpr ?_
  rw [ht]
  refine Prog.sat_run_bind.mpr (Prog.sat_run_orThrow.mpr (sat_faultless_perform fun c hc => ?_))
  rcases gateway_getOryId env c w m.tenantId .hydra m.publicId with
    ⟨m', hm', ⟨-, -, hp⟩, h⟩ | ⟨-, h⟩ | ⟨e, -, h⟩
  · obtain rfl := Db.mapping_unique hm hm' (.inl hp.symm)
    rw [h]
    refine Prog.sat_run_bind.mpr (Prog.sat_run_orThrow.mpr (sat_faultless_perform fun c₁ _ => ?_))
    rcases deletes_deleteOauth2Client env m.publicId m.oryGlobalId c₁ w with
      ⟨-, e, hlost⟩ | ⟨hsome, -⟩ | ⟨hsome, -⟩
    · rw [hlost]
      rfl
    · exact absurd hclient hsome
    · exact absurd hclient hsome
  · rw [h]
    rfl
  · rw [h]
    rfl

end faultless

/-! ### The clean-up -/

section removal

open EntitlementServiceImpl

variable {env : Env} {w : World} {m : IdMappingRow}

/-- The users that are listed are no subject sets. -/
theorem sat_listUsers_plain {depth : ℕ} {ts : List StoredTuple} (t a r : String) :
    (EntitlementServiceImpl.listUsers t a r).run.Sat (permissionHandler depth) (backend fun _ => True) (fun users ts' =>
      ts' = ts ∧ ∀ l, users = .ok l → ∀ s ∈ l, subjectSet s = none) ts := by
  rw [EntitlementServiceImpl.listUsers, Prog.sat_run_orThrow]
  refine sat_backend.mpr ?_
  rintro (_ | f) _
  · refine ⟨rfl, fun l hl s hs => ?_⟩
    obtain rfl := Except.ok.inj hl
    have hplain := (List.mem_filter.mp (List.mem_dedup.mp hs)).2
    exact (of_decide_eq_true hplain).1
  · simp [permissionHandler, answer, Fault.answer, Except.mapError]

/-- Where no user has anything on the application, nothing is removed. -/
theorem tuples_removeApplication (hw : NoDirectUsers m w) (c : Choice) :
    (gateway env (.entitlement (.removeApplication m.tenantId m.publicId)) c w).2 = w := by
  have hkept : ∀ deletes : List RelationTupleKey, (∀ k ∈ deletes, k.nspace = entitlementNamespace ∧
      k.object = m.publicId ∧ subjectSet k.subjectId = none) →
      applyTuples w.tuples m.tenantId [] deletes = w.tuples := by
    intro deletes hdeletes
    refine List.filter_eq_self.mpr fun x hx => decide_eq_true ?_
    rintro ⟨ht, hwritten | hdeleted⟩
    · exact absurd hwritten List.not_mem_nil
    · exact hw x hx ⟨ht, hdeletes _ hdeleted⟩
  have hsat : (removeApplication m.tenantId m.publicId).run.Sat (permissionHandler env.checkDepth)
      (backend fun _ => True) (fun _ ts => ts = w.tuples) w.tuples := by
    rw [removeApplication, Prog.sat_run_bind]
    refine (sat_listUsers_plain _ _ _).post fun users ts husers => ?_
    obtain ⟨rfl, husers⟩ := husers
    cases users with
    | error e => exact rfl
    | ok users =>
    refine Prog.sat_run_bind.mpr ((sat_listUsers_plain _ _ _).post fun admins ts hadmins => ?_)
    obtain ⟨rfl, hadmins⟩ := hadmins
    cases admins with
    | error e => exact rfl
    | ok admins =>
    have hsame := hkept (((users ++ admins).flatMap fun subject => [entitlementKey m.publicId memberRel subject,
      entitlementKey m.publicId adminRel subject]).mergeSort keyLe).dedup (by
        intro k hk
        obtain ⟨subject, hsubject, hk⟩ := List.mem_flatMap.mp (List.mem_mergeSort.mp (List.mem_dedup.mp hk))
        have hplain : subjectSet subject = none :=
          (List.mem_append.mp hsubject).elim (husers users rfl subject) (hadmins admins rfl subject)
        rcases List.mem_cons.mp hk with rfl | hk
        · exact ⟨rfl, rfl, hplain⟩
        · rw [List.mem_singleton.mp hk]
          exact ⟨rfl, rfl, hplain⟩)
    exact sat_ensureTuples hsame fun _ _ => ⟨rfl, hsame⟩
  have htuples : (entitlementHandler env (.removeApplication m.tenantId m.publicId) c w.tuples).2 = w.tuples :=
    entitlementHandler_of_sat env c w.tuples (.removeApplication m.tenantId m.publicId)
      (A := fun _ => True) (Q := fun _ ts => ts = w.tuples) (fun _ => trivial) hsat
  show ({ w with tuples := (entitlementHandler env _ c w.tuples).2 } : World) = w
  rw [htuples]

/-- The removal of entitlements touches nothing but tuples, and none where no user has anything. -/
theorem sat_removeEntitlements (m : IdMappingRow) :
    (removeEntitlements m.tenantId m.publicId).Sat (gateway env) faultless (fun _ w' => w'.db = w.db ∧
      (NoDirectUsers m w → w'.tuples = w.tuples)) w := by
  refine Prog.sat_bind.mpr (sat_faultless_perform fun c _ => ?_)
  have hop : GatewayOp.IsRead (.application (.get m.tenantId m.publicId)) := trivial
  rw [gateway_of_isRead hop]
  cases (gateway env (.application (.get m.tenantId m.publicId)) c w).1 with
  | error e => exact ⟨rfl, fun _ => rfl⟩
  | ok row =>
  refine Prog.sat_bind.mpr (sat_faultless_perform fun c₁ _ => ⟨rfl, fun hw => ?_⟩)
  exact congrArg World.tuples (tuples_removeApplication hw c₁)

/-- **The clean-up** deletes the mapping that the lookups by Hydra's id find. -/
theorem sat_deleteOrphanedClientMapping_faultless (hm : m ∈ w.db.idMappings) (hb : m.backend = .hydra)
    {oryId : String} (hpick : ∀ q, env.pick q (w.db.rowsOf .hydra oryId) = some m) :
    (deleteOrphanedClientMapping oryId).Sat (gateway env) faultless (fun _ w' =>
      MappingDeleted m.publicId w w' ∧ (NoDirectUsers m w → w'.tuples = w.tuples)) w := by
  refine Prog.sat_bind.mpr (sat_faultless_perform fun c hc => ?_)
  have htenant : gateway env (.mapping (.getTenantIdByOryId .hydra oryId)) c w = (.ok (some m.tenantId), w) := by
    simp [gateway, mappingHandler, Db.read, hc 0, hpick]
  rw [htenant]
  refine Prog.sat_bind.mpr (sat_faultless_perform fun c₁ hc₁ => ?_)
  have hpublic : gateway env (.mapping (.getPublicIdByOryId .hydra oryId)) c₁ w = (.ok m.publicId, w) := by
    simp [gateway, mappingHandler, Db.read, hc₁ 0, hpick, orNotFound]
  rw [hpublic]
  refine Prog.sat_bind.mpr ((sat_removeEntitlements m).post fun _ w₁ h₁ => ?_)
  obtain ⟨hdb, htuples⟩ := h₁
  refine Prog.sat_bind.mpr (sat_faultless_perform fun c₂ hc₂ => ?_)
  obtain ⟨-, hgone⟩ := gateway_deleteMapping_faultless hc₂ (hdb ▸ hm) hb
  refine ⟨⟨?_, ?_⟩, htuples⟩
  · rw [hgone.mappings, hdb]
  · rw [hgone.applications, hdb]

end removal

/-! ## Both -/

section teardown

variable {ctx : RequestContext} {m : IdMappingRow} {w : World}

theorem MappingDeleted.not_mem {w' : World} (h : MappingDeleted m.publicId w w') : m ∉ w'.db.idMappings := by
  rw [h.mappings]
  simp

theorem MappingDeleted.mem {p : String} {w' : World} (h : MappingDeleted p w w') (hm : m ∈ w.db.idMappings)
    (hne : m.publicId ≠ p) : m ∈ w'.db.idMappings := by
  rw [h.mappings]
  exact List.mem_filter.mpr ⟨hm, decide_eq_true hne⟩

/-- The result of an administrator's deletion, where nothing fails. -/
theorem deletedByAdmin_faultless (ht : requireTenantScope ctx scopeApplicationAdmin = .ok m.tenantId)
    (hm : m ∈ w.db.idMappings) (hb : m.backend = .hydra) (hclient : w.hydra.clients.lookup m.oryGlobalId ≠ none)
    (env : Env) {o : ℕ → Choice} (ho : ∀ n, (o n).FaultFree) :
    (deletedByAdmin env ctx m o w).1 = .ok () ∧ MappingDeleted m.publicId w (deletedByAdmin env ctx m o w).2 :=
  (sat_deleteApplication_faultless ht hm hb hclient).run_of_choices fun _ n _ => ho n

/-- The result of a clean-up, where nothing fails and the lookups find the row `m'`. -/
theorem deletedByItself_faultless {m' : IdMappingRow} (hm' : m' ∈ w.db.idMappings) (hb : m'.backend = .hydra)
    {env : Env} (hpick : ∀ q, env.pick q (w.db.rowsOf .hydra m.oryGlobalId) = some m') {o : ℕ → Choice}
    (ho : ∀ n, (o n).FaultFree) :
    MappingDeleted m'.publicId w (deletedByItself env m o w).2 ∧
      (NoDirectUsers m' w → (deletedByItself env m o w).2.tuples = w.tuples) :=
  (sat_deleteOrphanedClientMapping_faultless hm' hb hpick).run_of_choices fun _ n _ => ho n

end teardown

/-- **Both ways clean up alike** just if Hydra has the client, its id is mapped once, and no user has
anything on the application to begin with. -/
theorem client_teardown_alike (ctx : RequestContext) (m : IdMappingRow) (w : World)
    (ht : requireTenantScope ctx scopeApplicationAdmin = .ok m.tenantId) (hm : m ∈ w.db.idMappings)
    (hb : m.backend = .hydra) :
    CleansUpAlike ctx m w ↔ w.hydra.clients.lookup m.oryGlobalId ≠ none ∧
      (∀ m' ∈ w.db.rowsOf .hydra m.oryGlobalId, m' = m) ∧ NoDirectUsers m w := by
  have hrow : m ∈ w.db.rowsOf .hydra m.oryGlobalId := Db.mem_rowsOf.mpr ⟨hm, hb, rfl⟩
  constructor
  · intro h
    have hclient : w.hydra.clients.lookup m.oryGlobalId ≠ none := by
      -- an administrator's deletion keeps the mapping of what Hydra does not have
      intro hnone
      have hsame := (h.same (rowFirst m) smoothly smoothly smoothly_faultFree smoothly_faultFree).mappings
      have hkept : (deletedByAdmin (rowFirst m) ctx m smoothly w).2 = w :=
        (sat_deleteApplication_absent ht hm hnone).run_of_choices fun _ n _ => smoothly_faultFree n
      obtain ⟨hgone, -⟩ := deletedByItself_faultless (m := m) hm hb (fun q => pick_rowFirst hrow q)
        smoothly_faultFree
      apply hgone.not_mem
      rw [← hsame, hkept]
      exact hm
    refine ⟨hclient, fun m' hm' => ?_, ?_⟩
    · -- the clean-up deletes the row its lookups find
      by_contra hne
      obtain ⟨hmem, hb', -⟩ := Db.mem_rowsOf.mp hm'
      have hsame := (h.same (rowFirst m') smoothly smoothly smoothly_faultFree smoothly_faultFree).mappings
      obtain ⟨-, hgone⟩ := deletedByAdmin_faultless ht hm hb hclient (rowFirst m') smoothly_faultFree
      obtain ⟨hother, -⟩ := deletedByItself_faultless (m := m) hmem hb' (fun q => pick_rowFirst hm' q)
        smoothly_faultFree
      apply hgone.not_mem
      rw [hsame]
      refine hother.mem hm fun hp => ?_
      exact hne (Db.mapping_unique hmem hm (.inl hp.symm))
    · obtain ⟨hok, -⟩ := deletedByAdmin_faultless ht hm hb hclient .firstRow smoothly_faultFree
      have hnone := h.byAdmin .firstRow smoothly hok
      unfold NoDirectUsers at hnone ⊢
      rwa [tuples_deletedByAdmin] at hnone
  · rintro ⟨hclient, hsole, hnone⟩
    refine ⟨fun env o o' ho ho' => ?_, fun env o _ => ?_, fun env o _ x hx => ?_⟩
    · have hpick : ∀ q, env.pick q (w.db.rowsOf .hydra m.oryGlobalId) = some m := by
        intro q
        cases hfound : env.pick q (w.db.rowsOf .hydra m.oryGlobalId) with
        | none => exact absurd (Env.pick_eq_none.mp hfound) (List.ne_nil_of_mem hrow)
        | some m' => exact congrArg some (hsole m' (Env.mem_of_pick hfound))
      obtain ⟨-, hgone⟩ := deletedByAdmin_faultless ht hm hb hclient env ho
      obtain ⟨hgone', htuples⟩ := deletedByItself_faultless hm hb hpick ho'
      refine ⟨?_, ?_, ?_⟩
      · rw [hgone.mappings, hgone'.mappings]
      · rw [hgone.applications, hgone'.applications]
      · rw [tuples_deletedByAdmin, htuples hnone]
    · unfold NoDirectUsers
      rw [tuples_deletedByAdmin]
      exact hnone
    · exact hnone x (tuples_deletedByItself env m o w x hx)

/-! ## An application with a user -/

/-- The application `robot` of acme's, with its client and these tuples. -/
def robotApplication (tuples : List StoredTuple) : World :=
  { flaggedWorld.agents.base with
    tuples := tuples
    hydra := ⟨[("robot-client", .obj [("client_id", .str "robot-client")])], [], []⟩ }

/-- Its mapping. -/
def robotMapping : IdMappingRow := ⟨"acme", .hydra, "robot", "robot-client", 0⟩

/-- An administrator of acme's. -/
def acmeApplicationAdmin : RequestContext := ⟨some "acme", some ⟨"acme", "root", .user, [scopeApplicationAdmin]⟩⟩

/-- Alice is a member of the application. -/
def aliceUsesRobot : StoredTuple := ⟨"acme", entitlementKey "robot" memberRel "alice"⟩

/-- An application that nobody uses is cleaned up alike. -/
theorem client_teardown_alike_unused : CleansUpAlike acmeApplicationAdmin robotMapping (robotApplication []) := by
  refine (client_teardown_alike acmeApplicationAdmin robotMapping (robotApplication []) rfl
    (by decide) rfl).mpr ⟨by simp [robotApplication, robotMapping], ?_, ?_⟩
  · intro m' hm'
    exact List.mem_singleton.mp (Db.mem_rowsOf.mp hm').1
  · exact fun x hx => absurd hx List.not_mem_nil

/-- The deletion by an administrator succeeds, and mapping and row are gone, but Alice is still a member. -/
theorem deleted_application_keeps_users :
    (deletedByAdmin .firstRow acmeApplicationAdmin robotMapping smoothly (robotApplication [aliceUsesRobot])).1 =
        .ok () ∧
      (deletedByAdmin .firstRow acmeApplicationAdmin robotMapping smoothly
        (robotApplication [aliceUsesRobot])).2.db.applications = [] ∧
      (deletedByAdmin .firstRow acmeApplicationAdmin robotMapping smoothly
        (robotApplication [aliceUsesRobot])).2.tuples = [aliceUsesRobot] ∧
      ¬ CleansUpAlike acmeApplicationAdmin robotMapping (robotApplication [aliceUsesRobot]) := by
  refine ⟨rfl, rfl, rfl, fun h => ?_⟩
  refine h.byAdmin .firstRow smoothly rfl aliceUsesRobot ?_ ⟨rfl, rfl, rfl, by decide⟩
  exact List.mem_singleton.mpr rfl

end SsoGateway
