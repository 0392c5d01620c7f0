import SsoGateway.Gates
import SsoGateway.Lib.History

/-!
# First consent wins

Several users, each of a tenant of their own, give their first consent to one provisional client at
the same time. The gate claims the client in separate statements — re-home the mapping, insert the
row, grant the user — and every other call may come between two of them.

* `claimant` — what one such gate relies on, assumes and guarantees.
* `ClaimAllowed` — a re-home meets no row, and a new row meets a mapping of its own tenant.
* `consents_consistent` — if every step meets that condition, then as soon as two of the calls have
  returned, the client has one row, its mapping is in the row's tenant, and only there were users
  granted.
* `consents_split` — an interleaving that does not: mapping and row end up in different tenants.
-/

namespace SsoGateway

open Lib

/-- The gateway's calls, made by one of several programs. -/
def shared (ι : Type) (env : Env) : Handler Gateway (ι × Choice) World :=
  fun op ic w => gateway env op ic.2 w

/-! ## The claimed client -/

/-- The client has a row, in that tenant. -/
def RowIn (publicId tenantId : String) (w : World) : Prop :=
  ∃ a ∈ w.db.applications, a.publicId = publicId ∧ a.tenantId = tenantId

/-- The client's mapping is in that tenant. -/
def OwnedBy (publicId tenantId : String) (w : World) : Prop :=
  ∃ m ∈ w.db.idMappings, m.publicId = publicId ∧ m.tenantId = tenantId

instance (publicId tenantId : String) (w : World) : Decidable (OwnedBy publicId tenantId w) :=
  inferInstanceAs (Decidable (∃ m ∈ w.db.idMappings, _))

/-- The client, mapped once, as the claims have left it: its row is where its mapping is, and tuples
that were not there at the beginning are on the client and in the tenant of its row. -/
structure Consistent {ι : Type} (tenantOf : ι → String) (before : List StoredTuple)
    (publicId cid : String) (w : World) : Prop where
  mapped : ∃ m ∈ w.db.idMappings, m.backend = .hydra ∧ m.publicId = publicId ∧ m.oryGlobalId = cid
  once : ∀ m ∈ w.db.idMappings, m.backend = .hydra → m.oryGlobalId = cid → m.publicId = publicId
  tenants : ∀ i, w.db.HasTenant (tenantOf i)
  row : ∀ a ∈ w.db.applications, a.publicId = publicId → OwnedBy publicId a.tenantId w
  granted : ∀ x ∈ w.tuples, x ∉ before → x.key.object = publicId ∧ RowIn publicId x.tenantId w

/-- The condition on a step: the client is re-homed only while it has no row, and a first row is
inserted only for the tenant of the mapping. -/
def ClaimAllowed (publicId : String) : GatewayOp → World → Prop
  | .mapping (.updateTenant _ p _), w => p = publicId → ∀ a ∈ w.db.applications, a.publicId ≠ p
  | .application (.create t p _ _), w => p = publicId →
      OwnedBy p t w ∨ ∃ a ∈ w.db.applications, a.publicId = p
  | _, _ => True

instance (publicId : String) (op : GatewayOp) (w : World) :
    Decidable (ClaimAllowed publicId op w) := by
  unfold ClaimAllowed
  induction op using GatewayOp.casesOn with
  | mapping op => induction op using MappingOp.casesOn <;> exact inferInstance
  | application op => induction op using ApplicationOp.casesOn <;> exact inferInstance
  | _ => exact inferInstance

/-- The calls of a claim: the three writes, and calls that change nothing; the grant comes when the
row is the tenant's. -/
def ClaimCall (tenantId subject publicId : String) : GatewayOp → World → Prop
  | .mapping (.updateTenant .hydra p t), _ => p = publicId ∧ t = tenantId
  | .application (.create t p _ _), _ => t = tenantId ∧ p = publicId
  | .entitlement (.grant t i p _), w =>
      t = tenantId ∧ i = subject ∧ p = publicId ∧ RowIn publicId tenantId w
  | op, _ => op.IsInert

/-! ## One step -/

section step

variable {ι : Type} {env : Env} {tenantOf : ι → String} {before : List StoredTuple}
  {publicId cid : String}

/-- Re-homing a client without a row. -/
theorem Consistent.updateTenant {w : World} {t : String} {db' : Db}
    (h : Consistent tenantOf before publicId cid w)
    (hfree : ∀ a ∈ w.db.applications, a.publicId ≠ publicId)
    (hdb : w.db.updateTenant .hydra publicId t = .ok db') :
    Consistent tenantOf before publicId cid { w with db := db' } := by
  obtain ⟨-, hrows, happs, -, htenants, -⟩ := Db.updateTenant_ok hdb
  have hkept : ∀ m : IdMappingRow, (Db.rehome .hydra publicId t m).backend = m.backend ∧
      (Db.rehome .hydra publicId t m).oryGlobalId = m.oryGlobalId := by
    intro m
    unfold Db.rehome
    split <;> exact ⟨rfl, rfl⟩
  refine ⟨?_, ?_, ?_, ?_, ?_⟩
  · obtain ⟨m, hm, hb, hp, hi⟩ := h.mapped
    refine ⟨Db.rehome .hydra publicId t m, ?_, (hkept m).1.trans hb, ?_, (hkept m).2.trans hi⟩
    · rw [hrows]
      exact List.mem_map_of_mem hm
    · rw [Db.rehome_publicId, hp]
  · intro m' hm' hb hi
    rw [hrows] at hm'
    obtain ⟨m, hm, rfl⟩ := List.mem_map.mp hm'
    rw [Db.rehome_publicId]
    exact h.once m hm ((hkept m).1.symm.trans hb) ((hkept m).2.symm.trans hi)
  · intro i
    unfold Db.HasTenant
    rw [htenants]
    exact h.tenants i
  · intro a ha hp
    rw [happs] at ha
    exact absurd hp (hfree a ha)
  · intro x hx hnew
    obtain ⟨-, a, ha, hp, -⟩ := h.granted x hx hnew
    exact absurd hp (hfree a ha)

/-- Inserting the client's first row for the tenant of its mapping. -/
theorem Consistent.insertApplication {w : World} {t : String} {flag : Bool}
    {source : RegistrationSource} {db' : Db} (h : Consistent tenantOf before publicId cid w)
    (howner : OwnedBy publicId t w ∨ ∃ a ∈ w.db.applications, a.publicId = publicId)
    (hdb : w.db.insertApplication ⟨t, publicId, flag, source⟩ = .ok db') :
    Consistent tenantOf before publicId cid { w with db := db' } := by
  obtain ⟨happs, hrows, -, htenants, hnew⟩ := Db.insertApplication_ok hdb
  have howner : OwnedBy publicId t w := by
    rcases howner with h | ⟨a, ha, hp⟩
    · exact h
    · exact absurd hp.symm (hnew a ha)
  have hsame : ∀ t', OwnedBy publicId t' w → OwnedBy publicId t' { w with db := db' } := by
    rintro t' ⟨m, hm, hp, ht⟩
    exact ⟨m, by rw [hrows]; exact hm, hp, ht⟩
  refine ⟨?_, ?_, ?_, ?_, ?_⟩
  · rw [hrows]
    exact h.mapped
  · rw [hrows]
    exact h.once
  · intro i
    unfold Db.HasTenant
    rw [htenants]
    exact h.tenants i
  · intro a ha hp
    rw [happs] at ha
    rcases List.mem_cons.mp ha with rfl | ha
    · exact hsame t howner
    · exact hsame _ (h.row a ha hp)
  · intro x hx hx'
    obtain ⟨hobj, a, ha, hp, ht⟩ := h.granted x hx hx'
    exact ⟨hobj, a, by rw [happs]; exact List.mem_cons_of_mem _ ha, hp, ht⟩

/-- The calls of a claim, listed. -/
theorem ClaimCall.cases {tenantId subject publicId : String} {op : GatewayOp} {w : World}
    (h : ClaimCall tenantId subject publicId op w) :
    op = .mapping (.updateTenant .hydra publicId tenantId) ∨
      (∃ flag source, op = .application (.create tenantId publicId flag source)) ∨
      (∃ level, op = .entitlement (.grant tenantId subject publicId level) ∧
        RowIn publicId tenantId w) ∨ op.IsInert := by
  unfold ClaimCall at h
  split at h
  · obtain ⟨rfl, rfl⟩ := h
    exact .inl rfl
  · obtain ⟨rfl, rfl⟩ := h
    exact .inr (.inl ⟨_, _, rfl⟩)
  · obtain ⟨rfl, rfl, rfl, hrow⟩ := h
    exact .inr (.inr (.inl ⟨_, rfl, hrow⟩))
  · exact .inr (.inr (.inr h))

theorem claimCall_of_isInert {tenantId subject publicId : String} {op : GatewayOp} {w : World}
    (hop : op.IsInert) : ClaimCall tenantId subject publicId op w := by
  unfold ClaimCall
  split
  · exact hop.elim
  · exact hop.elim
  · exact hop.elim
  · exact hop

variable (env) in
/-- **One step of a claim** keeps the client consistent, its row in place, and gives its mapping to
no tenant but the claimant's. -/
theorem claim_step {tenantId subject : String} {op : GatewayOp} {w : World}
    (hcons : Consistent tenantOf before publicId cid w) (hallowed : ClaimAllowed publicId op w)
    (hcall : ClaimCall tenantId subject publicId op w) (c : Choice) :
    Consistent tenantOf before publicId cid (gateway env op c w).2 ∧
      (∀ t, RowIn publicId t w → RowIn publicId t (gateway env op c w).2) ∧
      ∀ t, t ≠ tenantId → ¬ OwnedBy publicId t w → ¬ OwnedBy publicId t (gateway env op c w).2 := by
  rcases hcall.cases with rfl | ⟨flag, source, rfl⟩ | ⟨level, rfl, hrow⟩ | hinert
  · have hstep := gateway_step env c w (.mapping (.updateTenant .hydra publicId tenantId))
    generalize (gateway env (.mapping (.updateTenant .hydra publicId tenantId)) c w).2 = w' at hstep ⊢
    cases hstep with
    | same => exact ⟨hcons, fun _ h => h, fun _ _ h => h⟩
    | updateTenant hop hdb =>
        cases hop
        obtain ⟨-, hrows, happs, -⟩ := Db.updateTenant_ok hdb
        refine ⟨hcons.updateTenant (hallowed rfl) hdb, ?_, ?_⟩
        · rintro t ⟨a, ha, h⟩
          exact ⟨a, by rw [happs]; exact ha, h⟩
        · rintro t ht hnot ⟨m', hm', hp, hmt⟩
          rw [hrows] at hm'
          obtain ⟨m, hm, rfl⟩ := List.mem_map.mp hm'
          rw [Db.rehome_publicId] at hp
          unfold Db.rehome at hmt
          split at hmt
          · exact ht hmt.symm
          · exact hnot ⟨m, hm, hp, hmt⟩
    | _ hop => cases hop
  · have hstep := gateway_step env c w (.application (.create tenantId publicId flag source))
    generalize (gateway env (.application (.create tenantId publicId flag source)) c w).2 = w'
      at hstep ⊢
    cases hstep with
    | same => exact ⟨hcons, fun _ h => h, fun _ _ h => h⟩
    | insertApplication hop hdb =>
        cases hop
        obtain ⟨happs, hrows, -⟩ := Db.insertApplication_ok hdb
        refine ⟨hcons.insertApplication (hallowed rfl) hdb, ?_, ?_⟩
        · rintro t ⟨a, ha, h⟩
          exact ⟨a, by rw [happs]; exact List.mem_cons_of_mem _ ha, h⟩
        · rintro t - hnot ⟨m, hm, h⟩
          rw [hrows] at hm
          exact hnot ⟨m, hm, h⟩
    | _ hop => cases hop
  · have hstep := gateway_step env c w (.entitlement (.grant tenantId subject publicId level))
    generalize (gateway env (.entitlement (.grant tenantId subject publicId level)) c w).2 = w'
      at hstep ⊢
    cases hstep with
    | same => exact ⟨hcons, fun _ h => h, fun _ _ h => h⟩
    | tuples hop hwrites =>
        cases hop
        obtain ⟨rfl, rfl, rfl⟩ := hwrites
        refine ⟨⟨hcons.mapped, hcons.once, hcons.tenants, hcons.row, ?_⟩, fun _ h => h,
          fun _ _ h => h⟩
        intro x hx hnew
        rcases mem_applyTuples.mp hx with ⟨ht, hkey⟩ | ⟨hx, -⟩
        · rw [List.mem_singleton.mp hkey, ht]
          exact ⟨rfl, hrow⟩
        · exact hcons.granted x hx hnew
    | _ hop => cases hop
  · rw [gateway_of_isInert hinert]
    exact ⟨hcons, fun _ h => h, fun _ _ h => h⟩

end step

/-! ## One claimant among others -/

section claimant

variable {ι : Type} (env : Env) (tenantOf subject : ι → String) (before : List StoredTuple)
  (publicId cid : String)

/-- The contract of a first consent by user `j`: the others keep the client consistent and its row
in place, and do not give its mapping to the tenant of `j`. -/
def claimant (j : ι) : Contract Gateway (ι × Choice) World where
  rely w w' := Consistent tenantOf before publicId cid w →
    Consistent tenantOf before publicId cid w' ∧ (∀ t, RowIn publicId t w → RowIn publicId t w') ∧
      (¬ OwnedBy publicId (tenantOf j) w → ¬ OwnedBy publicId (tenantOf j) w')
  assume op ic w := ic.2.FaultFree ∧ ClaimAllowed publicId op w
  guar op _ w := ClaimCall (tenantOf j) (subject j) publicId op w

theorem claimant_rely_trans (j : ι) (w₁ w₂ w₃ : World)
    (h₁ : (claimant tenantOf subject before publicId cid j).rely w₁ w₂)
    (h₂ : (claimant tenantOf subject before publicId cid j).rely w₂ w₃) :
    (claimant tenantOf subject before publicId cid j).rely w₁ w₃ := by
  intro hcons
  obtain ⟨hcons₂, hrow₂, hown₂⟩ := h₁ hcons
  obtain ⟨hcons₃, hrow₃, hown₃⟩ := h₂ hcons₂
  exact ⟨hcons₃, fun t h => hrow₃ t (hrow₂ t h), fun h => hown₃ (hown₂ h)⟩

variable {env tenantOf subject before publicId cid} {j : ι}

/-- A lookup by a claimant: the answer is that of a world in which what is stable still holds. -/
theorem sat_claimant_lookup {op : GatewayOp} (hop : op.IsRead) {I : World → Prop}
    (hI : ∀ w w', (claimant tenantOf subject before publicId cid j).rely w w' → I w → I w')
    {Q : op.Res → World → Prop}
    (hQ : ∀ w c, c.FaultFree → I w → Q (gateway env op c w).1 w) {w : World} (hw : I w) :
    (Prog.perform (S := Gateway) op).Sat (shared ι env)
      (claimant tenantOf subject before publicId cid j) Q w := by
  rintro w' hrely ⟨i, c⟩ ⟨hfree, -⟩
  constructor
  · exact claimCall_of_isInert hop.isInert
  · have hread := gateway_of_isRead hop env c w'
    show Q (gateway env op c w').1 (gateway env op c w').2
    rw [hread]
    exact hQ w' c hfree (hI w w' hrely hw)

/-- A write by a claimant. -/
theorem sat_claimant_write {op : GatewayOp} {Q : op.Res → World → Prop} {w : World}
    (h : ∀ w', (claimant tenantOf subject before publicId cid j).rely w w' → ∀ c, c.FaultFree →
      ClaimAllowed publicId op w' → ClaimCall (tenantOf j) (subject j) publicId op w' ∧
        Q (gateway env op c w').1 (gateway env op c w').2) :
    (Prog.perform (S := Gateway) op).Sat (shared ι env)
      (claimant tenantOf subject before publicId cid j) Q w :=
  fun w' hrely ic hassume => h w' hrely ic.2 hassume.1 hassume.2

/-- The client is consistent and not the tenant's yet, unless it has been from the beginning. -/
def Unclaimed (tenantOf : ι → String) (before : List StoredTuple) (publicId cid system : String)
    (j : ι) (w : World) : Prop :=
  Consistent tenantOf before publicId cid w ∧
    (tenantOf j = system ∨ ¬ OwnedBy publicId (tenantOf j) w)

theorem unclaimed_stable {system : String} {w w' : World}
    (hrely : (claimant tenantOf subject before publicId cid j).rely w w')
    (h : Unclaimed tenantOf before publicId cid system j w) :
    Unclaimed tenantOf before publicId cid system j w' := by
  obtain ⟨hcons, hown⟩ := h
  obtain ⟨hcons', -, hown'⟩ := hrely hcons
  exact ⟨hcons', hown.imp_right hown'⟩

/-- The client is consistent and has a row. -/
def Rowed (tenantOf : ι → String) (before : List StoredTuple) (publicId cid : String) (w : World) :
    Prop :=
  Consistent tenantOf before publicId cid w ∧ ∃ t, RowIn publicId t w

theorem rowed_stable {w w' : World}
    (hrely : (claimant tenantOf subject before publicId cid j).rely w w')
    (h : Rowed tenantOf before publicId cid w) : Rowed tenantOf before publicId cid w' := by
  obtain ⟨hcons, t, hrow⟩ := h
  obtain ⟨hcons', hrow', -⟩ := hrely hcons
  exact ⟨hcons', t, hrow' t hrow⟩

/-- What the resolution tells a claimant. -/
def Claims (tenantOf : ι → String) (before : List StoredTuple) (publicId cid system : String)
    (j : ι) (w : World) : ClientEntitlement → Prop
  | .unmapped => False
  | .localClient p _ => p = publicId ∧ Rowed tenantOf before publicId cid w
  | .crossTenantOwned p _ _ => p = publicId ∧ Rowed tenantOf before publicId cid w
  | .provisional p owner => p = publicId ∧ Consistent tenantOf before publicId cid w ∧
      ((owner = tenantOf j ∧ tenantOf j = system) ∨
        (owner ≠ tenantOf j ∧ ¬ OwnedBy publicId (tenantOf j) w))

theorem sat_claimant_classifyOwned {system owner : String} {w : World}
    (hcons : Consistent tenantOf before publicId cid w)
    (howner : (owner = tenantOf j ∧ tenantOf j = system) ∨
      (owner ≠ tenantOf j ∧ ¬ OwnedBy publicId (tenantOf j) w)) :
    (classifyOwned (tenantOf j) owner publicId).Sat (shared ι env)
      (claimant tenantOf subject before publicId cid j)
      (fun r w => ∃ res, r = .ok res ∧ Claims tenantOf before publicId cid system j w res) w := by
  unfold classifyOwned
  rw [Prog.sat_bind]
  refine sat_claimant_lookup (by exact trivial)
    (I := fun w => Consistent tenantOf before publicId cid w ∧
      ((owner = tenantOf j ∧ tenantOf j = system) ∨
        (owner ≠ tenantOf j ∧ ¬ OwnedBy publicId (tenantOf j) w))) ?_ ?_ ⟨hcons, howner⟩
  · rintro w w' hrely ⟨hcons, howner⟩
    obtain ⟨hcons', -, hown'⟩ := hrely hcons
    exact ⟨hcons', howner.imp_right fun h => ⟨h.1, hown' h.2⟩⟩
  · rintro w c hfree ⟨hcons, howner⟩
    rcases gateway_getByPublicId env c w publicId with ⟨a, ha, hp, h⟩ | ⟨-, h⟩ | ⟨e, hfault, -⟩
    · have hrowed : Rowed tenantOf before publicId cid w := ⟨hcons, a.tenantId, a, ha, hp, rfl⟩
      rw [h]
      simp only [id, Prog.sat_ite]
      split
      · exact ⟨_, rfl, rfl, hrowed⟩
      · exact ⟨_, rfl, rfl, hrowed⟩
    · rw [h]
      exact ⟨_, rfl, rfl, hcons, howner⟩
    · rw [hfree 0] at hfault
      cases hfault

/-- The resolution of a client that is mapped once. -/
theorem sat_claimant_resolve {system : String} {w : World}
    (hw : Unclaimed tenantOf before publicId cid system j w) :
    (resolveClientEntitlement (tenantOf j) cid).Sat (shared ι env)
      (claimant tenantOf subject before publicId cid j)
      (fun r w => ∃ res, r = .ok res ∧ Claims tenantOf before publicId cid system j w res) w := by
  unfold resolveClientEntitlement
  rw [Prog.sat_bind]
  refine sat_claimant_lookup (by exact trivial) (fun w w' => unclaimed_stable) ?_ hw
  rintro w c hfree ⟨hcons, hown⟩
  rcases gateway_getPublicId env c w (tenantOf j) .hydra cid with
    ⟨m, hm, ⟨ht, hb, hi⟩, h⟩ | ⟨hnone, h⟩ | ⟨e, hfault, -⟩
  · -- the tenant's own from the beginning
    rw [h]
    have hp := hcons.once m hm hb hi
    rcases hown with hsys | hnot
    · simp only [hp]
      exact sat_claimant_classifyOwned hcons (.inl ⟨rfl, hsys⟩)
    · exact absurd ⟨m, hm, hp, ht⟩ hnot
  · rw [h]
    have hnot : ¬ OwnedBy publicId (tenantOf j) w := by
      rintro ⟨m, hm, hp, ht⟩
      obtain ⟨m', hm', hb, hp', hi⟩ := hcons.mapped
      have hsame : m = m' := Db.mapping_unique hm hm' (.inl (hp.trans hp'.symm))
      exact hnone m hm ⟨ht, hsame ▸ hb, hsame ▸ hi⟩
    have hstable : ∀ w w', (claimant tenantOf subject before publicId cid j).rely w w' →
        (Consistent tenantOf before publicId cid w ∧ ¬ OwnedBy publicId (tenantOf j) w) →
        Consistent tenantOf before publicId cid w' ∧ ¬ OwnedBy publicId (tenantOf j) w' := by
      rintro w w' hrely ⟨hcons, hnot⟩
      obtain ⟨hcons', -, hown'⟩ := hrely hcons
      exact ⟨hcons', hown' hnot⟩
    dsimp only
    rw [Prog.sat_bind]
    refine sat_claimant_lookup (by exact trivial) hstable ?_ ⟨hcons, hnot⟩
    rintro w c hfree ⟨hcons, hnot⟩
    obtain ⟨m₀, hm₀, hb₀, hp₀, hi₀⟩ := hcons.mapped
    rcases gateway_getTenantIdByOryId env c w .hydra cid with
      ⟨owner, ho, ⟨hb, hi⟩, h⟩ | ⟨hnone, -⟩ | ⟨e, hfault, -⟩
    · rw [h]
      have hother : owner.tenantId ≠ tenantOf j := fun ht =>
        hnot ⟨owner, ho, hcons.once owner ho hb hi, ht⟩
      dsimp only
      rw [Prog.sat_bind]
      refine sat_claimant_lookup (by exact trivial) hstable ?_ ⟨hcons, hnot⟩
      rintro w c hfree ⟨hcons, hnot⟩
      obtain ⟨m₀, hm₀, hb₀, hp₀, hi₀⟩ := hcons.mapped
      rcases gateway_getPublicIdByOryId env c w .hydra cid with
        ⟨m, hm, ⟨hb, hi⟩, h⟩ | ⟨hnone, -⟩ | ⟨e, hfault, -⟩
      · rw [h]
        simp only [hcons.once m hm hb hi]
        exact sat_claimant_classifyOwned hcons (.inr ⟨hother, hnot⟩)
      · exact absurd ⟨hb₀, hi₀⟩ (hnone m₀ hm₀)
      · rw [hfree 0] at hfault
        cases hfault
    · exact absurd ⟨hb₀, hi₀⟩ (hnone m₀ hm₀)
    · rw [hfree 0] at hfault
      cases hfault
  · rw [hfree 0] at hfault
    cases hfault

/-- After `ensureDcrRow` the client has a row; if it reports success, the row is the tenant's. -/
theorem sat_claimant_ensureDcrRow {w : World} (hcons : Consistent tenantOf before publicId cid w) :
    (ensureDcrRow (tenantOf j) publicId).run.Sat (shared ι env)
      (claimant tenantOf subject before publicId cid j)
      (fun r w => Rowed tenantOf before publicId cid w ∧
        (r = .ok () → RowIn publicId (tenantOf j) w)) w := by
  unfold ensureDcrRow
  rw [Prog.sat_run_bind, Prog.sat_run_attempt]
  refine sat_claimant_write fun w₁ hrely c hfree hallowed => ?_
  have hcons₁ := (hrely hcons).1
  have hcall : ClaimCall (tenantOf j) (subject j) publicId
      (.application (.create (tenantOf j) publicId false .dcr)) w₁ := ⟨rfl, rfl⟩
  refine ⟨hcall, ?_⟩
  have hcons₂ := (claim_step env hcons₁ hallowed hcall c).1
  rcases hins : w₁.db.insertApplication ⟨tenantOf j, publicId, false, .dcr⟩ with e | db'
  · -- the insert was refused, so there is a row
    have hgateway : gateway env (.application (.create (tenantOf j) publicId false .dcr)) c w₁ =
        (.error e, w₁) := by
      simp only [gateway, applicationHandler, Db.write_faultFree hfree, hins]
    have hrowed : Rowed tenantOf before publicId cid w₁ := by
      refine ⟨hcons₁, ?_⟩
      by_contra hnone
      obtain ⟨m, hm, -, hp, -⟩ := hcons₁.mapped
      obtain ⟨db', hok⟩ := Db.exists_insertApplication (a := ⟨tenantOf j, publicId, false, .dcr⟩)
        (fun a ha hp => hnone ⟨a.tenantId, a, ha, hp.symm, rfl⟩) ⟨m, hm, hp⟩ (hcons₁.tenants j)
      rw [hins] at hok
      cases hok
    rw [hgateway]
    dsimp only
    rw [Prog.sat_run_bind, Prog.sat_run_attempt]
    refine sat_claimant_lookup (by exact trivial) (fun w w' => rowed_stable) ?_ hrowed
    rintro w c hfree hrowed
    rcases gateway_getApplication env c w (tenantOf j) publicId with
      ⟨a, ha, ⟨ht, hp⟩, h⟩ | ⟨-, h⟩ | ⟨e, hfault, -⟩
    · rw [h]
      exact ⟨hrowed, fun _ => ⟨a, ha, hp, ht⟩⟩
    · rw [h]
      exact ⟨hrowed, fun hok => by cases hok⟩
    · rw [hfree 0] at hfault
      cases hfault
  · have hgateway : gateway env (.application (.create (tenantOf j) publicId false .dcr)) c w₁ =
        (.ok ⟨tenantOf j, publicId, false, .dcr⟩, { w₁ with db := db' }) := by
      simp only [gateway, applicationHandler, Db.write_faultFree hfree, hins]
    have hrow : RowIn publicId (tenantOf j) { w₁ with db := db' } := by
      refine ⟨⟨tenantOf j, publicId, false, .dcr⟩, ?_, rfl, rfl⟩
      rw [(Db.insertApplication_ok hins).1]
      exact List.mem_cons_self
    rw [hgateway] at hcons₂ ⊢
    exact ⟨⟨hcons₂, _, hrow⟩, fun _ => hrow⟩

/-- A first-use grant leaves the client with a row, whatever it reports. -/
theorem sat_claimant_grantFirstUse {rehome : Bool} {w : World}
    (hcons : Consistent tenantOf before publicId cid w)
    (hrehome : rehome = true → ¬ OwnedBy publicId (tenantOf j) w) :
    (grantFirstUse (tenantOf j) (subject j) publicId rehome false).run.Sat (shared ι env)
      (claimant tenantOf subject before publicId cid j)
      (fun _ w => Rowed tenantOf before publicId cid w) w := by
  have hrest : ∀ w, Consistent tenantOf before publicId cid w →
      (do
        ensureDcrRow (tenantOf j) publicId
        Prog.orThrow id (EntitlementService.grant (tenantOf j) (subject j) publicId .member) :
        Service Unit).run.Sat (shared ι env) (claimant tenantOf subject before publicId cid j)
        (fun _ w => Rowed tenantOf before publicId cid w) w := by
    intro w hcons
    rw [Prog.sat_run_bind]
    refine (sat_claimant_ensureDcrRow hcons).post fun r w₁ ⟨hrowed, hrow⟩ => ?_
    rcases r with e | _
    · exact hrowed
    have hrow := hrow rfl
    dsimp only
    rw [Prog.sat_run_orThrow]
    refine sat_claimant_write fun w₂ hrely c _ hallowed => ?_
    obtain ⟨hcons₂, hrow₂, -⟩ := hrely hrowed.1
    have hcall : ClaimCall (tenantOf j) (subject j) publicId
        (.entitlement (.grant (tenantOf j) (subject j) publicId .member)) w₂ :=
      ⟨rfl, rfl, rfl, hrow₂ _ hrow⟩
    obtain ⟨hcons₃, hrow₃, -⟩ := claim_step env hcons₂ hallowed hcall c
    exact ⟨hcall, hcons₃, _, hrow₃ _ (hrow₂ _ hrow)⟩
  unfold grantFirstUse
  rw [if_neg (by simp)]
  cases rehome with
  | false => exact hrest w hcons
  | true =>
      simp only [if_true]
      rw [Prog.sat_run_bind, Prog.sat_run_orThrow]
      refine sat_claimant_write fun w₁ hrely c hfree hallowed => ?_
      obtain ⟨hcons₁, -, hown₁⟩ := hrely hcons
      have hcall : ClaimCall (tenantOf j) (subject j) publicId
          (.mapping (.updateTenant .hydra publicId (tenantOf j))) w₁ := ⟨rfl, rfl⟩
      refine ⟨hcall, ?_⟩
      have hcons₂ := (claim_step env hcons₁ hallowed hcall c).1
      -- the mapping is there, and no other mapping of the client is in the way
      obtain ⟨m, hm, hb, hp, hi⟩ := hcons₁.mapped
      obtain ⟨db', hdb⟩ := Db.exists_updateTenant (t := tenantOf j) ⟨m, hm, hb, hp⟩
        (fun m₁ hm₁ _ hp₁ m' hm' ⟨ht, hb', hi'⟩ => by
          have hsame : m₁ = m := Db.mapping_unique hm₁ hm (.inl (hp₁.trans hp.symm))
          rw [hsame, hi] at hi'
          exact hown₁ (hrehome rfl) ⟨m', hm', hcons₁.once m' hm' hb' hi', ht⟩)
        (hcons₁.tenants j)
      have hgateway : gateway env (.mapping (.updateTenant .hydra publicId (tenantOf j))) c w₁ =
          (.ok (), { w₁ with db := db' }) := by
        simp only [gateway, mappingHandler, Db.write_faultFree hfree, hdb]
      rw [hgateway] at hcons₂ ⊢
      exact hrest _ hcons₂

/-- What a claimant leaves behind: a consistent client, with a row unless the claimant is of the
tenant that had the mapping from the beginning. -/
def Settled (tenantOf : ι → String) (before : List StoredTuple) (publicId cid system : String)
    (j : ι) (w : World) : Prop :=
  Consistent tenantOf before publicId cid w ∧
    (tenantOf j = system ∨ Rowed tenantOf before publicId cid w)

theorem settled_of_rowed {system : String} {w : World} (h : Rowed tenantOf before publicId cid w) :
    Settled tenantOf before publicId cid system j w :=
  ⟨h.1, .inr h⟩

theorem settled_stable {system : String} {w w' : World}
    (hrely : (claimant tenantOf subject before publicId cid j).rely w w')
    (h : Settled tenantOf before publicId cid system j w) :
    Settled tenantOf before publicId cid system j w' := by
  obtain ⟨hcons, hrowed⟩ := h
  exact ⟨(hrely hcons).1, hrowed.imp_right (rowed_stable hrely)⟩

/-- The gate of one claimant. -/
theorem sat_claimant_consentGate {system : String} {w : World}
    (hw : Unclaimed tenantOf before publicId cid system j w) :
    (consentGate (tenantOf j) (subject j) cid false).run.Sat (shared ι env)
      (claimant tenantOf subject before publicId cid j)
      (fun _ w => Settled tenantOf before publicId cid system j w) w := by
  -- a first use, and what the gate returns after it
  have hfirst : ∀ (rehome : Bool) w, Consistent tenantOf before publicId cid w →
      (rehome = true → ¬ OwnedBy publicId (tenantOf j) w) →
      (do
        grantFirstUse (tenantOf j) (subject j) publicId rehome false
        return ⟨tenantOf j, some publicId⟩ : Service GatePass).run.Sat (shared ι env)
        (claimant tenantOf subject before publicId cid j)
        (fun _ w => Settled tenantOf before publicId cid system j w) w := by
    intro rehome w hcons hrehome
    rw [Prog.sat_run_bind]
    refine (sat_claimant_grantFirstUse hcons hrehome).post fun r w h => ?_
    rcases r with e | _
    · exact settled_of_rowed h
    · exact settled_of_rowed h
  unfold consentGate
  rw [Prog.sat_run_bind, Prog.sat_run_attempt]
  refine (sat_claimant_resolve hw).post ?_
  rintro r w₁ ⟨res, rfl, hclaims⟩
  cases res with
  | unmapped => exact hclaims.elim
  | localClient p source =>
      obtain ⟨rfl, h⟩ := hclaims
      simp only [consentGateOn]
      rw [Prog.sat_run_bind, Prog.sat_run_attempt]
      refine sat_claimant_lookup (by exact trivial) (fun w w' => rowed_stable) ?_ h
      intro w c _ h
      dsimp only
      split
      · exact settled_of_rowed h
      · rw [Prog.sat_run_ite]
        split
        · exact hfirst false w h.1 (by simp)
        · exact settled_of_rowed h
  | crossTenantOwned p owner flag =>
      obtain ⟨rfl, h⟩ := hclaims
      simp only [consentGateOn, Prog.sat_run_ite]
      split
      · exact settled_of_rowed h
      · rw [Prog.sat_run_bind, Prog.sat_run_attempt]
        refine sat_claimant_lookup (by exact trivial) (fun w w' => rowed_stable) ?_ h
        intro w c _ h
        dsimp only
        split
        · exact settled_of_rowed h
        · exact settled_of_rowed h
  | provisional p owner =>
      obtain ⟨rfl, hcons, howner⟩ := hclaims
      simp only [consentGateOn]
      rw [Prog.sat_run_bind, Prog.sat_run_attempt]
      unfold provisionalMember
      rcases howner with ⟨rfl, hsys⟩ | ⟨hother, hnot⟩
      · rw [if_pos rfl]
        refine sat_claimant_lookup (by exact trivial)
          (I := fun w => Consistent tenantOf before p cid w) (fun w w' h hc => (h hc).1) ?_ hcons
        intro w c _ hcons
        dsimp only
        split
        · exact ⟨hcons, .inl hsys⟩
        · exact hfirst _ w hcons (by simp)
      · rw [if_neg hother]
        exact hfirst _ w₁ hcons fun _ => hnot

/-- Calls that change nothing keep what other claimants keep. -/
theorem sat_claimant_inert {α : Type} {p : Prog Gateway α} (hp : p.Calls GatewayOp.IsInert)
    {I : World → Prop}
    (hI : ∀ w w', (claimant tenantOf subject before publicId cid j).rely w w' → I w → I w')
    {w : World} (hw : I w) :
    p.Sat (shared ι env) (claimant tenantOf subject before publicId cid j) (fun _ w => I w) w := by
  refine hp.sat (fun w w' h hrely => hI w w' hrely h) ?_ hw
  intro op ic w hop h _
  refine ⟨claimCall_of_isInert hop, ?_⟩
  show I (gateway env op ic.2 w).2
  rw [gateway_of_isInert hop]
  exact h

/-- A consent that has passed its checks, to the end of the call. -/
theorem sat_claimant_finishConsent {system : String} {consent : ConsentRequest}
    (hclient : consent.clientId = cid) (hskip : consent.skip = false) (cfg : ConsentConfig)
    (req : AcceptConsentRequest) (challenge : String) (identityId : Option String) {w : World}
    (hw : Unclaimed tenantOf before publicId cid system j w) :
    (finishConsent cfg req (tenantOf j) challenge consent identityId (subject j)).run.Sat
      (shared ι env) (claimant tenantOf subject before publicId cid j)
      (fun _ w => Settled tenantOf before publicId cid system j w) w := by
  have hlookup : ∀ op : GatewayOp, op.IsLookup → op.IsInert := fun op h => h.isRead.isInert
  unfold finishConsent
  rw [Prog.sat_run_bind, Prog.sat_run_attempt]
  refine (sat_claimant_inert (calls_publicClientId hlookup (tenantOf j) consent.clientId)
    (fun w w' => unclaimed_stable) hw).post fun app w hw => ?_
  dsimp only
  rw [Prog.sat_run_bind, hclient, hskip]
  refine (sat_claimant_consentGate hw).post fun r w hw => ?_
  rcases r with e | pass
  · exact hw
  refine sat_claimant_inert ?_ (fun w w' => settled_stable) hw
  refine Prog.calls_run_bind
    (Prog.calls_run_attempt (calls_stampIdentity hlookup cfg _ _ identityId _)) fun body => ?_
  refine Prog.calls_run_bind (Prog.calls_run_attempt
    (calls_stampEntitlements (fun _ _ _ => trivial) pass _ app body)) fun body => ?_
  exact Prog.calls_run_orThrow (Prog.calls_perform trivial)

end claimant

/-! ## All claimants together -/

/-- A client nobody has consented to yet: mapped once, by the system tenant, and without a row. -/
structure Provisional (system publicId cid : String) (w : World) : Prop where
  mapped : ∃ m ∈ w.db.idMappings, m.backend = .hydra ∧ m.publicId = publicId ∧
    m.oryGlobalId = cid ∧ m.tenantId = system
  once : ∀ m ∈ w.db.idMappings, m.backend = .hydra → m.oryGlobalId = cid → m.publicId = publicId
  free : ∀ a ∈ w.db.applications, a.publicId ≠ publicId

theorem Provisional.unclaimed {ι : Type} {tenantOf : ι → String} {system publicId cid : String}
    {w : World} (h : Provisional system publicId cid w) (htenants : ∀ i, w.db.HasTenant (tenantOf i))
    (j : ι) : Unclaimed tenantOf w.tuples publicId cid system j w := by
  obtain ⟨m, hm, hb, hp, hi, ht⟩ := h.mapped
  refine ⟨⟨⟨m, hm, hb, hp, hi⟩, h.once, htenants, ?_, ?_⟩, ?_⟩
  · intro a ha hap
    exact absurd hap (h.free a ha)
  · intro x hx hnew
    exact absurd hx hnew
  · by_cases hsys : tenantOf j = system
    · exact .inl hsys
    · refine .inr ?_
      rintro ⟨m', hm', hp', ht'⟩
      rw [Db.mapping_unique hm' hm (.inl (hp'.trans hp.symm)), ht] at ht'
      exact hsys ht'.symm

/-- A consent that has passed the checks of `acceptConsent`, with what they determined. -/
structure VettedConsent where
  cfg : ConsentConfig
  req : AcceptConsentRequest
  tenantId : String
  challenge : String
  consent : ConsentRequest
  identityId : Option String
  subject : String

/-- The rest of the call. -/
def VettedConsent.finish (v : VettedConsent) : Service Value :=
  finishConsent v.cfg v.req v.tenantId v.challenge v.consent v.identityId v.subject

/-- Consents that have passed their checks, running together. -/
def consents {ι : Type} (call : ι → VettedConsent) (w : World) :
    Pool Gateway ι (Except ServiceError Value) World :=
  ⟨w, fun i => (call i).finish.run⟩

/-- **First consent wins, consistently.** Users of pairwise different tenants give their first
consent to a provisional client, in any interleaving of the calls they make. If no call meets a
fault, the client is re-homed only while it has no row, and its first row is inserted only for the
tenant of its mapping, then as soon as two of the consents have returned the client has exactly one
row, its mapping is in the tenant of that row, and access was granted in that tenant's store only.
-/
theorem consents_consistent {ι : Type} [DecidableEq ι] (env : Env) {call : ι → VettedConsent}
    (hdistinct : Function.Injective fun i => (call i).tenantId) {system publicId cid : String}
    (hclient : ∀ i, (call i).consent.clientId = cid) (hskip : ∀ i, (call i).consent.skip = false)
    {w : World} (hprovisional : Provisional system publicId cid w)
    (htenants : ∀ i, w.db.HasTenant (call i).tenantId) (sched : List (ι × Choice))
    (hsteps : ∀ ev ∈ (consents call w).events (shared ι env) sched,
      ev.choice.2.FaultFree ∧ ClaimAllowed publicId ev.op ev.before)
    {i j : ι} (hij : i ≠ j) {ri rj : Except ServiceError Value}
    (hi : ((consents call w).run (shared ι env) sched).Returned i ri)
    (hj : ((consents call w).run (shared ι env) sched).Returned j rj) :
    let w' := ((consents call w).run (shared ι env) sched).world
    ∃ row ∈ w'.db.applications, row.publicId = publicId ∧
      (∀ row' ∈ w'.db.applications, row'.publicId = publicId → row' = row) ∧
      (∀ m ∈ w'.db.idMappings, m.backend = .hydra → m.oryGlobalId = cid →
        m.publicId = publicId ∧ m.tenantId = row.tenantId) ∧
      (∃ m ∈ w'.db.idMappings, m.backend = .hydra ∧ m.oryGlobalId = cid) ∧
      (∀ x ∈ w'.tuples, x ∉ w.tuples → x.tenantId = row.tenantId) ∧
      ∀ ev ∈ (consents call w).events (shared ι env) sched, ∀ t s p level,
        ev.op = .entitlement (.grant t s p level) → p = publicId ∧ t = row.tenantId := by
  intro w'
  let tenantOf := fun i => (call i).tenantId
  let subject := fun i => (call i).subject
  have hrun := Pool.sat_run (P := consents call w)
    (K := claimant tenantOf subject w.tuples publicId cid)
    (Q := fun k _ v => Settled tenantOf w.tuples publicId cid system k v)
    (fun k v hcons => ⟨hcons, fun _ h => h, fun h => h⟩)
    (claimant_rely_trans tenantOf subject w.tuples publicId cid)
    (fun k _ v v' => settled_stable) ?hcompat sched ?hstart hsteps
  case hcompat =>
    -- the others give the mapping to their own tenant only
    intro k l hkl op c v hassume hcall hcons
    obtain ⟨hcons', hrow, hown⟩ := claim_step env hcons hassume.2 hcall c
    exact ⟨hcons', hrow, hown _ fun h => hkl (hdistinct h.symm)⟩
  case hstart =>
    intro k
    exact sat_claimant_finishConsent (hclient k) (hskip k) _ _ _ _
      (hprovisional.unclaimed htenants k)
  obtain ⟨hfinal, hcalls⟩ := hrun
  have hsettled : ∀ {k r}, ((consents call w).run (shared ι env) sched).Returned k r →
      Settled tenantOf w.tuples publicId cid system k w' := fun {k r} hret =>
    Pool.sat_returned hret (hfinal k)
  -- at most one of the two is of the system tenant
  have hrowed : Rowed tenantOf w.tuples publicId cid w' := by
    rcases (hsettled hi).2 with hsys | h
    · rcases (hsettled hj).2 with hsys' | h
      · exact absurd (hdistinct (hsys.trans hsys'.symm)) hij
      · exact h
    · exact h
  obtain ⟨hcons, t, row, hrow, hp, rfl⟩ := hrowed
  obtain ⟨m₀, hm₀, hp₀, ht₀⟩ := hcons.row row hrow hp
  refine ⟨row, hrow, hp, ?_, ?_, ?_, ?_, ?_⟩
  · intro row' hrow' hp'
    exact Db.application_unique hrow' hrow (hp'.trans hp.symm)
  · intro m hm hb hid
    have hpm := hcons.once m hm hb hid
    refine ⟨hpm, ?_⟩
    rw [Db.mapping_unique hm hm₀ (.inl (hpm.trans hp₀.symm)), ht₀]
  · obtain ⟨m, hm, hb, -, hid⟩ := hcons.mapped
    exact ⟨m, hm, hb, hid⟩
  · intro x hx hnew
    obtain ⟨-, a, ha, hpa, hta⟩ := hcons.granted x hx hnew
    rw [← hta, Db.application_unique ha hrow (hpa.trans hp.symm)]
  · -- the row a grant was made under is still there at the end
    intro ev hev t s p level hop
    have hkept : ∀ ev ∈ (consents call w).events (shared ι env) sched,
        Consistent tenantOf w.tuples publicId cid ev.before →
        Consistent tenantOf w.tuples publicId cid (ev.after (shared ι env)) ∧
          ∀ t, RowIn publicId t ev.before → RowIn publicId t (ev.after (shared ι env)) := by
      intro ev hev hcons
      obtain ⟨hcons', hrow, -⟩ := claim_step env hcons (hsteps ev hev).2 (hcalls ev hev) ev.choice.2
      exact ⟨hcons', hrow⟩
    have hchain := Pool.chained_events (shared ι env) (consents call w) sched
    have hbefore := (hchain.invariant (hprovisional.unclaimed htenants i).1
      fun ev hev hcons => (hkept ev hev hcons).1).2 ev hev
    have hcall := hcalls ev hev
    simp only [claimant, hop, ClaimCall] at hcall
    obtain ⟨rfl, -, rfl, hthen⟩ := hcall
    obtain ⟨-, a, ha, hpa, hta⟩ := hchain.of_event hev
      (J := fun v => Consistent tenantOf w.tuples p cid v ∧ RowIn p (tenantOf ev.choice.1) v)
      ⟨hbefore, hthen⟩ fun ev hev ⟨hcons, hrow⟩ =>
        ⟨(hkept ev hev hcons).1, (hkept ev hev hcons).2 _ hrow⟩
    refine ⟨rfl, ?_⟩
    rw [← Db.application_unique ha hrow (hpa.trans hp.symm), hta]

/-- A consent of alice in acme, or of bob in globex, to the provisional client. -/
def rivalConsent (bob : Bool) : VettedConsent where
  cfg := ⟨[]⟩
  req := ⟨"challenge", ["openid"], [], false, 0, none⟩
  tenantId := if bob then "globex" else "acme"
  challenge := if bob then "bob-challenge" else "alice-challenge"
  consent := ⟨"client", if bob then "ory-bob" else "ory-alice", false, ["openid"], []⟩
  identityId := none
  subject := if bob then "bob" else "alice"

/-- Let one of them make its next calls, without faults. -/
def turns (bob : Bool) (n : ℕ) : List (Bool × Choice) := List.replicate n (bob, smooth 0)

/-- Alice consents, then bob: bob is refused and the client is acme's. -/
theorem consents_consistent_in_turn :
    ∃ row ∈ ((consents rivalConsent provisionalWorld).run (shared Bool Env.firstRow)
      (turns false 10 ++ turns true 10)).world.db.applications, row.publicId = "app" := by
  have hsteps : ∀ ev ∈ (consents rivalConsent provisionalWorld).events (shared Bool Env.firstRow)
      (turns false 10 ++ turns true 10),
      ev.choice.2.FaultFree ∧ ClaimAllowed "app" ev.op ev.before := by
    intro ev hev
    refine ⟨?_, ?_⟩
    · have hmem := Pool.choice_of_mem_events _ hev
      rcases List.mem_append.mp hmem with h | h
      · rw [List.eq_of_mem_replicate h]
        exact fun _ => rfl
      · rw [List.eq_of_mem_replicate h]
        exact fun _ => rfl
    · revert ev
      decide
  have hdistinct : Function.Injective fun i => (rivalConsent i).tenantId := by
    intro i j
    revert i j
    decide
  have hprovisional : Provisional "system" "app" "client" provisionalWorld :=
    ⟨by decide, by decide, by decide⟩
  obtain ⟨row, hrow, hp, -⟩ := consents_consistent Env.firstRow hdistinct (fun _ => rfl)
    (fun _ => rfl) hprovisional (by decide) _ hsteps (i := false) (j := true) (by decide) rfl rfl
  exact ⟨row, hrow, hp⟩

/-- Both have resolved the client before either claims it; alice re-homes it, bob re-homes it again,
alice's row is inserted. Both calls return, with the row in acme and the mapping in globex. -/
theorem consents_split :
    let sched := turns false 5 ++ turns true 5 ++ turns false 1 ++ turns true 1 ++ turns false 4 ++
      turns true 2
    let final := (consents rivalConsent provisionalWorld).run (shared Bool Env.firstRow) sched
    Provisional "system" "app" "client" provisionalWorld ∧
      (∃ r, final.Returned false (.ok r)) ∧ (∃ e, final.Returned true (.error e)) ∧
      final.world.db.applications.map (fun a => (a.publicId, a.tenantId)) = [("app", "acme")] ∧
      (∃ m ∈ final.world.db.idMappings, m.publicId = "app" ∧ m.tenantId = "globex") := by
  intro sched final
  refine ⟨⟨by decide, by decide, by decide⟩, ⟨_, rfl⟩, ⟨_, rfl⟩, by decide, by decide⟩

end SsoGateway
