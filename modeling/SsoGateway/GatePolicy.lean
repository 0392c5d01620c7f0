import SsoGateway.LoginGate
import SsoGateway.Resolution

/-!
# One policy, two gates

The login gate and the consent gate decide on the same resolution of a client. Here the decision is
stated once, as a function, and both gates are shown to carry it out.

* `Decision`, `gateDecision` — the policy: from a resolved client and a membership answer.
* `memberChecked` — the membership the gates ask for, as the tuples have it.
* `sat_loginGateOn`, `sat_consentGateOn` — the gates follow the policy; a failed check counts as no
  membership.
* `sat_grantFirstUse` — a first-use grant that reports success has made the user a member.
-/

namespace SsoGateway

open Lib

/-! ## The policy -/

/-- What a gate decides. -/
inductive Decision where
  /-- The user may use the client. -/
  | allow
  /-- The user's first use of the client is up to their consent. -/
  | firstUse (publicId : String) (rehome : Bool)
  /-- The user may not use the client. -/
  | refuse (e : ServiceError)
deriving DecidableEq, Repr

/-- The policy of both gates. -/
def gateDecision (tenantId : String) (member : Bool) : ClientEntitlement → Decision
  | .unmapped => .allow
  | .crossTenantOwned _ _ crossTenant =>
      if !crossTenant then .refuse otherOrganization
      else if member then .allow else .refuse notEntitled
  | .localClient publicId source =>
      if member then .allow
      else if source = .dcr then .firstUse publicId false else .refuse notEntitled
  | .provisional publicId ownerTenant =>
      if member then .allow else .firstUse publicId (ownerTenant != tenantId)

/-- The policy leaves to the first use exactly the clients eligible for it, for users who are not
members yet. -/
theorem gateDecision_firstUse_iff (tenantId : String) (member : Bool) (res : ClientEntitlement) :
    (∃ p rehome, gateDecision tenantId member res = .firstUse p rehome) ↔
      res.isFirstUseEligible = true ∧ member = false := by
  cases res with
  | unmapped => simp [gateDecision, ClientEntitlement.isFirstUseEligible]
  | crossTenantOwned p owner flag =>
      cases flag <;> cases member <;> simp [gateDecision, ClientEntitlement.isFirstUseEligible]
  | localClient p source =>
      cases source <;> cases member <;> simp [gateDecision, ClientEntitlement.isFirstUseEligible]
  | provisional p owner =>
      cases member <;> simp [gateDecision, ClientEntitlement.isFirstUseEligible]

/-- The membership a gate asks for: in the store of the tenant that owns the client. -/
def memberChecked (env : Env) (w : World) (tenantId subject : String) : ClientEntitlement → Bool
  | .unmapped => false
  | .crossTenantOwned publicId ownerTenant _ =>
      checkWithin w.tuples ownerTenant env.checkDepth entitlementNamespace publicId memberRel subject
  | .localClient publicId _ =>
      checkWithin w.tuples tenantId env.checkDepth entitlementNamespace publicId memberRel subject
  | .provisional publicId ownerTenant =>
      decide (ownerTenant = tenantId) &&
        checkWithin w.tuples tenantId env.checkDepth entitlementNamespace publicId memberRel subject

/-- The answer a gate works with: what the tuples say, or a refusal where the check failed. -/
def MemberAnswer (env : Env) (w : World) (tenantId subject : String) (res : ClientEntitlement)
    (tr : History) (member : Bool) : Prop :=
  member = memberChecked env w tenantId subject res ∨ (member = false ∧ Faulted tr)

theorem MemberAnswer.cons {env : Env} {w : World} {tenantId subject : String}
    {res : ClientEntitlement} {tr : History} {member : Bool} {ev : Event Gateway Choice World}
    (h : MemberAnswer env w tenantId subject res tr member) :
    MemberAnswer env w tenantId subject res (ev :: tr) member :=
  h.imp_right fun ⟨hmember, hfault⟩ => ⟨hmember, hfault.cons⟩

/-- How the login gate carries a decision out. -/
def Decision.login : Decision → Except ServiceError LoginVerdict
  | .allow => .ok .passed
  | .firstUse _ _ => .ok .deferred
  | .refuse e => .error e

section gates

variable {env : Env}

/-- A membership check reads. -/
theorem sat_isMember (t i p : String) (s : World × History) :
    (EntitlementService.isMember t i p).Sat (gateway env).traced remembering
      (fun r s' => s'.1 = s.1 ∧
        (r = .ok (checkWithin s.1.tuples t env.checkDepth entitlementNamespace p memberRel i) ∨
          (∃ e, r = .error e) ∧ Faulted s'.2)) s := by
  refine sat_remembering_perform.mpr fun c => ?_
  rcases gateway_check env c s.1 t i p memberRel with h | ⟨e, ⟨n, hfault⟩, h⟩
  · rw [h]
    exact ⟨rfl, .inl rfl⟩
  · rw [h]
    exact ⟨rfl, .inr ⟨⟨e, rfl⟩, faulted_of_isSome hfault⟩⟩

theorem sat_provisionalMember (tenantId owner subject p : String) (s : World × History) :
    (provisionalMember tenantId owner subject p).Sat (gateway env).traced remembering
      (fun r s' => s'.1 = s.1 ∧
        (r = .ok (memberChecked env s.1 tenantId subject (.provisional p owner)) ∨
          (∃ e, r = .error e) ∧ Faulted s'.2)) s := by
  unfold provisionalMember memberChecked
  by_cases howner : owner = tenantId
  · simp only [howner, if_true, decide_true, Bool.true_and]
    exact sat_isMember tenantId subject p s
  · simp only [howner, if_false, decide_false, Bool.false_and]
    exact ⟨rfl, .inl rfl⟩

/-- The membership check of a gate, then what the gate does with a yes and with anything else. -/
theorem sat_member_cases {α : Type} (tenantId subject : String) (res : ClientEntitlement)
    {check : Prog Gateway (Except ServiceError Bool)} {yes no : Service α}
    {Q : Except ServiceError α → World × History → Prop} {s : World × History}
    (hcheck : check.Sat (gateway env).traced remembering (fun r s' => s'.1 = s.1 ∧
      (r = .ok (memberChecked env s.1 tenantId subject res) ∨
        (∃ e, r = .error e) ∧ Faulted s'.2)) s)
    (hyes : ∀ s', s'.1 = s.1 → MemberAnswer env s.1 tenantId subject res s'.2 true →
      yes.run.Sat (gateway env).traced remembering Q s')
    (hno : ∀ s', s'.1 = s.1 → MemberAnswer env s.1 tenantId subject res s'.2 false →
      no.run.Sat (gateway env).traced remembering Q s') :
    (do
      match ← Prog.attempt check with
      | .ok true => yes
      | _ => no : Service α).run.Sat (gateway env).traced remembering Q s := by
  rw [Prog.sat_run_bind, Prog.sat_run_attempt]
  refine hcheck.post ?_
  rintro r s' ⟨hw, rfl | ⟨⟨e, rfl⟩, hfault⟩⟩
  · rcases hmember : memberChecked env s.1 tenantId subject res with _ | _
    · exact hno s' hw (.inl hmember.symm)
    · exact hyes s' hw (.inl hmember.symm)
  · exact hno s' hw (.inr ⟨rfl, hfault⟩)

/-- The login gate follows the policy and writes nothing. -/
theorem sat_loginGateOn (tenantId subject : String) (res : ClientEntitlement)
    (s : World × History) :
    (loginGateOn tenantId subject res).run.Sat (gateway env).traced remembering
      (fun r s' => s'.1 = s.1 ∧ ∃ member, MemberAnswer env s.1 tenantId subject res s'.2 member ∧
        r = (gateDecision tenantId member res).login) s := by
  cases res with
  | unmapped => exact ⟨rfl, false, .inl rfl, rfl⟩
  | crossTenantOwned p owner crossTenant =>
      simp only [loginGateOn, Prog.sat_run_ite]
      cases crossTenant with
      | false => exact ⟨rfl, _, .inl rfl, rfl⟩
      | true =>
          refine sat_member_cases tenantId subject (.crossTenantOwned p owner true)
            (sat_isMember owner subject p s) ?_ ?_
          · intro s' hw hmember
            exact ⟨hw, true, hmember, rfl⟩
          · intro s' hw hmember
            exact ⟨hw, false, hmember, rfl⟩
  | localClient p source =>
      simp only [loginGateOn]
      refine sat_member_cases tenantId subject (.localClient p source)
        (sat_isMember tenantId subject p s) ?_ ?_
      · intro s' hw hmember
        exact ⟨hw, true, hmember, rfl⟩
      · intro s' hw hmember
        rw [Prog.sat_run_ite]
        by_cases hsource : source = .dcr
        · rw [if_pos hsource]
          exact ⟨hw, false, hmember, by simp [gateDecision, Decision.login, hsource]⟩
        · rw [if_neg hsource]
          exact ⟨hw, false, hmember, by simp [gateDecision, Decision.login, hsource]⟩
  | provisional p owner =>
      simp only [loginGateOn]
      refine sat_member_cases tenantId subject (.provisional p owner)
        (sat_provisionalMember tenantId owner subject p s) ?_ ?_
      · intro s' hw hmember
        exact ⟨hw, true, hmember, rfl⟩
      · intro s' hw hmember
        exact ⟨hw, false, hmember, rfl⟩

/-! ## First use -/

/-- The client's row is the tenant's, and the user a member of it in the tenant's store. -/
def GrantedTo (w : World) (tenantId subject publicId : String) : Prop :=
  (∃ a ∈ w.db.applications, a.publicId = publicId ∧ a.tenantId = tenantId) ∧
    ⟨tenantId, entitlementKey publicId memberRel subject⟩ ∈ w.tuples

/-- The client's row, if there is one, is the tenant's, and a new row would be accepted. -/
def RowClaimable (w : World) (tenantId publicId : String) : Prop :=
  w.db.HasTenant tenantId ∧ (∃ m ∈ w.db.idMappings, m.publicId = publicId) ∧
    ∀ a ∈ w.db.applications, a.publicId = publicId → a.tenantId = tenantId

/-- After `ensureDcrRow` the row is the tenant's; only a fault prevents that where it can be. -/
theorem sat_ensureDcrRow (tenantId publicId : String) (s : World × History) :
    (ensureDcrRow tenantId publicId).run.Sat (gateway env).traced remembering
      (fun r s' => s'.1.tuples = s.1.tuples ∧
        ((r = .ok () ∧ ∃ a ∈ s'.1.db.applications, a.publicId = publicId ∧ a.tenantId = tenantId) ∨
          ((∃ e, r = .error e) ∧ (RowClaimable s.1 tenantId publicId → Faulted s'.2)))) s := by
  unfold ensureDcrRow
  rw [Prog.sat_run_bind, Prog.sat_run_attempt]
  refine sat_remembering_perform.mpr fun c => ?_
  simp only [gateway, applicationHandler]
  generalize hwrite : s.1.db.write c (s.1.db.insertApplication ⟨tenantId, publicId, false, .dcr⟩)
    (⟨tenantId, publicId, false, .dcr⟩ : ApplicationRow) = r
  rcases hr : r.1 with e | row
  · -- the insert was refused or failed: whose is the row that is there?
    dsimp only
    rw [Prog.sat_run_bind, Prog.sat_run_attempt]
    refine sat_remembering_perform.mpr fun c' => ?_
    rcases gateway_getApplication env c' { s.1 with db := r.2 } tenantId publicId with
      ⟨a, ha, ⟨ht, hp⟩, h⟩ | ⟨hnone, h⟩ | ⟨e', hfault, h⟩
    · rw [h]
      exact ⟨rfl, .inl ⟨rfl, a, ha, hp, ht⟩⟩
    · rw [h]
      refine ⟨rfl, .inr ⟨⟨_, rfl⟩, fun hclaim => ?_⟩⟩
      by_contra hfaulted
      have hfree : c.FaultFree := by
        by_contra hc
        exact hfaulted ⟨_, List.mem_cons_of_mem _ List.mem_cons_self, hc⟩
      rw [Db.write_faultFree hfree] at hwrite
      obtain ⟨htenant, hmap, hrows⟩ := hclaim
      by_cases hrow : ∃ a ∈ s.1.db.applications, a.publicId = publicId
      · -- the row that is there is the tenant's, and the lookup would have found it
        obtain ⟨a, ha, hp⟩ := hrow
        have hrefused : ∃ e, s.1.db.insertApplication ⟨tenantId, publicId, false, .dcr⟩ =
            .error e := by
          rcases hins : s.1.db.insertApplication ⟨tenantId, publicId, false, .dcr⟩ with e | db'
          · exact ⟨e, rfl⟩
          · exact absurd hp.symm ((Db.insertApplication_ok hins).2.2.2.2 a ha)
        obtain ⟨e, he⟩ := hrefused
        rw [he] at hwrite
        rw [← hwrite] at hnone
        exact hnone a ha ⟨hrows a ha hp, hp⟩
      · obtain ⟨db', hins⟩ := Db.exists_insertApplication
          (a := ⟨tenantId, publicId, false, .dcr⟩) (fun a ha hp => hrow ⟨a, ha, hp.symm⟩) hmap htenant
        rw [hins] at hwrite
        rw [← hwrite] at hr
        cases hr
    · rw [h]
      exact ⟨rfl, .inr ⟨⟨_, rfl⟩, fun _ => faulted_of_isSome hfault⟩⟩
  · obtain ⟨-, db', hins, hsnd⟩ := Db.write_ok (hwrite ▸ hr)
    refine ⟨rfl, .inl ⟨rfl, ⟨tenantId, publicId, false, .dcr⟩, ?_, rfl, rfl⟩⟩
    rw [← hwrite, hsnd, (Db.insertApplication_ok hins).1]
    exact List.mem_cons_self

/-- A grant that reports success has been written; only a fault prevents one. -/
theorem sat_grant (tenantId subject publicId : String) (s : World × History) :
    (EntitlementService.grant tenantId subject publicId .member).Sat (gateway env).traced
      remembering
      (fun r s' => s'.1.db = s.1.db ∧
        ((r = .ok () ∧ ⟨tenantId, entitlementKey publicId memberRel subject⟩ ∈ s'.1.tuples) ∨
          (∃ e, r = .error e) ∧ Faulted s'.2)) s := by
  refine sat_remembering_perform.mpr fun c => ?_
  have h := entitlementHandler_of_sat env c s.1.tuples (.grant tenantId subject publicId .member)
    (A := fun f => ∃ n, f = c.fault n)
    (Q := fun r ts => (r = .ok () ∧ ⟨tenantId, entitlementKey publicId memberRel subject⟩ ∈ ts) ∨
      (∃ e, r = .error e) ∧ ∃ n, (c.fault n).isSome = true)
    (fun n => ⟨n, rfl⟩) ?_
  · refine ⟨rfl, h.imp_right ?_⟩
    rintro ⟨he, n, hfault⟩
    exact ⟨he, faulted_of_isSome hfault⟩
  · rw [EntitlementOp.method, EntitlementServiceImpl.grant, Prog.sat_run_bind]
    have hfaulty : EntitlementServiceImpl.Faulty (fun f => ∃ n, f = c.fault n) →
        ∃ n, (c.fault n).isSome = true := by
      rintro ⟨f, n, hn⟩
      exact ⟨n, by rw [← hn]; rfl⟩
    refine EntitlementServiceImpl.sat_ensureNamespace
      (EntitlementServiceImpl.sat_ensureTuples (.inl ⟨rfl, ?_⟩) fun hf e => ?_) fun hf e => ?_
    · rw [mem_applyTuples]
      exact .inl ⟨rfl, List.mem_singleton_self _⟩
    · exact ⟨.inr ⟨⟨e, rfl⟩, hfaulty hf⟩, .inr ⟨⟨e, rfl⟩, hfaulty hf⟩⟩
    · exact .inr ⟨⟨e, rfl⟩, hfaulty hf⟩

/-- The client can be claimed for the tenant: its row is free or the tenant's, and the tenant has no
other mapping of it. -/
def Claimable (w : World) (tenantId publicId : String) (rehome : Bool) : Prop :=
  RowClaimable w tenantId publicId ∧ (rehome = true → ∃ db', w.db.updateTenant .hydra publicId
    tenantId = .ok db')

/-- A first-use grant that reports success has made the user a member of a client that is the
tenant's; where the client can be claimed, only a fault prevents that. -/
theorem sat_grantFirstUse (tenantId subject publicId : String) (rehome : Bool)
    (s : World × History) :
    (grantFirstUse tenantId subject publicId rehome false).run.Sat (gateway env).traced remembering
      (fun r s' => (r = .ok () ∧ GrantedTo s'.1 tenantId subject publicId) ∨
        ((∃ e, r = .error e) ∧ (Claimable s.1 tenantId publicId rehome → Faulted s'.2))) s := by
  have hrest : ∀ s₁ : World × History,
      (RowClaimable s.1 tenantId publicId → RowClaimable s₁.1 tenantId publicId) →
      (do
        ensureDcrRow tenantId publicId
        Prog.orThrow id (EntitlementService.grant tenantId subject publicId .member) :
        Service Unit).run.Sat (gateway env).traced remembering
        (fun r s' => (r = .ok () ∧ GrantedTo s'.1 tenantId subject publicId) ∨
          ((∃ e, r = .error e) ∧ (Claimable s.1 tenantId publicId rehome → Faulted s'.2))) s₁ := by
    intro s₁ hclaim
    rw [Prog.sat_run_bind]
    refine (sat_ensureDcrRow tenantId publicId s₁).post ?_
    rintro r s₂ ⟨-, ⟨rfl, hrow⟩ | ⟨⟨e, rfl⟩, hfault⟩⟩
    · dsimp only
      rw [Prog.sat_run_orThrow]
      refine (sat_grant tenantId subject publicId s₂).post ?_
      rintro r s₃ ⟨hdb, ⟨rfl, htuple⟩ | ⟨⟨e, rfl⟩, hfault⟩⟩
      · exact .inl ⟨rfl, by rw [hdb]; exact hrow, htuple⟩
      · exact .inr ⟨⟨e, rfl⟩, fun _ => hfault⟩
    · exact .inr ⟨⟨e, rfl⟩, fun h => hfault (hclaim h.1)⟩
  unfold grantFirstUse
  rw [if_neg (by simp)]
  cases rehome with
  | false => exact hrest s id
  | true =>
      simp only [if_true]
      rw [Prog.sat_run_bind, Prog.sat_run_orThrow]
      refine sat_remembering_perform.mpr fun c => ?_
      simp only [gateway, mappingHandler]
      generalize hwrite : s.1.db.write c (s.1.db.updateTenant .hydra publicId tenantId) () = r
      rcases hr : r.1 with e | _
      · refine .inr ⟨⟨_, rfl⟩, fun hclaim => ?_⟩
        by_contra hfaulted
        have hfree : c.FaultFree := by
          by_contra hc
          exact hfaulted ⟨_, List.mem_cons_self, hc⟩
        obtain ⟨db', hdb⟩ := hclaim.2 rfl
        rw [Db.write_faultFree hfree, hdb] at hwrite
        rw [← hwrite] at hr
        cases hr
      · obtain ⟨-, db', hdb, hsnd⟩ := Db.write_ok (hwrite ▸ hr)
        obtain ⟨-, hrows, happs, -, htenants, -⟩ := Db.updateTenant_ok hdb
        refine hrest _ ?_
        rintro ⟨htenant, ⟨m, hm, hp⟩, hown⟩
        rw [← hwrite, hsnd]
        refine ⟨?_, ⟨Db.rehome .hydra publicId tenantId m, ?_, ?_⟩, ?_⟩
        · unfold Db.HasTenant
          rw [htenants]
          exact htenant
        · rw [hrows]
          exact List.mem_map_of_mem hm
        · rw [Db.rehome_publicId, hp]
        · intro a ha
          exact hown a (happs ▸ ha)

/-- How the consent gate carries a decision out: from `w` to the answer and the world `s.1`. -/
def Decision.Consent (skip : Bool) (tenantId subject : String) (w : World)
    (r : Except ServiceError GatePass) (s : World × History) : Decision → Prop
  | .allow => s.1 = w ∧ ∃ pass, r = .ok pass
  | .refuse e => s.1 = w ∧ r = .error e
  | .firstUse publicId rehome =>
      if skip then s.1 = w ∧ r = .error notEntitled
      else ((∃ pass, r = .ok pass) ∧ GrantedTo s.1 tenantId subject publicId) ∨
        ((∃ e, r = .error e) ∧ (Claimable w tenantId publicId rehome → Faulted s.2))

/-- The grant at the end of a first-use arm. -/
theorem sat_firstUse (tenantId subject publicId : String) (rehome skip : Bool)
    (s : World × History) :
    (do
      grantFirstUse tenantId subject publicId rehome skip
      return ⟨tenantId, some publicId⟩ : Service GatePass).run.Sat (gateway env).traced remembering
      (fun r s' => (Decision.firstUse publicId rehome).Consent skip tenantId subject s.1 r s')
      s := by
  rw [Prog.sat_run_bind]
  cases skip with
  | true => exact ⟨rfl, rfl⟩
  | false =>
      refine (sat_grantFirstUse tenantId subject publicId rehome s).post ?_
      rintro r s' (⟨rfl, hgranted⟩ | ⟨⟨e, rfl⟩, hfault⟩)
      · exact .inl ⟨⟨_, rfl⟩, hgranted⟩
      · exact .inr ⟨⟨e, rfl⟩, hfault⟩

/-- The consent gate follows the policy. -/
theorem sat_consentGateOn (tenantId subject : String) (skip : Bool) (res : ClientEntitlement)
    (s : World × History) :
    (consentGateOn tenantId subject skip res).run.Sat (gateway env).traced remembering
      (fun r s' => ∃ member, MemberAnswer env s.1 tenantId subject res s'.2 member ∧
        (gateDecision tenantId member res).Consent skip tenantId subject s.1 r s') s := by
  -- a first use, decided on a missing membership
  have hfirst : ∀ (s' : World × History) (p : String) (rehome : Bool), s'.1 = s.1 →
      MemberAnswer env s.1 tenantId subject res s'.2 false →
      gateDecision tenantId false res = .firstUse p rehome →
      (do
        grantFirstUse tenantId subject p rehome skip
        return ⟨tenantId, some p⟩ : Service GatePass).run.Sat (gateway env).traced remembering
        (fun r s' => ∃ member, MemberAnswer env s.1 tenantId subject res s'.2 member ∧
          (gateDecision tenantId member res).Consent skip tenantId subject s.1 r s') s' := by
    intro s' p rehome hw hmember hdecision
    refine (sat_remembering_frame (I := fun s' => MemberAnswer env s.1 tenantId subject res s'.2 false)
      (sat_firstUse tenantId subject p rehome skip s') (Prog.calls_true _)
      (fun _ _ _ _ h => h.cons) hmember).post ?_
    rintro r s'' ⟨hconsent, hmember⟩
    refine ⟨false, hmember, ?_⟩
    rw [hdecision, ← hw]
    exact hconsent
  cases res with
  | unmapped => exact ⟨false, .inl rfl, rfl, _, rfl⟩
  | crossTenantOwned p owner crossTenant =>
      simp only [consentGateOn, Prog.sat_run_ite]
      cases crossTenant with
      | false => exact ⟨_, .inl rfl, rfl, rfl⟩
      | true =>
          refine sat_member_cases tenantId subject (.crossTenantOwned p owner true)
            (sat_isMember owner subject p s) ?_ ?_
          · intro s' hw hmember
            exact ⟨true, hmember, hw, _, rfl⟩
          · intro s' hw hmember
            exact ⟨false, hmember, hw, rfl⟩
  | localClient p source =>
      simp only [consentGateOn]
      refine sat_member_cases tenantId subject (.localClient p source)
        (sat_isMember tenantId subject p s) ?_ ?_
      · intro s' hw hmember
        exact ⟨true, hmember, hw, _, rfl⟩
      · intro s' hw hmember
        rw [Prog.sat_run_ite]
        by_cases hsource : source = .dcr
        · rw [if_pos hsource]
          exact hfirst s' p false hw hmember (by simp [gateDecision, hsource])
        · rw [if_neg hsource]
          refine ⟨false, hmember, ?_⟩
          have hdecision : gateDecision tenantId false (.localClient p source) =
              .refuse notEntitled := by simp [gateDecision, hsource]
          rw [hdecision]
          exact ⟨hw, rfl⟩
  | provisional p owner =>
      simp only [consentGateOn]
      refine sat_member_cases tenantId subject (.provisional p owner)
        (sat_provisionalMember tenantId owner subject p s) ?_ ?_
      · intro s' hw hmember
        exact ⟨true, hmember, hw, _, rfl⟩
      · intro s' hw hmember
        exact hfirst s' p _ hw hmember rfl

end gates

end SsoGateway
