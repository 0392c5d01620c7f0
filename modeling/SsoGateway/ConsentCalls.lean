import SsoGateway.Consent
import SsoGateway.Steps

/-!
# The calls a consent makes

Which calls each part of `acceptConsent` can make, whatever the answers. The results about consents
that only depend on the kind of a call are read off these lemmas.
-/

namespace SsoGateway

open Lib

section calls

variable {P : GatewayOp → Prop}

/-- The calls of the resolution all read. -/
theorem calls_resolveClientEntitlement (hP : ∀ op, op.IsLookup → P op) (tenantId cid : String) :
    (resolveClientEntitlement tenantId cid).Calls P := by
  have hclassify : ∀ owner pid, (classifyOwned tenantId owner pid).Calls P := by
    intro owner pid
    refine Prog.calls_bind (Prog.calls_perform (hP _ trivial)) fun r => ?_
    split
    · split <;> exact trivial
    · exact trivial
    · exact trivial
  refine Prog.calls_bind (Prog.calls_perform (hP _ trivial)) fun r => ?_
  split
  · exact hclassify _ _
  · refine Prog.calls_bind (Prog.calls_perform (hP _ trivial)) fun r => ?_
    split
    · exact trivial
    · exact trivial
    · refine Prog.calls_bind (Prog.calls_perform (hP _ trivial)) fun r => ?_
      split
      · exact hclassify _ _
      · exact trivial
      · exact trivial
  · exact trivial

theorem calls_oryChallenge (hP : ∀ op, op.IsLookup → P op) (tenantId ch : String) :
    (oryChallenge tenantId ch).run.Calls P := by
  refine Prog.calls_run_bind (Prog.calls_run_attempt (Prog.calls_perform (hP _ trivial)))
    fun r => ?_
  split <;> exact trivial

theorem calls_publicClientId (hP : ∀ op, op.IsLookup → P op) (tenantId cid : String) :
    (publicClientId tenantId cid).Calls P := by
  unfold publicClientId
  split
  · exact trivial
  · exact Prog.calls_bind (Prog.calls_perform (hP _ trivial)) fun _ => trivial

theorem calls_identityClaim (hP : ∀ op, op.IsLookup → P op) (tenantId sub : String) :
    (identityClaim tenantId sub).run.Calls P := by
  unfold identityClaim
  split
  · exact trivial
  · refine Prog.calls_run_bind (Prog.calls_run_attempt (Prog.calls_perform (hP _ trivial)))
      fun r => ?_
    split <;> exact trivial

/-- A subject's public id is looked up or minted as a Kratos mapping. -/
theorem calls_publicSubject (hP : ∀ op, op.IsLookup → P op) {tenantId sub : String}
    (hmint : ∀ p, P (.mapping (.create tenantId .kratos p sub))) :
    (publicSubject tenantId sub).run.Calls P := by
  unfold publicSubject
  split
  · exact trivial
  · refine Prog.calls_run_bind (Prog.calls_run_attempt (Prog.calls_perform (hP _ trivial)))
      fun r => ?_
    split
    · exact trivial
    · refine Prog.calls_run_bind (Prog.calls_run_attempt (Prog.calls_perform (hP _ trivial)))
        fun p => ?_
      exact Prog.calls_run_bind (Prog.calls_run_orThrow (Prog.calls_perform (hmint p)))
        fun _ => trivial
    · exact trivial

theorem calls_stampIdentity (hP : ∀ op, op.IsLookup → P op) (cfg : ConsentConfig) (tenantId : String)
    (consent : ConsentRequest) (identityId : Option String) (body : Value) :
    (stampIdentity cfg tenantId consent identityId body).Calls P := by
  have hforce : (forceEmailClaim cfg tenantId consent.clientId).Calls P := by
    unfold forceEmailClaim
    split
    · exact trivial
    · split
      · exact trivial
      · refine Prog.calls_bind (Prog.calls_perform (hP _ trivial)) fun r => ?_
        split <;> exact trivial
  refine Prog.calls_bind hforce fun b => ?_
  split
  · refine Prog.calls_bind (Prog.calls_perform (hP _ trivial)) fun r => ?_
    split
    · split <;> exact trivial
    · exact trivial
  · exact trivial

theorem calls_check {α : Type} (r : Except ServiceError α) : (check r).run.Calls P := trivial

/-- The checks read, and may mint the subject's Kratos mapping. -/
theorem calls_vetConsent (hP : ∀ op, op.IsLookup → P op) {tenantId : String}
    {consent : ConsentRequest}
    (hmint : ∀ p, P (.mapping (.create tenantId .kratos p consent.subject)))
    (hceiling : ∀ i, P (.entitlement (.effectiveScopeCeiling tenantId i)))
    (ctx : RequestContext) (req : AcceptConsentRequest) :
    (vetConsent ctx req tenantId consent).run.Calls P := by
  refine Prog.calls_run_bind (calls_check _) fun _ => ?_
  refine Prog.calls_run_bind (calls_check _) fun auth => ?_
  refine Prog.calls_run_bind (calls_identityClaim hP _ _) fun identityId => ?_
  refine Prog.calls_run_bind (calls_publicSubject hP hmint) fun subject => ?_
  refine Prog.calls_run_bind (calls_check _) fun _ => ?_
  refine Prog.calls_run_bind
    (Prog.calls_run_attempt (Prog.calls_perform (hceiling subject))) fun ceiling => ?_
  exact Prog.calls_run_bind (calls_check _) fun _ => trivial

theorem calls_stampEntitlements (hclaim : ∀ t i a, P (.entitlement (.mintClaim t i a)))
    (pass : GatePass) (subject : String) (app : Except ServiceError String) (body : Value) :
    (stampEntitlements pass subject app body).Calls P := by
  unfold stampEntitlements
  split
  · exact Prog.calls_map (Prog.calls_perform (hclaim _ _ _))
  · exact trivial

/-- The writes of a first-use grant. -/
structure FirstUseCalls (P : GatewayOp → Prop) (tenantId subject : String) : Prop where
  rehome : ∀ p, P (.mapping (.updateTenant .hydra p tenantId))
  create : ∀ p, P (.application (.create tenantId p false .dcr))
  grant : ∀ p, P (.entitlement (.grant tenantId subject p .member))

/-- A skipped consent stops before the first write of a first-use grant. -/
theorem calls_grantFirstUse (hP : ∀ op, op.IsLookup → P op) {tenantId subject : String} {skip : Bool}
    (hwrite : skip = false → FirstUseCalls P tenantId subject) (publicId : String) (rehome : Bool) :
    (grantFirstUse tenantId subject publicId rehome skip).run.Calls P := by
  unfold grantFirstUse
  cases skip with
  | true => exact trivial
  | false =>
      have hw := hwrite rfl
      have hrow : (ensureDcrRow tenantId publicId).run.Calls P := by
        refine Prog.calls_run_bind
          (Prog.calls_run_attempt (Prog.calls_perform (hw.create publicId))) fun r => ?_
        split
        · exact trivial
        · refine Prog.calls_run_bind
            (Prog.calls_run_attempt (Prog.calls_perform (hP _ trivial))) fun r => ?_
          split <;> exact trivial
      have hrest : (do
          ensureDcrRow tenantId publicId
          Prog.orThrow id (EntitlementService.grant tenantId subject publicId .member) :
          Service Unit).run.Calls P :=
        Prog.calls_run_bind hrow fun _ =>
          Prog.calls_run_orThrow (Prog.calls_perform (hw.grant publicId))
      cases rehome with
      | true =>
          exact Prog.calls_run_bind
            (Prog.calls_run_orThrow (Prog.calls_perform (hw.rehome publicId))) fun _ => hrest
      | false => exact hrest

theorem calls_consentGateOn (hP : ∀ op, op.IsLookup → P op) {tenantId subject : String} {skip : Bool}
    (hwrite : skip = false → FirstUseCalls P tenantId subject) (res : ClientEntitlement) :
    (consentGateOn tenantId subject skip res).run.Calls P := by
  cases res with
  | unmapped => exact trivial
  | crossTenantOwned pid owner flag =>
      simp only [consentGateOn]
      split
      · exact trivial
      · refine Prog.calls_run_bind
          (Prog.calls_run_attempt (Prog.calls_perform (hP _ trivial))) fun r => ?_
        split <;> exact trivial
  | localClient pid source =>
      refine Prog.calls_run_bind
        (Prog.calls_run_attempt (Prog.calls_perform (hP _ trivial))) fun r => ?_
      split
      · exact trivial
      · split
        · exact Prog.calls_run_bind (calls_grantFirstUse hP hwrite pid _) fun _ => trivial
        · exact trivial
  | provisional pid owner =>
      have hmember : (provisionalMember tenantId owner subject pid).Calls P := by
        unfold provisionalMember
        split
        · exact Prog.calls_perform (hP _ trivial)
        · exact trivial
      refine Prog.calls_run_bind (Prog.calls_run_attempt hmember) fun r => ?_
      split
      · exact trivial
      · exact Prog.calls_run_bind (calls_grantFirstUse hP hwrite pid _) fun _ => trivial

/-- The gate reads, and on an interactive consent may make a first-use grant. -/
theorem calls_consentGate (hP : ∀ op, op.IsLookup → P op) {tenantId subject : String} {skip : Bool}
    (hwrite : skip = false → FirstUseCalls P tenantId subject) (cid : String) :
    (consentGate tenantId subject cid skip).run.Calls P := by
  refine Prog.calls_run_bind
    (Prog.calls_run_attempt (calls_resolveClientEntitlement hP tenantId cid)) fun r => ?_
  split
  · exact calls_consentGateOn hP hwrite _
  · exact trivial

/-- What follows the checks: the gate, the claims, and the answer to Hydra. -/
theorem calls_finishConsent (hP : ∀ op, op.IsLookup → P op)
    (hclaim : ∀ t i a, P (.entitlement (.mintClaim t i a))) {tenantId challenge : String}
    (hsend : ∀ body, P (.hydra (.acceptConsentRequest challenge body))) {consent : ConsentRequest}
    {subject : String} (hwrite : consent.skip = false → FirstUseCalls P tenantId subject)
    (cfg : ConsentConfig) (req : AcceptConsentRequest) (identityId : Option String) :
    (finishConsent cfg req tenantId challenge consent identityId subject).run.Calls P := by
  refine Prog.calls_run_bind
    (Prog.calls_run_attempt (calls_publicClientId hP tenantId _)) fun app => ?_
  refine Prog.calls_run_bind (calls_consentGate hP hwrite _) fun pass => ?_
  refine Prog.calls_run_bind
    (Prog.calls_run_attempt (calls_stampIdentity hP cfg tenantId _ identityId _)) fun body => ?_
  refine Prog.calls_run_bind
    (Prog.calls_run_attempt (calls_stampEntitlements hclaim pass subject app body)) fun body => ?_
  exact Prog.calls_run_orThrow (Prog.calls_perform (hsend body))

/-- An acceptance reads, may mint a Kratos mapping, may make a first-use grant, and answers Hydra. -/
theorem calls_acceptConsent (hP : ∀ op, op.IsLookup → P op)
    (hmint : ∀ t p o, P (.mapping (.create t .kratos p o)))
    (hceiling : ∀ t i, P (.entitlement (.effectiveScopeCeiling t i)))
    (hclaim : ∀ t i a, P (.entitlement (.mintClaim t i a)))
    (hsend : ∀ ch body, P (.hydra (.acceptConsentRequest ch body)))
    (hwrite : ∀ t i, FirstUseCalls P t i) (cfg : ConsentConfig) (ctx : RequestContext)
    (req : AcceptConsentRequest) : (acceptConsent cfg ctx req).run.Calls P := by
  have hfetch : (fetchConsent ctx req).run.Calls P := by
    refine Prog.calls_run_bind (calls_check _) fun _ => ?_
    refine Prog.calls_run_bind (calls_check _) fun tenantId => ?_
    refine Prog.calls_run_bind (calls_oryChallenge hP tenantId _) fun challenge => ?_
    exact Prog.calls_run_bind (Prog.calls_run_orThrow (Prog.calls_perform (hP _ trivial)))
      fun _ => trivial
  refine Prog.calls_run_bind hfetch fun ⟨tenantId, challenge, consent⟩ => ?_
  refine Prog.calls_run_bind (calls_vetConsent hP (fun p => hmint tenantId p _)
    (hceiling tenantId) ctx req) fun ⟨identityId, subject⟩ => ?_
  exact calls_finishConsent hP hclaim (hsend challenge) (fun _ => hwrite tenantId subject) cfg req
    identityId

end calls

end SsoGateway
