import SsoGateway.Auth
import SsoGateway.ClientEntitlement
import SsoGateway.ConsentMapper

/-!
# Accepting a consent

The consent service up to and including `accept_consent`: the scope ceiling, the entitlement gate
with its first-use grant, and the body sent to Hydra.

* `publicSubject` — the gateway id of a Kratos subject, minted on first sight.
* `grantFirstUse` — the first-use approval: re-home the mapping, ensure the row, grant the user.
* `consentGate` — the decision on a resolved client.
* `acceptConsent` — the whole call.

Source: `services/oauth2_consent.rs`.
-/

namespace SsoGateway

open Lib

/-- Configuration read by the consent service. -/
structure ConsentConfig where
  forceEmailClaimClientIds : List String
deriving DecidableEq, Repr

/-- Source: `map_db_error` of the consent service. -/
def mapDbError : DbError → ServiceError
  | .mappingNotFound => .notFound "mapping not found"
  | err => .database err.toText

/-- Source: `map_ory_error` of the consent service and of `identity_self_service.rs`. -/
def mapConsentOryError : OryClientError → ServiceError :=
  mapUpstreamError "upstream oauth2 service unreachable"

/-- The refusals of the gates. -/
def notEntitled : ServiceError := .permissionDenied "user is not entitled to this application"

/-- Source: the unflagged branch of `CrossTenantOwned` in both gates. -/
def otherOrganization : ServiceError :=
  .permissionDenied "application belongs to a different organization"

/-- Lift a pure check into a service. -/
def check {α : Type} (r : Except ServiceError α) : Service α := ExceptT.mk (pure r)

/-- `if b { return Err(e) }`. -/
def refuseIf (b : Prop) [Decidable b] (e : ServiceError) : Except ServiceError Unit :=
  if b then .error e else .ok ()

/-- Source: `require_consent_admin`. -/
def requireConsentAdmin (ctx : RequestContext) : Except ServiceError Unit :=
  if (requireScope ctx scopeTenantAdmin).isOk ∨ (requireScope ctx scopeIdentityAdmin).isOk then
    .ok ()
  else
    .error (.permissionDenied "missing required scope: tenant:admin or identity:admin")

/-! ## Ids -/

/-- Source: `ory_challenge` at the type `consent_challenge`. A challenge without a mapping is
Hydra's own and passes through. -/
def oryChallenge (tenantId publicChallenge : String) : Service String := do
  match ← Prog.attempt (Prog.perform (S := Gateway)
      (.getOryToken tenantId .hydra "consent_challenge" publicChallenge)) with
  | .ok challenge => return challenge
  | .error .mappingNotFound => return publicChallenge
  | .error err => throw (mapDbError err)

/-- Source: `public_client_id`. -/
def publicClientId (tenantId oryClientId : String) :
    Prog Gateway (Except ServiceError String) := do
  if oryClientId = "" then
    return .ok ""
  else
    return (← IdMappingStore.getPublicId tenantId .hydra oryClientId).mapError mapDbError

/-- Source: `force_email_claim`. -/
def forceEmailClaim (cfg : ConsentConfig) (tenantId oryClientId : String) :
    Prog Gateway Bool := do
  if oryClientId = "" ∨ cfg.forceEmailClaimClientIds = [] then
    return false
  else if oryClientId ∈ cfg.forceEmailClaimClientIds then
    return true
  else
    match ← IdMappingStore.getPublicId tenantId .hydra oryClientId with
    | .ok publicId => return decide (publicId ∈ cfg.forceEmailClaimClientIds)
    | .error _ => return false

/-- Source: `public_subject`. An unmapped subject gets a public id on the spot. -/
def publicSubject (tenantId orySubject : String) : Service String := do
  if orySubject = "" then
    return ""
  else
    match ← Prog.attempt (IdMappingStore.getPublicId tenantId .kratos orySubject) with
    | .ok publicId => return publicId
    | .error .mappingNotFound =>
        let publicId ← Prog.attempt newUlid
        let _ ← Prog.orThrow mapDbError (IdMappingStore.create tenantId .kratos publicId orySubject)
        return publicId
    | .error err => throw (mapDbError err)

/-- The public id for the `identity_id` claim, without minting one. -/
def identityClaim (tenantId orySubject : String) : Service (Option String) := do
  if orySubject = "" then
    return none
  else
    match ← Prog.attempt (IdMappingStore.getPublicId tenantId .kratos orySubject) with
    | .ok publicId => return some publicId
    | .error .mappingNotFound => return none
    | .error err => throw (mapDbError err)

/-! ## First use -/

/-- Source: `ensure_dcr_row`. -/
def ensureDcrRow (tenantId publicId : String) : Service Unit := do
  match ← Prog.attempt (ApplicationStore.create tenantId publicId false .dcr) with
  | .ok _ => return ()
  | .error err =>
      match ← Prog.attempt (ApplicationStore.get tenantId publicId) with
      | .ok _ => return ()
      | .error _ => throw (mapDbError err)

/-- Source: `grant_first_use`. -/
def grantFirstUse (tenantId subject appPublicId : String) (rehome consentSkip : Bool) :
    Service Unit := do
  if consentSkip then
    throw notEntitled
  else
    if rehome then
      Prog.orThrow mapDbError (IdMappingStore.updateTenant .hydra appPublicId tenantId)
    ensureDcrRow tenantId appPublicId
    Prog.orThrow id (EntitlementService.grant tenantId subject appPublicId .member)

/-! ## The entitlement gate -/

/-- What the gate leaves behind for the claim: the tenant whose store it is minted from, and the
application, where the gate determined it. -/
structure GatePass where
  claimTenant : String
  appPublicId : Option String
deriving DecidableEq, Repr

/-- The membership check on a provisional client: one owned by another tenant has no local tuples
to check. -/
def provisionalMember (tenantId ownerTenant subject publicId : String) :
    Prog Gateway (Except ServiceError Bool) :=
  if ownerTenant = tenantId then EntitlementService.isMember tenantId subject publicId
  else pure (.ok false)

/-- The arms of `accept_consent` on a resolved client. -/
def consentGateOn (tenantId subject : String) (skip : Bool) :
    ClientEntitlement → Service GatePass
  | .unmapped => return ⟨tenantId, none⟩
  | .crossTenantOwned publicId ownerTenant crossTenant => do
      if !crossTenant then
        throw otherOrganization
      else
        match ← Prog.attempt (EntitlementService.isMember ownerTenant subject publicId) with
        | .ok true => return ⟨ownerTenant, some publicId⟩
        | _ => throw notEntitled
  | .localClient publicId source => do
      match ← Prog.attempt (EntitlementService.isMember tenantId subject publicId) with
      | .ok true => return ⟨tenantId, none⟩
      | _ =>
          if source = .dcr then
            grantFirstUse tenantId subject publicId false skip
            return ⟨tenantId, some publicId⟩
          else
            throw notEntitled
  | .provisional publicId ownerTenant => do
      match ← Prog.attempt (provisionalMember tenantId ownerTenant subject publicId) with
      | .ok true => return ⟨tenantId, none⟩
      | _ =>
          grantFirstUse tenantId subject publicId (ownerTenant != tenantId) skip
          return ⟨tenantId, some publicId⟩

/-- Source: the entitlement gate of `accept_consent`: resolve, then decide. A resolution that
fails is skipped over. -/
def consentGate (tenantId subject oryClientId : String) (skip : Bool) : Service GatePass := do
  match ← Prog.attempt (resolveClientEntitlement tenantId oryClientId) with
  | .ok resolution => consentGateOn tenantId subject skip resolution
  | .error _ => return ⟨tenantId, none⟩

/-! ## The call -/

/-- The claims put into the body before the entitlement claim. -/
def stampIdentity (cfg : ConsentConfig) (tenantId : String) (consent : ConsentRequest)
    (identityId : Option String) (body : Value) : Prog Gateway Value := do
  let body := match identityId with
    | some identityId => injectIdTokenClaim body "identity_id" identityId
    | none => body
  if ← forceEmailClaim cfg tenantId consent.clientId then
    match ← callKratos (.getIdentity consent.subject) with
    | .ok identity =>
        match identityEmail identity with
        | some email => return injectIdTokenClaim body "email" email
        | none => return body
    | .error _ => return body
  else
    return body

/-- The granted scopes outside the ceiling; Matrix scopes are exempt. -/
def outOfCeiling (ceiling grantScope : List String) : List String :=
  grantScope.filter fun s => s ∉ ceiling ∧ ¬ isMatrixScope s

/-- The beginning of `accept_consent`: authorize the caller and fetch the pending consent. Yields
the tenant, Hydra's challenge and the consent. -/
def fetchConsent (ctx : RequestContext) (req : AcceptConsentRequest) :
    Service (String × String × ConsentRequest) := do
  check (requireConsentAdmin ctx)
  let tenantId ← check (requireTenant ctx)
  let challenge ← oryChallenge tenantId req.challenge
  let document ← Prog.orThrow mapConsentOryError (callHydra (.getConsentRequest challenge))
  return (tenantId, challenge, oryConsentRequestToProto document)

/-- The checks of `accept_consent` before the entitlement gate: requested scopes, the subject, the
scope ceiling. Yields the id for the `identity_id` claim and the subject's public id. -/
def vetConsent (ctx : RequestContext) (req : AcceptConsentRequest) (tenantId : String)
    (consent : ConsentRequest) : Service (Option String × String) := do
  check (refuseIf (¬ ∀ s ∈ req.grantScope, s ∈ consent.requestedScope)
    (.invalidArgument "grant_scope exceeds requested_scope"))
  let auth ← check (match ctx.auth with
    | some auth => .ok auth
    | none => .error (.unauthenticated "missing authentication context"))
  let identityId ← identityClaim tenantId consent.subject
  let subject ← publicSubject tenantId consent.subject
  check (refuseIf (auth.subject ≠ subject ∧ scopeTenantAdmin ∉ auth.scopes)
    (.permissionDenied "cannot accept consent for another subject"))
  let ceiling ← Prog.attempt (EntitlementService.effectiveScopeCeiling tenantId subject)
  check (refuseIf (outOfCeiling ceiling req.grantScope ≠ [])
    (.permissionDenied "requested scopes exceed entitlement ceiling"))
  return (identityId, subject)

/-- The entitlement claim of `accept_consent`: minted for the application the gate named, else for
the client's own mapping, and merged into the body. -/
def stampEntitlements (pass : GatePass) (subject : String) (appPublicId : Except ServiceError String)
    (body : Value) : Prog Gateway Value :=
  match pass.appPublicId.or appPublicId.toOption with
  | some app => mergeClaim body <$> EntitlementService.mintClaim pass.claimTenant subject app
  | none => return body

/-- The end of `accept_consent`: the entitlement gate, the claims, and the answer to Hydra. -/
def finishConsent (cfg : ConsentConfig) (req : AcceptConsentRequest) (tenantId challenge : String)
    (consent : ConsentRequest) (identityId : Option String) (subject : String) :
    Service Value := do
  let appPublicId ← Prog.attempt (publicClientId tenantId consent.clientId)
  let pass ← consentGate tenantId subject consent.clientId consent.skip
  let body ← Prog.attempt
    (stampIdentity cfg tenantId consent identityId (acceptConsentRequestToJson req))
  let body ← Prog.attempt (stampEntitlements pass subject appPublicId body)
  Prog.orThrow mapConsentOryError (callHydra (.acceptConsentRequest challenge body))

/-- Source: `accept_consent`. -/
def acceptConsent (cfg : ConsentConfig) (ctx : RequestContext) (req : AcceptConsentRequest) :
    Service Value := do
  let (tenantId, challenge, consent) ← fetchConsent ctx req
  let (identityId, subject) ← vetConsent ctx req tenantId consent
  finishConsent cfg req tenantId challenge consent identityId subject

end SsoGateway
