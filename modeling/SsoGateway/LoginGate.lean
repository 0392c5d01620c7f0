import SsoGateway.Consent

/-!
# Accepting a login with an existing session

A browser that comes back with a valid Kratos session is logged in without a form. Before the
gateway tells Hydra so, it decides on the same resolution of the client as the consent gate does.

* `loginGate` — the decision; a first-use-eligible client is left to the consent step.
* `acceptSkippableLogin` — the whole call.

Source: `services/identity_self_service.rs`, `services/self_service_url_rewriter.rs`.
-/

namespace SsoGateway

open Lib

/-! ## Assurance levels -/

/-- Source: `parse_aal_level`. -/
def parseAalLevel (value : String) : Option ℤ :=
  ((stripStart value "aal").bind parseI32).filter fun level => 0 < level

/-- Raise a required level to the one a value names, if it names one. -/
def raiseRequired (required : ℤ) (v : Value) : ℤ :=
  match v.asStr.bind parseAalLevel with
  | some level => max required level
  | none => required

/-- Source: `aal_level_from_login_request`. -/
def aalLevelFromLoginRequest (loginRequest : Value) : ℤ :=
  let required := match loginRequest.get "requested_aal" with
    | some v => raiseRequired 1 v
    | none => 1
  match ((loginRequest.get "oidc_context").bind fun v => v.get "acr_values").bind Value.asArray with
  | some values => values.foldl raiseRequired required
  | none => required

/-- The level of a session; an absent or unparseable one means a first-factor session. -/
def sessionAal (session : Value) : ℤ :=
  match ((session.get "authenticator_assurance_level").bind Value.asStr).bind parseAalLevel with
  | some aal => max aal 1
  | none => 1

/-! ## The gate -/

/-- How the gate lets a login pass. Source: `defer_to_consent` marks the second in the audit log. -/
inductive LoginVerdict where
  | passed
  | deferred
deriving DecidableEq, Repr

/-- The subject the gate checks: the public id, or the raw Kratos id where the lookup yields none. -/
def loginSubject (tenantId subject : String) : Prog Gateway String := do
  match ← IdMappingStore.getPublicId tenantId .kratos subject with
  | .ok publicId => return publicId
  | .error _ => return subject

/-- The arms of the login gate on a resolved client. -/
def loginGateOn (tenantId subject : String) : ClientEntitlement → Service LoginVerdict
  | .unmapped => return .passed
  | .crossTenantOwned publicId ownerTenant crossTenant => do
      if !crossTenant then
        throw otherOrganization
      else
        match ← Prog.attempt (EntitlementService.isMember ownerTenant subject publicId) with
        | .ok true => return .passed
        | _ => throw notEntitled
  | .localClient publicId source => do
      match ← Prog.attempt (EntitlementService.isMember tenantId subject publicId) with
      | .ok true => return .passed
      | _ => if source = .dcr then return .deferred else throw notEntitled
  | .provisional publicId ownerTenant => do
      match ← Prog.attempt (provisionalMember tenantId ownerTenant subject publicId) with
      | .ok true => return .passed
      | _ => return .deferred

/-- Source: the entitlement gate of `accept_skippable_login`. A resolution that fails is skipped
over. -/
def loginGate (tenantId subject oryClientId : String) : Service LoginVerdict := do
  match ← Prog.attempt (resolveClientEntitlement tenantId oryClientId) with
  | .ok resolution =>
      let publicSubject ← Prog.attempt (loginSubject tenantId subject)
      loginGateOn tenantId publicSubject resolution
  | .error _ => return .passed

/-! ## The call -/

/-- The URLs the service rewrites between. -/
structure SelfServiceConfig where
  hydraPublicUrl : String
  gatewayPublicUrl : String
deriving DecidableEq, Repr

/-- The field of the flow that an accepted login sets. Source: `SelfServiceFlow`. -/
structure SelfServiceFlow where
  redirectBrowserTo : String
deriving DecidableEq, Repr

/-- Source: `rewrite_url`. -/
def rewriteUrl (url publicUrl gatewayUrl : String) : String :=
  match stripStart url (trimEndMatches publicUrl '/') with
  | some suffix => trimEndMatches gatewayUrl '/' ++ suffix
  | none => url

/-- A nonempty string under two keys. -/
def nonemptyAt (v : Value) (key key' : String) : Option String :=
  (((v.get key).bind fun v => v.get key').bind Value.asStr).filter fun s => s ≠ ""

/-- The subject of a session. -/
def sessionSubject (session : Value) : Option String := nonemptyAt session "identity" "id"

/-- The client of a login request. -/
def loginClient (loginRequest : Value) : Option String :=
  nonemptyAt loginRequest "client" "client_id"

/-- The acceptance sent to Hydra. -/
def acceptLoginBody (subject : String) (session : Value) : Value :=
  let amr := match (session.get "authentication_methods").bind Value.asArray with
    | some methods => methods.filterMap fun (method : Value) => (method.get "method").bind Value.asStr
    | none => []
  let body : Value := .obj [("subject", .str subject), ("amr", .arr (amr.map .str))]
  match (session.get "id").bind Value.asStr with
  | some sessionId => body.insert "identity_provider_session_id" (.str sessionId)
  | none => body

/-- The flow an acceptance redirects the browser with. -/
def loginFlow (cfg : SelfServiceConfig) (accept : Value) : Except ServiceError SelfServiceFlow :=
  let redirectTo := ((accept.get "redirect_to").bind Value.asStr).getD ""
  if redirectTo = "" then .error (.internal "hydra accept login response missing redirect_to")
  else .ok ⟨rewriteUrl redirectTo cfg.hydraPublicUrl cfg.gatewayPublicUrl⟩

/-- The gate, on the client a login request names; there is none without a client. -/
def gateLogin (tenantId subject : String) (loginRequest : Value) : Service LoginVerdict :=
  match loginClient loginRequest with
  | some oryClientId => loginGate tenantId subject oryClientId
  | none => return .passed

/-- The rest of `accept_skippable_login` once there is a session. -/
def acceptWithSession (cfg : SelfServiceConfig) (tenantId oryChallenge : String)
    (loginRequest session : Value) : Service (Option SelfServiceFlow) :=
  match sessionSubject session with
  | none => return none
  | some subject => do
      if sessionAal session < aalLevelFromLoginRequest loginRequest then
        return none
      else
        let _ ← gateLogin tenantId subject loginRequest
        let accept ← Prog.orThrow mapConsentOryError
          (callHydra (.acceptLoginRequest oryChallenge (acceptLoginBody subject session)))
        let flow ← check (loginFlow cfg accept)
        return some flow

/-- Source: `accept_skippable_login`. -/
def acceptSkippableLogin (cfg : SelfServiceConfig) (tenantId oryChallenge : String)
    (cookie : Option String) : Service (Option SelfServiceFlow) := do
  match ← Prog.attempt (callHydra (.getLoginRequest oryChallenge)) with
  | .error _ => return none
  | .ok loginRequest =>
      match cookie with
      | none => return none
      | some cookie =>
          match ← Prog.attempt (callKratos (.toSession (some cookie))) with
          | .error _ => return none
          | .ok session => acceptWithSession cfg tenantId oryChallenge loginRequest session

end SsoGateway
