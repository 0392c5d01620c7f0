import SsoGateway.DcrMaintenance
import SsoGateway.PublicOauth2
import SsoGateway.Steps

/-!
# The calls of the public endpoints and of the maintenance

Which calls the handlers and the two passes can make, whatever the answers, for an arbitrary
predicate on calls. The results that only depend on the kind of a call are read off these lemmas.
-/

namespace SsoGateway

open Lib

section calls

variable {P : GatewayOp → Prop}

/-! ## Maintenance -/

theorem calls_applicationRowExists (hP : ∀ op, op.IsQuery → P op) (tenantId publicId : String) :
    (applicationRowExists tenantId publicId).run.Calls P := by
  refine Prog.calls_run_bind (Prog.calls_run_attempt (Prog.calls_perform (hP _ trivial)))
    fun r => ?_
  split <;> exact trivial

theorem calls_isAgent (hP : ∀ op, op.IsQuery → P op) (publicId : String) :
    (isAgent publicId).run.Calls P := by
  refine Prog.calls_run_bind (Prog.calls_run_attempt (Prog.calls_perform (hP _ trivial)))
    fun r => ?_
  split <;> exact trivial

theorem calls_seedTupleless (hP : ∀ op, op.IsQuery → P op) {cfg : DcrMaintenance}
    {tenantId publicId : String}
    (hseed : P (.entitlement (.seedApplication tenantId publicId cfg.defaultGroups))) :
    (seedTupleless cfg tenantId publicId).run.Calls P := by
  refine Prog.calls_run_bind (Prog.calls_run_orThrow (Prog.calls_perform (hP _ trivial)))
    fun tuples => ?_
  split
  · exact trivial
  · exact Prog.calls_run_bind (Prog.calls_run_orThrow (Prog.calls_perform hseed)) fun _ => trivial

theorem calls_ensureBackfilledRow (hP : ∀ op, op.IsQuery → P op) {tenantId publicId : String}
    (hcreate : P (.application (.create tenantId publicId false .dcr))) :
    (ensureBackfilledRow tenantId publicId).run.Calls P := by
  refine Prog.calls_run_bind (Prog.calls_run_attempt (Prog.calls_perform hcreate)) fun r => ?_
  split
  · exact trivial
  · refine Prog.calls_run_bind (calls_applicationRowExists hP _ _) fun found => ?_
    split <;> exact trivial

/-- A backfilled client is looked up, seeded, and given a row. -/
theorem calls_backfillClient (hP : ∀ op, op.IsQuery → P op) {cfg : DcrMaintenance}
    {tenantId publicId : String}
    (hseed : P (.entitlement (.seedApplication tenantId publicId cfg.defaultGroups)))
    (hcreate : P (.application (.create tenantId publicId false .dcr))) :
    (backfillClient cfg tenantId publicId).run.Calls P := by
  refine Prog.calls_run_bind (calls_applicationRowExists hP _ _) fun found => ?_
  split
  · exact trivial
  · refine Prog.calls_run_bind (calls_isAgent hP _) fun agent => ?_
    split
    · exact trivial
    · exact Prog.calls_run_bind (calls_seedTupleless hP hseed) fun _ =>
        Prog.calls_run_bind (calls_ensureBackfilledRow hP hcreate) fun _ => trivial

theorem calls_nowInUse (hP : ∀ op, op.IsQuery → P op) (tenantId publicId : String) :
    (nowInUse tenantId publicId).run.Calls P := by
  refine Prog.calls_run_bind (Prog.calls_run_orThrow (Prog.calls_perform (hP _ trivial)))
    fun tuples => ?_
  split
  · exact trivial
  · exact calls_applicationRowExists hP _ _

theorem calls_deleteHydraClient {oryId : String} (hclient : P (.hydra (.deleteOauth2Client oryId))) :
    (deleteHydraClient oryId).run.Calls P := by
  refine Prog.calls_run_bind (Prog.calls_run_attempt (Prog.calls_perform hclient)) fun r => ?_
  split <;> exact trivial

theorem calls_deleteClientMapping {tenantId publicId : String}
    (hmapping : P (.mapping (.delete tenantId .hydra publicId))) :
    (deleteClientMapping tenantId publicId).run.Calls P := by
  refine Prog.calls_run_bind (Prog.calls_run_attempt (Prog.calls_perform hmapping)) fun r => ?_
  split <;> exact trivial

/-- A collected registration is looked up, and deleted at Hydra and in `id_mappings`. -/
theorem calls_reapRegistration (hP : ∀ op, op.IsQuery → P op) {tenantId : String}
    {row : IdMappingRow} (hclient : P (.hydra (.deleteOauth2Client row.oryGlobalId)))
    (hmapping : P (.mapping (.delete tenantId .hydra row.publicId))) (cfg : DcrMaintenance) :
    (reapRegistration cfg tenantId row).run.Calls P := by
  refine Prog.calls_run_bind (Prog.calls_run_attempt (Prog.calls_perform (hP _ trivial)))
    fun now => ?_
  split
  · exact trivial
  · refine Prog.calls_run_bind (calls_applicationRowExists hP _ _) fun found => ?_
    split
    · exact trivial
    · refine Prog.calls_run_bind (calls_isAgent hP _) fun agent => ?_
      split
      · exact trivial
      · refine Prog.calls_run_bind (calls_nowInUse hP _ _) fun used => ?_
        split
        · exact trivial
        · exact Prog.calls_run_bind (calls_deleteHydraClient hclient) fun _ =>
            Prog.calls_run_bind (calls_deleteClientMapping hmapping) fun _ => trivial

/-- The collector lists, looks up and deletes. -/
theorem calls_reapUnusedRegistrations (hP : ∀ op, op.IsQuery → P op)
    (hclient : ∀ id, P (.hydra (.deleteOauth2Client id)))
    (hmapping : ∀ t p, P (.mapping (.delete t .hydra p))) (cfg : DcrMaintenance) :
    (reapUnusedRegistrations cfg).Calls P := by
  have htenant : ∀ stats tenant, (reapTenant cfg stats tenant).Calls P := by
    intro stats tenant
    refine Prog.calls_bind (Prog.calls_perform (hP _ trivial)) fun r => ?_
    split
    · exact trivial
    · exact Prog.calls_foldlM (fun stats row _ =>
        Prog.calls_map (calls_reapRegistration hP (hclient _) (hmapping _ _) cfg)) _
  unfold reapUnusedRegistrations
  split
  · exact trivial
  · refine Prog.calls_bind (Prog.calls_perform (hP _ trivial)) fun r => ?_
    split
    · exact trivial
    · exact Prog.calls_foldlM (fun stats tenant _ => htenant stats tenant) _

/-! ## Registration -/

/-- A registration creates one client at Hydra and one mapping. -/
theorem calls_register (hP : ∀ op, op.IsLookup → P op) {st : Oauth2State}
    {auth : Option AuthContext} {body : Value}
    (hclient : ∀ p, P (.hydra (.createOauth2Client ((Registration.ofBody st body).payload p))))
    (hmapping : ∀ p o, P (.mapping (.create ((auth.map (·.tenantId)).getD st.systemTenantId) .hydra
      p o))) (lib : Libraries) : (register lib st auth body).Calls P := by
  unfold register
  split
  · exact trivial
  · split
    · exact trivial
    · refine Prog.calls_bind (Prog.calls_perform (hP _ trivial)) fun p => ?_
      refine Prog.calls_bind (Prog.calls_perform (hclient p)) fun created => ?_
      split
      · exact trivial
      · split
        · exact trivial
        · refine Prog.calls_bind (Prog.calls_perform (hmapping p _)) fun r => ?_
          split
          · exact trivial
          · exact Prog.calls_bind (Prog.calls_perform (hP _ trivial)) fun _ => trivial

/-! ## The client a request names -/

/-- A client is looked up; one that only Hydra knows is mapped under the system tenant. -/
theorem calls_resolvePublicClient (hP : ∀ op, op.IsLookup → P op) {st : Oauth2State}
    {clientId : String} (hheal : ∀ o, P (.mapping (.create st.systemTenantId .hydra clientId o))) :
    (resolvePublicClient st clientId).run.Calls P := by
  have hhealing : (healClientMapping st clientId).run.Calls P := by
    refine Prog.calls_run_bind (Prog.calls_run_attempt (Prog.calls_perform (hP _ trivial)))
      fun r => ?_
    split
    · exact trivial
    · exact trivial
    · exact Prog.calls_run_bind (Prog.calls_run_attempt (Prog.calls_perform (hheal _)))
        fun _ => trivial
  unfold resolvePublicClient
  split
  · exact trivial
  · refine Prog.calls_run_bind (Prog.calls_run_attempt (Prog.calls_perform (hP _ trivial)))
      fun r => ?_
    split
    · exact trivial
    · exact hhealing
    · exact trivial

theorem calls_resolvePublicClientForAuthorize (hP : ∀ op, op.IsLookup → P op) (clientId : String) :
    (resolvePublicClientForAuthorize clientId).run.Calls P := by
  unfold resolvePublicClientForAuthorize
  split
  · exact trivial
  · refine Prog.calls_run_bind (Prog.calls_run_attempt (Prog.calls_perform (hP _ trivial)))
      fun r => ?_
    split <;> exact trivial

/-- A mapping whose client is gone is deleted, with the client's entitlements. -/
theorem calls_deleteOrphanedClientMapping (hP : ∀ op, op.IsLookup → P op)
    (hremove : ∀ t p, P (.entitlement (.removeApplication t p)))
    (hdelete : ∀ t p, P (.mapping (.delete t .hydra p))) (oryId : String) :
    (deleteOrphanedClientMapping oryId).Calls P := by
  have hentitlements : ∀ t p, (removeEntitlements t p).Calls P := by
    intro t p
    refine Prog.calls_bind (Prog.calls_perform (hP _ trivial)) fun r => ?_
    split
    · exact Prog.calls_bind (Prog.calls_perform (hremove t p)) fun _ => trivial
    · exact trivial
  refine Prog.calls_bind (Prog.calls_perform (hP _ trivial)) fun r => ?_
  split
  · refine Prog.calls_bind (Prog.calls_perform (hP _ trivial)) fun r => ?_
    split
    · exact Prog.calls_bind (hentitlements _ _) fun _ =>
        Prog.calls_bind (Prog.calls_perform (hdelete _ _)) fun _ => trivial
    · exact trivial
  · exact trivial
  · exact trivial

/-! ## Requests to Hydra -/

/-- An authorization that passes the guard may widen its client, and is sent to Hydra. -/
theorem calls_authorize (hP : ∀ op, op.IsLookup → P op) {st : Oauth2State} {cookies : List String}
    {params : Params} (hremove : ∀ t p, P (.entitlement (.removeApplication t p)))
    (hdelete : ∀ t p, P (.mapping (.delete t .hydra p)))
    (hexpand : ∀ oryId client, P (.hydra (.updateOauth2Client oryId (expandedClient st client))))
    (hsend : (params "scope").bind disallowedMatrixScope = none → ∀ oryId, P (.hydra (.authorize
      (authorizeQuery params oryId (withMatrixOfflineAccess st ((params "scope").getD "")))
      (joinCookies cookies)))) (lib : Libraries) : (authorize lib st cookies params).Calls P := by
  have hheal : ∀ oryId requested, (healMatrixScope st oryId requested).Calls P := by
    intro oryId requested
    unfold healMatrixScope
    split
    · refine Prog.calls_bind (Prog.calls_perform (hP _ trivial)) fun r => ?_
      split
      · exact calls_deleteOrphanedClientMapping hP hremove hdelete oryId
      · exact trivial
      · split
        · exact trivial
        · exact Prog.calls_bind (Prog.calls_perform (hexpand oryId _)) fun _ => trivial
    · exact trivial
  unfold authorize
  split
  · exact trivial
  · rename_i hguard
    refine Prog.calls_bind (calls_resolvePublicClientForAuthorize hP _) fun r => ?_
    split
    · exact trivial
    · refine Prog.calls_bind (hheal _ _) fun _ => ?_
      refine Prog.calls_bind (Prog.calls_perform (hsend hguard _)) fun r => ?_
      split <;> exact trivial

/-- A form is sent to Hydra for the client it names. -/
theorem calls_forwardForm (hP : ∀ op, op.IsLookup → P op) {st : Oauth2State}
    (hheal : ∀ p o, P (.mapping (.create st.systemTenantId .hydra p o)))
    {send : Params → Option (String × String) → Prog Gateway (Except OryClientError Value)}
    (hsend : ∀ form credentials, (send form credentials).Calls P) (lib : Libraries)
    (req : FormRequest) : (forwardForm lib st req send).Calls P := by
  refine Prog.calls_bind (calls_resolvePublicClient hP (hheal _)) fun r => ?_
  split
  · exact trivial
  · refine Prog.calls_bind (hsend _ _) fun r => ?_
    split <;> exact trivial

end calls

end SsoGateway
