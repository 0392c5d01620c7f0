import SsoGateway.Clients
import SsoGateway.ConsentCalls
import SsoGateway.ScimCalls
import SsoGateway.ScopeContainment

/-!
# Who writes `id_mappings`

Every operation of the gateway that writes the table, as one type, and what they have in common: an
operation inserts at most one row.

* `MappingWriter`, `MappingWriter.prog` — the operations.
* `GatewayOp.InsertsMapping` — the inserting call.
* `once_prog` — no operation makes it twice.
-/

namespace SsoGateway

open Lib

/-! ## The operations -/

/-- The operations that write `id_mappings`. -/
inductive MappingWriter where
  | createApplication (lib : Libraries) (cfg : ApplicationConfig) (ctx : RequestContext)
      (req : CreateApplicationRequest)
  | createClientCredential (ctx : RequestContext) (req : CreateClientCredentialRequest)
  | createAgent (ctx : RequestContext) (req : CreateAgentRequest)
  | createIdentity (cfg : IdentityConfig) (ctx : RequestContext) (req : CreateIdentityRequest)
  /-- SCIM. -/
  | createUser (compile : SchemaCompiler) (ctx : RequestContext) (user : Option ScimUser)
  /-- A request to a public OAuth2 endpoint: registrations, and those that name a client. -/
  | publicRequest (lib : Libraries) (st : Oauth2State) (request : PublicRequest)
  /-- Any other endpoint that names a client. -/
  | resolvePublicClient (st : Oauth2State) (clientId : String)
  /-- The subject of a consent or logout request, shown to the caller. -/
  | publicSubject (tenantId orySubject : String)
  | acceptConsent (cfg : ConsentConfig) (ctx : RequestContext) (req : AcceptConsentRequest)
  /-- The end of a self-service registration. -/
  | selfService (compile : SchemaCompiler) (tenantId : String)
      (result : Except OryClientError Value)
  /-- The end of a federated login. -/
  | findOrCreateByEmail (lib : Libraries) (cfg : IdentityConfig) (tenantId : String)
      (schema : IdentitySchemaRow) (traits : Value)
  /-- A run of the collector. -/
  | reapUnusedRegistrations (cfg : DcrMaintenance)
  | updateTenant (backend : Backend) (publicId newTenantId : String)

/-- The program of an operation; what it answers is not looked at. -/
def MappingWriter.prog : MappingWriter → Prog Gateway Unit
  | .createApplication lib cfg ctx req =>
      (fun _ => ()) <$> (SsoGateway.createApplication lib cfg ctx req).run
  | .createClientCredential ctx req =>
      (fun _ => ()) <$> (SsoGateway.createClientCredential ctx req).run
  | .createAgent ctx req => (fun _ => ()) <$> (SsoGateway.createAgent ctx req).run
  | .createIdentity cfg ctx req => (fun _ => ()) <$> (SsoGateway.createIdentity cfg ctx req).run
  | .createUser compile ctx user => (fun _ => ()) <$> (SsoGateway.createUser compile ctx user).run
  | .publicRequest lib st request => (fun _ => ()) <$> request.handle lib st
  | .resolvePublicClient st clientId =>
      (fun _ => ()) <$> (SsoGateway.resolvePublicClient st clientId).run
  | .publicSubject tenantId orySubject =>
      (fun _ => ()) <$> (SsoGateway.publicSubject tenantId orySubject).run
  | .acceptConsent cfg ctx req => (fun _ => ()) <$> (SsoGateway.acceptConsent cfg ctx req).run
  | .selfService compile tenantId result =>
      (fun _ => ()) <$> (provisionIdentityFromRegistrationResult compile tenantId result).run
  | .findOrCreateByEmail lib cfg tenantId schema traits =>
      (fun _ => ()) <$> (SsoGateway.findOrCreateByEmail lib cfg tenantId schema traits).run
  | .reapUnusedRegistrations cfg => (fun _ => ()) <$> SsoGateway.reapUnusedRegistrations cfg
  | .updateTenant backend publicId newTenantId =>
      (fun _ => ()) <$> IdMappingStore.updateTenant backend publicId newTenantId

/-! ## Insertions -/

/-- The call inserts a row into `id_mappings`. -/
def GatewayOp.InsertsMapping : GatewayOp → Prop
  | .mapping (.create _ _ _ _) => True
  | _ => False

theorem not_insertsMapping_of_isLookup {op : GatewayOp} (hop : op.IsLookup) :
    ¬ op.InsertsMapping := by
  unfold GatewayOp.InsertsMapping
  split
  · exact fun _ => hop
  · exact id

theorem not_insertsMapping_of_isGroupCall (op : GatewayOp) (hop : op.IsGroupCall) :
    ¬ op.InsertsMapping := by
  unfold GatewayOp.InsertsMapping
  split
  · exact fun _ => hop
  · exact id

theorem not_insertsMapping_of_isScimRead (op : GatewayOp) (hop : op.IsScimRead) :
    ¬ op.InsertsMapping := by
  unfold GatewayOp.InsertsMapping
  split
  · exact fun _ => hop
  · exact id

/-- A program that inserts no row. -/
abbrev InsertsNone {α : Type} (p : Prog Gateway α) : Prop :=
  p.Calls fun op : GatewayOp => ¬ op.InsertsMapping

/-- A program that inserts at most one row. -/
abbrev InsertsOnce {α : Type} (p : Prog Gateway α) : Prop := p.Once GatewayOp.InsertsMapping

/-- One call that inserts no row. -/
theorem insertsNone_perform {op : GatewayOp} (hop : ¬ op.InsertsMapping) :
    InsertsNone (Prog.perform (S := Gateway) op) := Prog.calls_perform hop

/-! ## Clients -/

theorem once_registerClient (tenantId : String) (payload : String → Value) :
    InsertsOnce (registerClient tenantId payload).run := by
  refine Prog.once_run_bind_right (Prog.calls_run_attempt (insertsNone_perform id))
    fun publicId => ?_
  refine Prog.once_run_bind_right (Prog.calls_run_orThrow (insertsNone_perform id))
    fun created => ?_
  refine Prog.once_run_bind_right (calls_check _) fun oryId => ?_
  exact Prog.once_run_bind_left (Prog.once_run_orThrow Prog.once_perform) fun _ => trivial

theorem once_createApplication (lib : Libraries) (cfg : ApplicationConfig) (ctx : RequestContext)
    (req : CreateApplicationRequest) : InsertsOnce (createApplication lib cfg ctx req).run := by
  refine Prog.once_run_bind_right (calls_check _) fun tenantId => ?_
  refine Prog.once_run_bind_left (once_registerClient tenantId _) fun ⟨publicId, created⟩ => ?_
  refine Prog.calls_run_bind (Prog.calls_run_orThrow (insertsNone_perform id)) fun _ => ?_
  exact Prog.calls_run_bind (Prog.calls_run_orThrow (insertsNone_perform id)) fun _ => trivial

theorem once_createClientCredential (ctx : RequestContext) (req : CreateClientCredentialRequest) :
    InsertsOnce (createClientCredential ctx req).run := by
  refine Prog.once_run_bind_right (calls_check _) fun ⟨tenantId, method⟩ => ?_
  exact Prog.once_run_bind_left (once_registerClient tenantId _) fun _ => trivial

theorem once_createAgent (ctx : RequestContext) (req : CreateAgentRequest) :
    InsertsOnce (createAgent ctx req).run := by
  have hclient : ∀ tenantId agent payload,
      InsertsNone (createAgentClient tenantId agent payload).run := by
    intro tenantId agent payload
    refine Prog.calls_run_bind (Prog.calls_run_attempt (insertsNone_perform id)) fun r => ?_
    split
    · exact trivial
    · exact Prog.calls_run_bind (Prog.calls_run_attempt (insertsNone_perform id)) fun _ => trivial
  have hmap : ∀ tenantId agent oryId, InsertsOnce (mapAgent tenantId agent oryId).run := by
    intro tenantId agent oryId
    refine Prog.once_run_bind_left (Prog.once_run_attempt Prog.once_perform) fun r => ?_
    split
    · exact trivial
    · refine Prog.calls_run_bind (Prog.calls_run_attempt (insertsNone_perform id)) fun _ => ?_
      exact Prog.calls_run_bind (Prog.calls_run_attempt (insertsNone_perform id)) fun _ => trivial
  refine Prog.once_run_bind_right (calls_check _) fun tenantId => ?_
  refine Prog.once_run_bind_right (Prog.calls_run_orThrow (insertsNone_perform id)) fun agent => ?_
  refine Prog.once_run_bind_right (hclient tenantId agent _) fun created => ?_
  exact Prog.once_run_bind_left (hmap tenantId agent _) fun _ => trivial

/-! ## Identities -/

theorem once_registerIdentity (tenantId : String) (payload : Value) :
    InsertsOnce (registerIdentity tenantId payload).run := by
  refine Prog.once_run_bind_right (Prog.calls_run_orThrow (insertsNone_perform id))
    fun created => ?_
  refine Prog.once_run_bind_right (calls_check _) fun oryId => ?_
  refine Prog.once_run_bind_right (Prog.calls_run_attempt (insertsNone_perform id))
    fun publicId => ?_
  exact Prog.once_run_bind_left (Prog.once_run_orThrow Prog.once_perform) fun _ => trivial

theorem once_createIdentity (cfg : IdentityConfig) (ctx : RequestContext)
    (req : CreateIdentityRequest) : InsertsOnce (createIdentity cfg ctx req).run := by
  refine Prog.once_run_bind_right (calls_check _) fun tenantId => ?_
  refine Prog.once_run_bind_right (calls_resolveSchema not_insertsMapping_of_isScimRead tenantId _) fun schema => ?_
  refine Prog.once_run_bind_right (calls_check _) fun ⟨traits, email⟩ => ?_
  refine Prog.once_run_bind_left (once_registerIdentity tenantId _) fun ⟨oryId, publicId⟩ => ?_
  refine Prog.calls_run_bind ?_ fun _ => trivial
  refine Prog.calls_run_bind (Prog.calls_run_attempt (insertsNone_perform id)) fun r => ?_
  split
  · exact trivial
  · exact Prog.calls_run_bind (Prog.calls_run_attempt (insertsNone_perform id)) fun _ => trivial

theorem once_createUser (compile : SchemaCompiler) (ctx : RequestContext) (user : Option ScimUser) :
    InsertsOnce (createUser compile ctx user).run := by
  refine Prog.once_run_bind_right (calls_check _) fun ⟨tenantId, input⟩ => ?_
  refine Prog.once_run_bind_right (calls_resolveSchema not_insertsMapping_of_isScimRead tenantId _) fun schema => ?_
  refine Prog.once_run_bind_right (calls_check _) fun _ => ?_
  refine Prog.once_run_bind_left (once_registerIdentity tenantId _) fun ⟨_, publicId⟩ => ?_
  refine Prog.calls_run_bind (Prog.calls_run_forM fun groupId _ => ?_) fun _ => ?_
  · exact calls_addUserToGroup not_insertsMapping_of_isGroupCall tenantId publicId groupId
  · exact calls_loadUser not_insertsMapping_of_isScimRead tenantId publicId

theorem once_selfService (compile : SchemaCompiler) (tenantId : String)
    (result : Except OryClientError Value) :
    InsertsOnce (provisionIdentityFromRegistrationResult compile tenantId result).run := by
  have hidentity : InsertsNone (registeredIdentity result) := by
    unfold registeredIdentity
    split
    · exact trivial
    · split
      · exact trivial
      · refine Prog.calls_bind (insertsNone_perform id) fun r => ?_
        split <;> exact trivial
    · exact trivial
  have henroll : ∀ publicId schema traits,
      InsertsNone (enrollSelfService compile tenantId publicId schema traits).run := by
    intro publicId schema traits
    unfold enrollSelfService
    split
    · exact Prog.calls_run_bind (Prog.calls_run_attempt (insertsNone_perform id)) fun _ => trivial
    · refine Prog.calls_run_bind (Prog.calls_run_attempt (insertsNone_perform id)) fun r => ?_
      split
      · exact trivial
      · exact Prog.calls_run_bind (Prog.calls_run_attempt (insertsNone_perform id))
          fun _ => trivial
  refine Prog.once_run_bind_right (Prog.calls_run_attempt hidentity) fun identity => ?_
  split
  · refine Prog.once_run_bind_right (calls_check _) fun oryId => ?_
    refine Prog.once_run_bind_right (Prog.calls_run_attempt (insertsNone_perform id)) fun r => ?_
    split
    · exact trivial
    · refine Prog.once_run_bind_right (Prog.calls_run_attempt (insertsNone_perform id))
        fun publicId => ?_
      refine Prog.once_run_bind_left (Prog.once_run_orThrow Prog.once_perform) fun _ => ?_
      exact Prog.calls_run_bind (Prog.calls_run_orThrow (insertsNone_perform id)) fun schema =>
        henroll publicId schema _
  · exact trivial

theorem once_findOrCreateByEmail (lib : Libraries) (cfg : IdentityConfig) (tenantId : String)
    (schema : IdentitySchemaRow) (traits : Value) :
    InsertsOnce (findOrCreateByEmail lib cfg tenantId schema traits).run := by
  have hlink : ∀ oryId, InsertsOnce (linkIdentity tenantId oryId).run := by
    intro oryId
    refine Prog.once_run_bind_right (Prog.calls_run_attempt (insertsNone_perform id)) fun r => ?_
    split
    · exact trivial
    · refine Prog.once_run_bind_right (Prog.calls_run_attempt (insertsNone_perform id)) fun _ => ?_
      exact Prog.once_run_bind_left (Prog.once_run_orThrow Prog.once_perform) fun _ => trivial
    · exact trivial
  have hprovision : ∀ email, InsertsOnce (provisionIdentity cfg tenantId email).run := by
    intro email
    refine Prog.once_run_bind_right (Prog.calls_run_orThrow (insertsNone_perform id)) fun _ => ?_
    refine Prog.once_run_bind_right (by exact trivial) fun oryId => ?_
    refine Prog.once_run_bind_right (Prog.calls_run_attempt (insertsNone_perform id)) fun _ => ?_
    exact Prog.once_run_bind_left (Prog.once_run_orThrow Prog.once_perform) fun _ => trivial
  have hmembership : ∀ publicId,
      InsertsNone (ensureMembership tenantId publicId schema traits).run := by
    intro publicId
    refine Prog.calls_run_bind (Prog.calls_run_attempt (insertsNone_perform id)) fun r => ?_
    split
    · exact trivial
    · exact Prog.calls_run_bind (Prog.calls_run_orThrow (insertsNone_perform id)) fun _ => trivial
    · exact trivial
  have hidentity : ∀ email, InsertsOnce (linkOrProvision cfg tenantId email).run := by
    intro email
    refine Prog.once_run_bind_right (Prog.calls_run_orThrow (insertsNone_perform id)) fun _ => ?_
    split
    · refine Prog.once_run_bind_right (by exact trivial) fun oryId => ?_
      exact Prog.once_run_bind_left (hlink oryId) fun _ => trivial
    · exact hprovision email
  refine Prog.once_run_bind_right (by exact trivial) fun email => ?_
  refine Prog.once_run_bind_left (hidentity email) fun ⟨oryId, publicId⟩ => ?_
  exact Prog.calls_run_bind (hmembership publicId) fun _ => trivial

/-! ## Public requests and consents -/

theorem once_resolvePublicClient (st : Oauth2State) (clientId : String) :
    InsertsOnce (resolvePublicClient st clientId).run := by
  have hheal : InsertsOnce (healClientMapping st clientId).run := by
    refine Prog.once_run_bind_right (Prog.calls_run_attempt (insertsNone_perform id)) fun r => ?_
    split
    · exact trivial
    · exact trivial
    · exact Prog.once_run_bind_left (Prog.once_run_attempt Prog.once_perform) fun _ => trivial
  unfold resolvePublicClient
  split
  · exact trivial
  · refine Prog.once_run_bind_right (Prog.calls_run_attempt (insertsNone_perform id)) fun r => ?_
    split
    · exact trivial
    · exact hheal
    · exact trivial

theorem once_forwardForm (lib : Libraries) (st : Oauth2State) (req : FormRequest)
    {send : Params → Option (String × String) → Prog Gateway (Except OryClientError Value)}
    (hsend : ∀ form credentials, InsertsNone (send form credentials)) :
    InsertsOnce (forwardForm lib st req send) := by
  refine Prog.once_bind_left (once_resolvePublicClient st _) fun r => ?_
  split
  · exact trivial
  · refine Prog.calls_bind (hsend _ _) fun r => ?_
    split <;> exact trivial

theorem once_register (lib : Libraries) (st : Oauth2State) (auth : Option AuthContext)
    (body : Value) : InsertsOnce (register lib st auth body) := by
  unfold register
  split
  · exact trivial
  · split
    · exact trivial
    · refine Prog.once_bind_right (insertsNone_perform id) fun publicId => ?_
      refine Prog.once_bind_right (insertsNone_perform id) fun created => ?_
      split
      · exact trivial
      · split
        · exact trivial
        · refine Prog.once_bind_left Prog.once_perform fun r => ?_
          split
          · exact trivial
          · exact Prog.calls_bind (insertsNone_perform id) fun _ => trivial

theorem once_handle (lib : Libraries) (st : Oauth2State) (request : PublicRequest) :
    InsertsOnce (request.handle lib st) := by
  cases request with
  | register auth body => exact once_register lib st auth body
  | authorize cookies params =>
      have hcalls : InsertsNone (SsoGateway.authorize lib st cookies params) :=
        calls_authorize (fun _ => not_insertsMapping_of_isLookup) (fun _ _ => id) (fun _ _ => id)
          (fun _ _ => id) (fun _ _ => id) lib
      exact hcalls.once
  | token req =>
      show InsertsOnce (SsoGateway.token lib st req)
      unfold SsoGateway.token
      exact once_forwardForm lib st req fun _ _ => insertsNone_perform id
  | device path req =>
      show InsertsOnce (SsoGateway.device lib st path req)
      unfold SsoGateway.device
      exact once_forwardForm lib st req fun _ _ => insertsNone_perform id

theorem once_publicSubject (tenantId orySubject : String) :
    InsertsOnce (publicSubject tenantId orySubject).run := by
  unfold publicSubject
  split
  · exact trivial
  · refine Prog.once_run_bind_right (Prog.calls_run_attempt (insertsNone_perform id)) fun r => ?_
    split
    · exact trivial
    · refine Prog.once_run_bind_right (Prog.calls_run_attempt (insertsNone_perform id)) fun _ => ?_
      exact Prog.once_run_bind_left (Prog.once_run_orThrow Prog.once_perform) fun _ => trivial
    · exact trivial

theorem once_acceptConsent (cfg : ConsentConfig) (ctx : RequestContext)
    (req : AcceptConsentRequest) : InsertsOnce (acceptConsent cfg ctx req).run := by
  have hlookup : ∀ op : GatewayOp, op.IsLookup → ¬ op.InsertsMapping :=
    fun _ => not_insertsMapping_of_isLookup
  have hfetch : InsertsNone (fetchConsent ctx req).run := by
    refine Prog.calls_run_bind (calls_check _) fun _ => ?_
    refine Prog.calls_run_bind (calls_check _) fun tenantId => ?_
    refine Prog.calls_run_bind (calls_oryChallenge hlookup tenantId _) fun challenge => ?_
    exact Prog.calls_run_bind (Prog.calls_run_orThrow (insertsNone_perform id)) fun _ => trivial
  have hvet : ∀ tenantId consent, InsertsOnce (vetConsent ctx req tenantId consent).run := by
    intro tenantId consent
    refine Prog.once_run_bind_right (calls_check _) fun _ => ?_
    refine Prog.once_run_bind_right (calls_check _) fun auth => ?_
    refine Prog.once_run_bind_right (calls_identityClaim hlookup _ _) fun identityId => ?_
    refine Prog.once_run_bind_left (once_publicSubject tenantId _) fun subject => ?_
    refine Prog.calls_run_bind (calls_check _) fun _ => ?_
    refine Prog.calls_run_bind (Prog.calls_run_attempt (insertsNone_perform id)) fun ceiling => ?_
    exact Prog.calls_run_bind (calls_check _) fun _ => trivial
  refine Prog.once_run_bind_right hfetch fun ⟨tenantId, challenge, consent⟩ => ?_
  refine Prog.once_run_bind_left (hvet tenantId consent) fun ⟨identityId, subject⟩ => ?_
  exact calls_finishConsent hlookup (fun _ _ _ => id) (fun _ => id)
    (fun _ => ⟨fun _ => id, fun _ => id, fun _ => id⟩) cfg req identityId

/-! ## Every operation -/

/-- **An operation inserts at most one row.** -/
theorem once_prog (writer : MappingWriter) : InsertsOnce writer.prog := by
  cases writer with
  | createApplication lib cfg ctx req =>
      exact Prog.once_map (once_createApplication lib cfg ctx req)
  | createClientCredential ctx req => exact Prog.once_map (once_createClientCredential ctx req)
  | createAgent ctx req => exact Prog.once_map (once_createAgent ctx req)
  | createIdentity cfg ctx req => exact Prog.once_map (once_createIdentity cfg ctx req)
  | createUser compile ctx user => exact Prog.once_map (once_createUser compile ctx user)
  | publicRequest lib st request => exact Prog.once_map (once_handle lib st request)
  | resolvePublicClient st clientId => exact Prog.once_map (once_resolvePublicClient st clientId)
  | publicSubject tenantId orySubject =>
      exact Prog.once_map (once_publicSubject tenantId orySubject)
  | acceptConsent cfg ctx req => exact Prog.once_map (once_acceptConsent cfg ctx req)
  | selfService compile tenantId result =>
      exact Prog.once_map (once_selfService compile tenantId result)
  | findOrCreateByEmail lib cfg tenantId schema traits =>
      exact Prog.once_map (once_findOrCreateByEmail lib cfg tenantId schema traits)
  | reapUnusedRegistrations cfg =>
      have hcalls : InsertsNone (SsoGateway.reapUnusedRegistrations cfg) :=
        calls_reapUnusedRegistrations (fun _ hop => not_insertsMapping_of_isLookup hop.isLookup)
          (fun _ => id) (fun _ _ => id) cfg
      exact Prog.once_map hcalls.once
  | updateTenant backend publicId newTenantId => exact Prog.once_map Prog.once_perform

end SsoGateway
