import SsoGateway.CertificateBlocks
import SsoGateway.FederationCalls
import SsoGateway.Lib.Base64
import SsoGateway.Lib.OwnCalls

/-!
# Logins with a SAML response

`InitiateSamlLogin` records a request under the id of its AuthnRequest. The identity provider answers with
a response to that id, at `AcceptSamlAssertion` or at `/saml/acs`: the request is looked up, the response is
checked under the provider's certificate, its assertion is inserted into the replay cache, the request is
deleted, and the NameID is turned into an identity.

* `SamlLibrary` — what the SAML library does, with what is relied on.
* `initiateSamlLogin`, `processSamlAssertion`, `acceptSamlAssertion`, `processSamlAssertionHttp`,
  `samlAcsCallback`, `provisionSaml` — the functions.
* `SamlLoginRequest`, `samlLogins` — any number of requests, their calls interleaved.

Source: `services/federation.rs`, `services/handlers/callback.rs`, `identity_provisioner.rs`,
`db/saml_request.rs`.
-/

namespace SsoGateway

open Lib

/-! ## The library -/

/-- What a response is checked against: the arguments of `process_response_with_verified_signatures`, and
the part of `SecurityConfig` that is set. -/
structure ResponseCheck where
  requireSignedAssertions : Bool
  requireSignedResponses : Bool
  spEntityId : String
  acsUrl : String
  requestId : String
  idpEntityId : String
  signedIds : List String
deriving DecidableEq, Repr

/-- What is read of an accepted response. A value of an attribute that is no text is `none`. -/
structure SamlSubject where
  assertionId : String
  nameId : String
  attributes : List (String × List (Option String))
deriving DecidableEq, Repr

/-- Source: `AuthnRequestOptions`, the fields that are set. -/
structure AuthnRequestOptions where
  spEntityId : String
  acsUrl : String
  protocolBinding : String
  destination : String
  nameIdFormat : Option String
  allowCreate : Bool
deriving DecidableEq, Repr

/-- The errors of the signature check, as far as they are told apart. -/
inductive SamlCryptoError where
  | keyNotFound (message : String)
  | verificationFailed (reason : String)
  | other (message : String)
deriving DecidableEq, Repr

/-- Source: `VerifyResult`. The references are URIs. -/
inductive VerifyResult where
  | valid (references : List String)
  | invalid (reason : String)
deriving DecidableEq, Repr

/-- A question to the replay cache. -/
def IsReplayCheck : FederationOp → Prop
  | .checkReplay _ _ => True
  | _ => False

/-- The replay cache has said that the assertion is new. -/
def SaidNew (assertionId : String) : (op : FederationOp) → op.Res → Prop
  | .checkReplay id _, isNew => id = assertionId ∧ isNew = true
  | _, _ => False

/-- The SAML library. Of `processResponse` it is relied on that it calls the replay cache and nothing else,
and that it accepts no assertion that the replay cache has not called new. -/
structure SamlLibrary where
  /-- A document that was parsed by `parse_secure`. -/
  Document : Type
  /-- A response, read off a document. -/
  Response : Type
  /-- An AuthnRequest. -/
  AuthnRequest : Type
  /-- A key of a certificate. -/
  Key : Type
  base64Error : String → String
  utf8Error : List UInt8 → String
  parseSecure : String → Except String Document
  parseResponse : Document → Except String Response
  inResponseTo : Response → Option String
  loadCertificate : List UInt8 → Option Key
  verifyEnveloped : List Key → String → Except SamlCryptoError VerifyResult
  displayCrypto : SamlCryptoError → String
  processResponse : ResponseCheck → Response → ℤ → Prog FederationSig (Except String SamlSubject)
  createAuthnRequest : AuthnRequestOptions → List UInt8 → Except String AuthnRequest
  requestId : AuthnRequest → String
  requestXml : AuthnRequest → Except String String
  relayState : String → Except String Unit
  /-- The XML, the destination, the relay state, and whether there is a key to sign with. -/
  redirectEncode : String → String → String → Bool → Except String String
  asks : ∀ check response now, (processResponse check response now).Calls IsReplayCheck
  asksNew : ∀ check response now assertionId,
    (processResponse check response now).Before (SaidNew assertionId) (fun _ => False)
      fun r => ∀ subject, r = .ok subject → subject.assertionId ≠ assertionId

/-- Source: `FederationServiceImpl`, its SAML configuration. -/
structure SamlConfig where
  requestTtl : UInt64
  requireSignedAssertions : Bool
  requireSignedResponses : Bool
  /-- A key to sign AuthnRequests with is configured. -/
  hasSigner : Bool
deriving DecidableEq, Repr

/-! ## Reading a response -/

section reading

variable (saml : SamlLibrary)

/-- The XML in a field of the form, and the response in it. -/
def readSamlResponse (encoded : String) : Except ServiceError (String × saml.Response) := do
  let bytes ← match base64Bytes encoded.toList with
    | some bytes => .ok bytes
    | none => .error (.invalidArgument ("base64: " ++ saml.base64Error encoded))
  let xml ← match fromUtf8 bytes with
    | some xml => .ok xml
    | none => .error (.invalidArgument ("utf8: " ++ saml.utf8Error bytes))
  let doc ← (saml.parseSecure xml).mapError fun e => .invalidArgument ("saml parse: " ++ e)
  let response ← (saml.parseResponse doc).mapError fun e => .invalidArgument ("saml response: " ++ e)
  .ok (xml, response)

/-- Source: `parse_saml_request_id`. -/
def parseSamlRequestId (encoded : String) : Except ServiceError String := do
  let (_, response) ← readSamlResponse saml encoded
  match saml.inResponseTo response with
  | some requestId => .ok requestId
  | none => .error (.invalidArgument "unsolicited saml response")

/-- The blocks of a certificate text; splitting it never panics. -/
def certificateBlocks (pem : String) : List (List UInt8) :=
  match splitCertificatePemBlocks pem with
  | .ok blocks => blocks
  | .error _ => []

/-- Source: `verify_saml_signature`. -/
def verifySamlSignature (xml : String) (idpCertificatePem : Option String) :
    Except SamlCryptoError (List String) :=
  match idpCertificatePem with
  | none => .ok []
  | some pem =>
      let keys := (certificateBlocks pem).filterMap saml.loadCertificate
      if keys.isEmpty then .error (.keyNotFound "no loadable IdP certificates")
      else
        match saml.verifyEnveloped keys xml with
        | .error e => .error e
        | .ok (.valid references) => .ok (references.filterMap fun uri => stripStart uri "#")
        | .ok (.invalid reason) => .error (.verificationFailed reason)

/-- The certificate a provider must have, by the configuration. -/
def requireCertificate (cfg : SamlConfig) (provider : SamlProviderRow) : Except ServiceError Unit :=
  if provider.idpCertificatePem = none then
    if cfg.requireSignedAssertions then
      .error (.configuration "provider requires signed assertions but no IdP certificate is configured")
    else if cfg.requireSignedResponses then
      .error (.configuration "provider requires signed responses but no IdP certificate is configured")
    else .ok ()
  else .ok ()

/-- What the response of a provider is checked against. -/
def responseCheck (cfg : SamlConfig) (provider : SamlProviderRow) (requestId : String)
    (signedIds : List String) : ResponseCheck where
  requireSignedAssertions := provider.idpCertificatePem.isSome && cfg.requireSignedAssertions
  requireSignedResponses := provider.idpCertificatePem.isSome && cfg.requireSignedResponses
  spEntityId := provider.spEntityId
  acsUrl := provider.acsUrl
  requestId := requestId
  idpEntityId := provider.idpEntityId
  signedIds := signedIds

/-- The email of a subject: the first value of its first attribute of that name, or its NameID. -/
def SamlSubject.email (subject : SamlSubject) : String :=
  (((subject.attributes.find? fun a => a.1 = "email").bind fun a => a.2.head?).join).getD subject.nameId

end reading

/-! ## The identity of a NameID -/

/-- Source: `From<ProvisionError> for ServiceError`. -/
def ServiceError.ofProvisionError : ProvisionError → ServiceError
  | .missingEmail => .invalidArgument "missing email claim"
  | .emailNotVerified => .invalidArgument "email is not verified"
  | .missingSchema => .configuration "missing identity schema"
  | .kratos err => mapOryError err
  | .database err => .ofDbError err
  | .invalidResponse message => .internal message

section provisioning

variable (lib : Libraries) (cfg : IdentityConfig) (tenantId providerId schemaId nameId email : String)

/-- What is left of `provision_saml` where the NameID has no identity yet. A mapping that is refused by the
database is passed over. -/
def provisionSamlByEmail (schema : IdentitySchemaRow) (emailVerified trustedProvider : Bool) :
    Federated ProvisionError ProvisionedIdentity :=
  if emailVerified = false ∧ trustedProvider = false then throw .emailNotVerified
  else do
    let traits ← settled (upstreamTraits lib cfg schema email (some (.str nameId)))
    let identity ← ofGateway (findOrCreateByEmail lib cfg tenantId schema traits)
    match ← Prog.attempt (federationCall
      (.createSamlIdentity tenantId providerId nameId identity.publicId identity.oryId)) with
    | .ok _ => return identity
    | .error (.sqlx _) => return identity
    | .error e => throw (.database e)

/-- Source: `KratosIdentityProvisioner::provision_saml`. -/
def provisionSaml (emailVerified trustedProvider : Bool) :
    Federated ProvisionError ProvisionedIdentity := do
  let schema ← ofGateway (Prog.orThrow (fun _ => ProvisionError.missingSchema)
    (callDirectory (.getBySchemaId tenantId schemaId)))
  match ← Prog.attempt (federationCall (.getSamlIdentity tenantId providerId nameId)) with
  | .ok mapping => return ⟨tenantId, mapping.identityPublicId, mapping.oryGlobalId, email⟩
  | .error .samlIdentityMappingNotFound =>
      provisionSamlByEmail lib cfg tenantId providerId nameId email schema emailVerified trustedProvider
  | .error e => throw (.database e)

end provisioning

/-! ## The service -/

/-- A deployment with SAML providers. -/
structure SamlSetup extends FederationSetup where
  saml : SamlLibrary
  samlCfg : SamlConfig

/-- Source: `SamlLoginResponse`. -/
structure SamlLoginResponse where
  redirectUrl : String
  requestId : String
deriving DecidableEq, Repr

/-- Source: `Session`, the fields that are set. -/
structure SamlSession where
  id : String
  identityId : String
  tenantId : String
  active : Bool
deriving DecidableEq, Repr

section service

variable (setup : SamlSetup)

/-- The options of the AuthnRequest for a provider. -/
def authnRequestOptions (provider : SamlProviderRow) : AuthnRequestOptions where
  spEntityId := provider.spEntityId
  acsUrl := provider.acsUrl
  protocolBinding := "urn:oasis:names:tc:SAML:2.0:bindings:HTTP-POST"
  destination := provider.idpSsoUrl
  nameIdFormat := provider.nameIdFormat
  allowCreate := true

/-- The URL with the AuthnRequest in it. -/
def authnRedirect (provider : SamlProviderRow) (request : setup.saml.AuthnRequest) (relayState : String) :
    Except ServiceError String := do
  let xml ← (setup.saml.requestXml request).mapError fun e => .internal ("saml serialize: " ++ e)
  (setup.saml.relayState relayState).mapError fun e => .invalidArgument ("relay state: " ++ e)
  (setup.saml.redirectEncode xml provider.idpSsoUrl relayState setup.samlCfg.hasSigner).mapError
    fun e => .internal ("redirect encode: " ++ e)

/-- Source: `initiate_saml_login`. -/
def initiateSamlLogin (tenant : Option String) (providerId relayState : String) :
    Federated ServiceError SamlLoginResponse := do
  let tenantId ← settled (requireLoginTenant tenant)
  let provider ← Prog.orThrow ServiceError.ofDbError (federationCall (.getProvider tenantId providerId))
  if provider.authnRequestsSigned ∧ setup.samlCfg.hasSigner = false then
    throw (.configuration
      "provider requires signed AuthnRequests but no SAML signing key is configured")
  else
    let random ← Prog.attempt (federationCall (.randomBytes 16))
    let request ← settled ((setup.saml.createAuthnRequest (authnRequestOptions provider) random.val).mapError
      fun e => .invalidArgument ("saml authn request: " ++ e))
    let redirectUrl ← settled (authnRedirect setup provider request relayState)
    let _ ← Prog.orThrow ServiceError.ofDbError (federationCall
      (.createSamlRequest tenantId (setup.saml.requestId request) provider.id relayState))
    return ⟨redirectUrl, setup.saml.requestId request⟩

/-- The signed parts of a response, and the response. -/
def verifiedResponse (provider : SamlProviderRow) (encoded : String) :
    Except ServiceError (List String × setup.saml.Response) := do
  requireCertificate setup.samlCfg provider
  let (xml, response) ← readSamlResponse setup.saml encoded
  let signedIds ← (verifySamlSignature setup.saml xml provider.idpCertificatePem).mapError
    fun e => .invalidArgument ("saml signature: " ++ setup.saml.displayCrypto e)
  .ok (signedIds, response)

/-- What `process_saml_assertion` does with the subject of an accepted response. -/
def finishSamlLogin (tenantId : String) (provider : SamlProviderRow) (requestId : String)
    (subject : SamlSubject) : Federated ServiceError ProvisionedIdentity := do
  let _ ← Prog.attempt (federationCall (.deleteSamlRequest tenantId requestId))
  let _ ← ofGateway (Prog.orThrow ServiceError.ofDbError
    (callDirectory (.getBySchemaId tenantId provider.schemaId)))
  Prog.orThrow ServiceError.ofProvisionError (provisionSaml setup.lib.http setup.callbacks.identity tenantId
    provider.id provider.schemaId subject.nameId subject.email false true).run

/-- Source: `process_saml_assertion`. -/
def processSamlAssertion (tenantId : String) (provider : SamlProviderRow) (encoded requestId : String) :
    Federated ServiceError ProvisionedIdentity := do
  let (signedIds, response) ← settled (verifiedResponse setup provider encoded)
  let now ← Prog.attempt (federationCall .now)
  let subject ← Prog.orThrow (fun e => .invalidArgument ("saml validation: " ++ e))
    (setup.saml.processResponse (responseCheck setup.samlCfg provider requestId signedIds) response now)
  finishSamlLogin setup tenantId provider requestId subject

/-- The request has been pending for longer than it may. -/
def SamlExpired (cfg : SamlConfig) (now createdAt : ℤ) : Prop :=
  cfg.requestTtl.toInt64.toInt < now - createdAt

instance (cfg : SamlConfig) (now createdAt : ℤ) : Decidable (SamlExpired cfg now createdAt) :=
  inferInstanceAs (Decidable (_ < _))

/-- A response to a pending request. -/
def answerPending (tenantId : String) (pending : SamlRequestRow) (encoded relayState requestId : String) :
    Federated ServiceError ProvisionedIdentity := do
  let provider ← Prog.orThrow ServiceError.ofDbError
    (federationCall (.getProvider tenantId pending.providerId))
  if relayState ≠ pending.relayState then throw (.invalidArgument "relay state mismatch")
  else
    let now ← Prog.attempt (federationCall .now)
    if SamlExpired setup.samlCfg now pending.createdAt then throw (.invalidArgument "saml request expired")
    else processSamlAssertion setup tenantId provider encoded requestId

/-- Source: `accept_saml_assertion`. -/
def acceptSamlAssertion (tenant : Option String) (encoded relayState : String) :
    Federated ServiceError SamlSession := do
  let tenantId ← settled (requireLoginTenant tenant)
  let requestId ← settled (parseSamlRequestId setup.saml encoded)
  let pending ← Prog.orThrow ServiceError.ofDbError (federationCall (.getSamlRequest tenantId requestId))
  let identity ← answerPending setup tenantId pending encoded relayState requestId
  let sessionId ← ofGateway (Prog.attempt newUlid)
  return ⟨sessionId, identity.publicId, tenantId, true⟩

/-- Source: `process_saml_assertion_http`. -/
def processSamlAssertionHttp (encoded relayState : String) : Federated ServiceError ProvisionedIdentity := do
  let requestId ← settled (parseSamlRequestId setup.saml encoded)
  let pending ← Prog.orThrow ServiceError.ofDbError (federationCall (.getSamlRequestById requestId))
  answerPending setup pending.tenantId pending encoded relayState requestId

/-- Source: `derive_saml_return_to`. The URL is read once more off its own text, which is the same URL. -/
def deriveSamlReturnTo (relayState : String) : String :=
  match validateReturnTo setup.lib setup.callbacks relayState with
  | .ok () => relayState
  | .error _ => setup.callbacks.publicBaseUrl

/-- A field of a form; of several with one name it is the last. -/
def formField (form : List (String × String)) (name : String) : Option String := form.reverse.lookup name

/-- Source: `saml_acs_callback`. -/
def samlAcsCallback (form : List (String × String)) : Federated CallbackError Response := do
  match formField form "SAMLResponse" with
  | none => throw (.configuration "missing SAMLResponse")
  | some encoded =>
      let relayState := (formField form "RelayState").getD ""
      let identity ← Prog.orThrow (fun _ => CallbackError.provisioning)
        (processSamlAssertionHttp setup encoded relayState).run
      buildSessionRedirect setup.env setup.lib setup.callbacks identity "saml"
        (deriveSamlReturnTo setup relayState)

end service

/-! ## Requests -/

/-- A request, or any other program of the gateway. -/
inductive SamlLoginRequest where
  | initiate (tenant : Option String) (providerId relayState : String)
  | accept (tenant : Option String) (encoded relayState : String)
  | acs (form : List (String × String))
  | federation (request : FederationRequest)

/-- What a request is answered with. -/
inductive SamlLoginAnswer where
  | initiated (r : Except ServiceError SamlLoginResponse)
  | accepted (r : Except ServiceError SamlSession)
  | redirected (r : Except CallbackError Response)
  | federation (r : FederationAnswer)

/-- The program that answers a request. -/
def SamlLoginRequest.prog (setup : SamlSetup) : SamlLoginRequest → Prog FederationSig SamlLoginAnswer
  | .initiate tenant providerId relayState =>
      .initiated <$> (initiateSamlLogin setup tenant providerId relayState).run
  | .accept tenant encoded relayState => .accepted <$> (acceptSamlAssertion setup tenant encoded relayState).run
  | .acs form => .redirected <$> (samlAcsCallback setup form).run
  | .federation request => .federation <$> request.prog setup.toFederationSetup

/-- Requests that arrive at a world. -/
def samlLogins {κ : Type} (setup : SamlSetup) (requests : κ → SamlLoginRequest) (w : FederationWorld) :
    Pool FederationSig κ SamlLoginAnswer FederationWorld where
  world := w
  threads k := (requests k).prog setup

end SsoGateway
