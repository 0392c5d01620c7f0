import SsoGateway.AutoPostForm
import SsoGateway.FederationStores
import SsoGateway.Lib.OwnCalls
import SsoGateway.PairwiseNameIds
import SsoGateway.SamlAcs
import SsoGateway.SecretsAtRest

/-!
# The identity provider's endpoint

A service provider sends an AuthnRequest to `/saml/sso`. The request is checked, its id is kept so that it is
taken once, the session is asked of Kratos, and a signed response goes back in a form that posts itself.

* `SamlSpClientRow`, `SamlInboundRow`, `SamlIdpWorld`, `samlIdp` — the tables, and what a call does.
* `SamlIdpLibrary` — what the SAML library does.
* `readAuthnRequest`, `checkAuthnRequest`, `signedPage`, `sso` — the handler.
* `SsoRequest`, `ssoRequests` — any number of requests, next to any other programs over the same tables.

Source: `services/handlers/saml_idp.rs`, `db/saml_sp_client.rs`, `db/saml_request.rs`, `saml_hardening.sql`,
`saml_inbound_requests.sql`.
-/

namespace SsoGateway

open Lib

/-! ## The tables -/

/-- Source: `SamlSpClientRow`. -/
structure SamlSpClientRow where
  id : String
  tenantId : String
  entityId : String
  acsUrl : String
  certificatePem : Option String
  authnRequestsSigned : Bool
  nameIdFormat : Option String
deriving DecidableEq, Repr

/-- `saml_sp_clients.id PRIMARY KEY` and `UNIQUE (tenant_id, entity_id)`. -/
def SamlSpClientRow.SameClient (r r' : SamlSpClientRow) : Prop :=
  r.id = r'.id ∨ r.tenantId = r'.tenantId ∧ r.entityId = r'.entityId

instance : DecidableRel SamlSpClientRow.SameClient := fun _ _ => inferInstanceAs (Decidable (_ ∨ _))

/-- A row of `saml_inbound_requests`. -/
structure SamlInboundRow where
  id : String
  tenantId : String
  providerId : String
  expiresAt : ℤ
deriving DecidableEq, Repr

/-- `saml_inbound_requests.id PRIMARY KEY`: the id alone, whatever the tenant. -/
def SamlInboundRow.SameRequest (r r' : SamlInboundRow) : Prop := r.id = r'.id

instance : DecidableRel SamlInboundRow.SameRequest := fun _ _ => inferInstanceAs (Decidable (_ = _))

/-- What the endpoint works on. -/
structure SamlIdpWorld where
  db : Db
  clients : Table SamlSpClientRow SamlSpClientRow.SameClient
  inbound : Table SamlInboundRow SamlInboundRow.SameRequest
  keys : SamlIdpKeys
  nameIds : SamlNameIdMappings

/-! ## The calls -/

/-- The calls of the endpoint, and those that change what it reads. -/
inductive SamlIdpOp where
  /-- The id of the row is generated. -/
  | createSpClient (row : SamlSpClientRow)
  | getSpClient (id : String)
  | createInbound (tenantId providerId requestId : String) (ttl : ℤ)
  | whoami (token : String)
  /-- The id of the row, and its time of creation, are generated. -/
  | createIdpKey (row : SamlIdpKeyRow)
  | getActiveKey (tenantId : String)
  | getOrCreateNameId (tenantId spEntityId identityId : String)
  | now
  /-- What the ids of a response are made from. -/
  | entropy

/-- The answers. -/
@[reducible] def SamlIdpOp.Res : SamlIdpOp → Type
  | .createSpClient _ => Except DbError SamlSpClientRow
  | .getSpClient _ => Except DbError SamlSpClientRow
  | .createInbound _ _ _ _ => Except DbError Unit
  | .whoami _ => Except OryClientError Value
  | .createIdpKey _ => Except DbError SamlIdpKeyRow
  | .getActiveKey _ => Except DbError SamlIdpKeyRow
  | .getOrCreateNameId _ _ _ => Except DbError String
  | .now => ℤ
  | .entropy => ℕ

/-- The calls with their answers. -/
@[reducible] def SamlIdpSig : Sig := ⟨SamlIdpOp, SamlIdpOp.Res⟩

/-- What the environment decides of a call: what may happen to it, what Kratos answers, and the random. -/
structure SamlIdpChoice where
  base : Choice
  session : Except OryClientError Value
  nonce : List UInt8
  entropy : ℕ

/-- What is configured: the cipher of the keys, and the hash of the NameIDs. -/
structure SamlIdpEnv where
  crypto : CryptoLibrary
  key : List UInt8
  sha256 : List UInt8 → List UInt8

/-- Source: `create_inbound`. A row of that id, of any tenant, is a replay. -/
def createInboundRow (fault : Option Fault) (hasTenant : Bool) (row : SamlInboundRow)
    (inbound : Table SamlInboundRow SamlInboundRow.SameRequest) :
    Except DbError Unit × Table SamlInboundRow SamlInboundRow.SameRequest :=
  Fault.answer Fault.sqlx inbound
    (if inbound.Affects fun r => r.id = row.id then (.error .samlRequestReplay, inbound)
    else if hasTenant then
      match inbound.insert? row with
      | some inbound' => (.ok (), inbound')
      | none => (.error .samlRequestReplay, inbound)
    else (.error Db.missingReference, inbound)) fault

/-- What every call does. -/
def samlIdp (env : SamlIdpEnv) : Handler SamlIdpSig SamlIdpChoice SamlIdpWorld
  | .createSpClient row, c, w =>
      let r := insertRow c.base w.clients (w.db.HasTenant row.tenantId) { row with id := c.base.ulid }
      (r.1, { w with clients := r.2 })
  | .getSpClient id, c, w => (selectRow c.base w.clients (·.id = id) .samlSpClientNotFound, w)
  | .createInbound t providerId requestId ttl, c, w =>
      let r := createInboundRow (c.base.fault 0) (decide (w.db.HasTenant t))
        ⟨requestId, t, providerId, c.base.now + ttl⟩ w.inbound
      (r.1, { w with inbound := r.2 })
  | .whoami _, c, w => (c.session, w)
  | .createIdpKey row, c, w =>
      let r := createIdpKey env.crypto env.key c.nonce (c.base.fault 0) (decide (w.db.HasTenant row.tenantId))
        { row with id := c.base.ulid, createdAt := c.base.now } w.keys
      (r.1, { w with keys := r.2 })
  | .getActiveKey t, c, w =>
      let r := Fault.answer Fault.sqlx w.keys (getActive env.crypto env.key c.nonce t w.keys) (c.base.fault 0)
      (r.1, { w with keys := r.2 })
  | .getOrCreateNameId t spEntityId identityId, c, w =>
      let r := w.nameIds.getOrCreate env.sha256 (c.base.fault 0) t spEntityId identityId
      (r.1, { w with nameIds := r.2 })
  | .now, c, w => (c.base.now, w)
  | .entropy, c, w => (c.entropy, w)

/-- A call of the endpoint. -/
def samlIdpCall (op : SamlIdpOp) : Prog SamlIdpSig op.Res := Prog.perform (S := SamlIdpSig) op

/-! ## The library -/

/-- Source: `AuthnRequest`, the fields that are read. -/
structure AuthnRequest where
  id : String
  issuer : Option String
  destination : Option String
  forceAuthn : Option Bool
deriving DecidableEq, Repr

/-- Source: `ResponseOptions`, the fields that are not fixed. -/
structure ResponseOptions where
  idpEntityId : String
  inResponseTo : String
  spEntityId : String
  acsUrl : String
  sessionIndex : String
  authnContextClassRef : String
  email : String
deriving DecidableEq, Repr

/-- What the SAML library does with a redirect, and with a response. -/
structure SamlIdpLibrary where
  /-- A decoded redirect. -/
  Redirect : Type
  /-- A document that was parsed by `parse_secure`. -/
  Document : Type
  /-- A key of a certificate. -/
  Key : Type
  /-- A private key to sign with. -/
  SigningKey : Type
  /-- A response. -/
  Response : Type
  /-- The URL, and its parameters as they stand in it. -/
  redirectDecode : String → (String → Option String) → Except String Redirect
  samlXml : Redirect → List UInt8
  hasSignature : Redirect → Bool
  relayState : Redirect → Option String
  parseSecure : String → Except String Document
  parseAuthnRequest : Document → Except String AuthnRequest
  loadCertificate : List UInt8 → Option Key
  verifyRedirect : List Key → Redirect → Except String Bool
  buildKeys : String → Except String SigningKey
  /-- The options, the NameID, the instant, and what the ids are made from. -/
  createResponse : ResponseOptions → String → ℤ → ℕ → Response
  responseXml : Response → Except String String
  responseId : Response → String
  /-- The key, the certificate that goes with it, and the XML. -/
  signEnveloped : SigningKey → String → String → Except String String

/-- Source: `SamlIdpState`. -/
structure SamlIdpState where
  env : SamlIdpEnv
  lib : SamlIdpLibrary
  /-- There is a store of the requests. -/
  hasRequests : Bool
  /-- There is a store of the NameIDs. -/
  hasNameIds : Bool
  idpEntityId : String
  ssoEndpointUrl : String
  requestTtl : ℤ

/-! ## The handler -/

/-- An answer of the endpoint. -/
structure IdpResponse where
  status : ℕ
  contentType : String
  body : String
deriving DecidableEq, Repr

/-- Source: `idp_error`. -/
def idpError (status : ℕ) (detail : String) : IdpResponse :=
  ⟨status, "application/json", "\x7b\"error\":\"" ++ detail ++ "\"\x7d"⟩

/-- Source: `From<DbError> for SamlIdpError`. -/
def idpDbError : DbError → IdpResponse
  | .samlSpClientNotFound => idpError 404 "idp request unavailable"
  | .samlIdpKeyNotFound => idpError 404 "idp request unavailable"
  | .samlRequestReplay => idpError 400 "idp request unavailable"
  | _ => idpError 500 "idp request unavailable"

/-- Source: `From<OryClientError> for SamlIdpError`. -/
def idpOryError : OryClientError → IdpResponse
  | .ory status _ => idpError (if status = 401 ∨ status = 403 then 401 else 500) "session invalid"
  | _ => idpError 500 "session invalid"

/-- Source: `parse_query_params`. Of several with one name it is the last that is found. -/
def parseQueryParams (query : String) : List (String × String) :=
  (splitAt query '&').map fun pair => (splitOnce pair '=').getD (pair, "")

/-- Source: `RedirectRequest::from_url` and `query_param`. -/
def redirectParam (url : String) (name : String) : Option String :=
  match splitOnce url '?' with
  | some (_, query) => (parseQueryParams query).reverse.lookup name
  | none => none

/-- A request to the endpoint: its URL, the decoded parameters of it, and the session token. -/
structure SsoInput where
  url : String
  query : List (String × String)
  sessionToken : Option String
deriving DecidableEq, Repr

/-- The AuthnRequest in a URL, and the redirect it came in. -/
def readAuthnRequest (lib : SamlIdpLibrary) (url : String) :
    Except IdpResponse (lib.Redirect × AuthnRequest) := do
  let invalid := idpError 400 "invalid saml request"
  let decoded ← (lib.redirectDecode url (redirectParam url)).mapError fun _ => invalid
  let xml ← match fromUtf8 (lib.samlXml decoded) with
    | some xml => .ok xml
    | none => .error invalid
  let doc ← (lib.parseSecure xml).mapError fun _ => invalid
  let request ← (lib.parseAuthnRequest doc).mapError fun _ => invalid
  .ok (decoded, request)

/-- The signature of a request, where the service provider has to sign. -/
def checkSpSignature (lib : SamlIdpLibrary) (client : SamlSpClientRow) (decoded : lib.Redirect) :
    Except IdpResponse Unit :=
  if client.authnRequestsSigned = false then .ok ()
  else if lib.hasSignature decoded = false then .error (idpError 400 "signed authn request required")
  else
    match client.certificatePem with
    | none => .error (idpError 400 "signed authn request required but no sp certificate configured")
    | some pem =>
        let keys := (certificateBlocks pem).filterMap lib.loadCertificate
        if keys.isEmpty then .error (idpError 400 "no loadable sp certificate")
        else
          match lib.verifyRedirect keys decoded with
          | .ok true => .ok ()
          | _ => .error (idpError 400 "invalid authn request signature")

/-- The checks of a request against the service provider it names. -/
def checkAuthnRequest (state : SamlIdpState) (client : SamlSpClientRow) (decoded : state.lib.Redirect)
    (request : AuthnRequest) : Except IdpResponse Unit :=
  if ∃ issuer ∈ request.issuer, issuer ≠ client.entityId then .error (idpError 400 "issuer mismatch")
  else
    match request.destination with
    | none => .error (idpError 400 "missing saml destination")
    | some destination =>
        if destination ≠ state.ssoEndpointUrl then .error (idpError 400 "destination mismatch")
        else checkSpSignature state.lib client decoded

/-- Source: `authn_context_class_from_session`. -/
def authnContextClassFromSession (session : Value) : String :=
  let methods := ((session.get "authentication_methods").bind Value.asArray).getD []
  let names := methods.filterMap fun m => (m.get "method").bind Value.asStr
  if "webauthn" ∈ names then "urn:oasis:names:tc:SAML:2.0:ac:classes:PasswordProtectedTransport"
  else if "totp" ∈ names then "urn:oasis:names:tc:SAML:2.0:ac:classes:TimeSyncToken"
  else if "password" ∈ names then "urn:oasis:names:tc:SAML:2.0:ac:classes:Password"
  else "urn:oasis:names:tc:SAML:2.0:ac:classes:unspecified"

/-- The identity of a session, and its email. -/
def idpSubject (session : Value) : Except IdpResponse (String × String) :=
  match session.get "identity" with
  | none => .error (idpError 500 "session missing identity")
  | some identity =>
      match (identity.get "id").bind Value.asStr with
      | none => .error (idpError 500 "session missing identity id")
      | some identityId => .ok (identityId,
          (((identity.get "traits").bind fun t => t.get "email").bind Value.asStr).getD identityId)

/-- Source: `response_signature_template`. -/
def responseSignatureTemplate (responseId : String) : String :=
  "<ds:Signature xmlns:ds=\"http://www.w3.org/2000/09/xmldsig#\">
            <ds:SignedInfo>
                <ds:CanonicalizationMethod Algorithm=\"http://www.w3.org/2001/10/xml-exc-c14n#\"/>
                <ds:SignatureMethod Algorithm=\"http://www.w3.org/2001/04/xmldsig-more#rsa-sha256\"/>
                <ds:Reference URI=\"#" ++ responseId ++ "\">
                    <ds:Transforms>
                        <ds:Transform Algorithm=\"http://www.w3.org/2000/09/xmldsig#enveloped-signature\"/>
                    </ds:Transforms>
                    <ds:DigestMethod Algorithm=\"http://www.w3.org/2001/04/xmlenc#sha256\"/>
                    <ds:DigestValue></ds:DigestValue>
                </ds:Reference>
            </ds:SignedInfo>
            <ds:SignatureValue></ds:SignatureValue>
            <ds:KeyInfo><ds:X509Data/></ds:KeyInfo>
        </ds:Signature>"

/-- The response with a place for its signature, before its status. -/
def withSignaturePlace (xml responseId : String) : Except IdpResponse String :=
  match findSub "<samlp:Status".toList xml.toList with
  | none => .error (idpError 500 "response missing status element")
  | some i => .ok (String.ofList (xml.toList.take i) ++ responseSignatureTemplate responseId ++
      String.ofList (xml.toList.drop i))

/-- The page with a signed response. -/
def signedPage (lib : SamlIdpLibrary) (client : SamlSpClientRow) (signingKey : lib.SigningKey)
    (certificatePem : String) (response : lib.Response) (relayState : Option String) :
    Except IdpResponse IdpResponse := do
  let unavailable := idpError 500 "idp request unavailable"
  let xml ← (lib.responseXml response).mapError fun _ => unavailable
  let xml ← withSignaturePlace xml (lib.responseId response)
  let signed ← (lib.signEnveloped signingKey certificatePem xml).mapError fun _ => unavailable
  .ok ⟨200, "text/html", autoPostForm client.acsUrl (base64Encode signed) relayState⟩

section handler

variable (state : SamlIdpState)

/-- The options of the response to a request. -/
def responseOptions (client : SamlSpClientRow) (request : AuthnRequest) (session : Value)
    (nameId email : String) : ResponseOptions where
  idpEntityId := state.idpEntityId
  inResponseTo := request.id
  spEntityId := client.entityId
  acsUrl := client.acsUrl
  sessionIndex := nameId
  authnContextClassRef := authnContextClassFromSession session
  email := email

/-- Source: `resolve_pairwise_name_id`. -/
def resolveNameId (tenantId spEntityId identityId : String) : ExceptT IdpResponse (Prog SamlIdpSig) String :=
  let computed := computePairwiseNameId state.env.sha256 tenantId spEntityId identityId
  if state.hasNameIds = true then do
    match ← Prog.attempt (samlIdpCall (.getOrCreateNameId tenantId spEntityId identityId)) with
    | .ok nameId => return nameId
    | .error _ => return computed
  else return computed

/-- The store of the requests takes the id, if there is one. -/
def takeRequest (client : SamlSpClientRow) (request : AuthnRequest) :
    ExceptT IdpResponse (Prog SamlIdpSig) Unit :=
  if state.hasRequests = true then
    Prog.orThrow idpDbError
      (samlIdpCall (.createInbound client.tenantId client.id request.id state.requestTtl))
  else return ()

/-- The response to a request, for the session of a token. -/
def respond (client : SamlSpClientRow) (decoded : state.lib.Redirect) (request : AuthnRequest)
    (token : String) : ExceptT IdpResponse (Prog SamlIdpSig) IdpResponse := do
  let session ← Prog.orThrow idpOryError (samlIdpCall (.whoami token))
  let (identityId, email) ← ExceptT.mk (pure (idpSubject session))
  let idpKey ← Prog.orThrow idpDbError (samlIdpCall (.getActiveKey client.tenantId))
  let signingKey ← ExceptT.mk (pure ((state.lib.buildKeys idpKey.privateKeyPem).mapError
    fun _ => idpError 500 "idp request unavailable"))
  let nameId ← resolveNameId state client.tenantId client.entityId identityId
  let now ← Prog.attempt (samlIdpCall .now)
  let entropy ← Prog.attempt (samlIdpCall .entropy)
  ExceptT.mk (pure (signedPage state.lib client signingKey idpKey.certificatePem
    (state.lib.createResponse (responseOptions state client request session nameId email) nameId now entropy)
    (state.lib.relayState decoded)))

/-- Source: `sso`. The id of the request is taken before anybody asks for the session. -/
def sso (input : SsoInput) : ExceptT IdpResponse (Prog SamlIdpSig) IdpResponse := do
  match input.query.reverse.lookup "provider_id" with
  | none => throw (idpError 400 "missing provider_id")
  | some providerId =>
      let (decoded, request) ← ExceptT.mk (pure (readAuthnRequest state.lib input.url))
      let client ← Prog.orThrow idpDbError (samlIdpCall (.getSpClient providerId))
      ExceptT.mk (pure (checkAuthnRequest state client decoded request))
      takeRequest state client request
      if request.forceAuthn = some true then throw (idpError 401 "fresh authentication required")
      else
        match input.sessionToken with
        | none => throw (idpError 401 "missing session")
        | some token => respond state client decoded request token

end handler

/-! ## Requests -/

/-- A request, or any other program over the same tables. -/
inductive SsoRequest where
  | sso (input : SsoInput)
  | other (p : Prog SamlIdpSig Unit)

/-- The program that answers a request; of another program there is no answer. -/
def SsoRequest.prog (state : SamlIdpState) : SsoRequest → Prog SamlIdpSig (Option (Except IdpResponse IdpResponse))
  | .sso input => some <$> (SsoGateway.sso state input).run
  | .other p => (fun _ => none) <$> p

/-- A call, made by one of the requests. -/
def samlIdpFor (κ : Type) (env : SamlIdpEnv) : Handler SamlIdpSig (κ × SamlIdpChoice) SamlIdpWorld :=
  fun op ic w => samlIdp env op ic.2 w

/-- One call of a run. -/
abbrev SamlIdpEvent (κ : Type) := Event SamlIdpSig (κ × SamlIdpChoice) SamlIdpWorld

/-- The calls of a run. -/
abbrev SamlIdpTrace (κ : Type) := List (SamlIdpEvent κ)

/-- Requests that arrive at a world. -/
def ssoRequests {κ : Type} (state : SamlIdpState) (requests : κ → SsoRequest) (w : SamlIdpWorld) :
    Pool SamlIdpSig κ (Option (Except IdpResponse IdpResponse)) SamlIdpWorld where
  world := w
  threads k := (requests k).prog state

end SsoGateway
