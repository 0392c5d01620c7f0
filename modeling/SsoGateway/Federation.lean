import SsoGateway.FederationStores
import SsoGateway.Identities
import SsoGateway.Lib.Translate

/-!
# Federated logins

Logging in through a connection of a tenant: which connection an email leads to, the URL that a login
starts with, and the callback that ends it.

* `PgTenantConnectionStore.create` — a connection, for a domain the tenant has verified.
* `discover` — home realm discovery.
* `initiateOidcLogin`, `initiateOauth2Login` — the start of a login, with its pending state.
* `provision` — the identity that userinfo stands for.
* `handleOauthCallback` — the end of a login.

Source: `db/connection.rs`, `hrd.rs`, `services/federation.rs`, `identity_provisioner.rs`,
`services/handlers/callback.rs`.
-/

namespace SsoGateway

open Lib

/-- A computation of the federation service. -/
abbrev Federated (ε α : Type) := ExceptT ε (Prog FederationSig) α

/-- A result that needs no call. -/
abbrev settled {ε α : Type} (r : Except ε α) : Federated ε α := ExceptT.mk (pure r)

/-- The functions of other libraries that federated logins call. -/
structure FederationLibraries where
  http : Libraries
  upstream : UpstreamLibraries
  /-- The text of a host that is an address. -/
  addressText : UrlHost → String
  /-- Base64, for URLs and without padding. -/
  base64UrlNoPad : List UInt8 → String
  /-- SHA-256 of a text, in the same encoding. -/
  codeChallenge : String → String

/-! ## Connections -/

/-- Source: `require_verified_domain`. -/
def requireVerifiedDomain (tenantId domain : String) : Federated DbError Unit := do
  match ← Prog.orThrow id (federationCall (.getDomainOf tenantId domain)) with
  | some row => if row.isVerified then return () else throw .domainNotVerified
  | none => throw .domainNotVerified

/-- Source: `PgTenantConnectionStore::create`. -/
def PgTenantConnectionStore.create (tenantId : String) (connectionType : ConnectionType)
    (domain : String) (config : Value) : Federated DbError TenantConnectionRow := do
  requireVerifiedDomain tenantId domain
  Prog.orThrow id (federationCall (.insertConnection tenantId connectionType domain config))

/-! ## Home realm discovery -/

/-- Source: `DiscoveryResult`. -/
inductive DiscoveryResult where
  | oidc (authorizationUrl : String)
  | oauth2 (authorizationUrl : String)
  | saml (ssoUrl samlRequest relayState : String)
  | selectTenant (redirectUrl : String)
deriving DecidableEq, Repr

/-- Source: `HrdError`. -/
inductive HrdError where
  | invalidEmail
  | missingEmail
  | missingReturnTo
  | invalidReturnTo
  | connectionDisabled
  | samlProviderNotFound
  | invalidConnectionConfig (message : String)
  | database (err : DbError)
deriving DecidableEq, Repr

/-- Source: `From<HrdError> for ServiceError`. -/
def ServiceError.ofHrdError : HrdError → ServiceError
  | .invalidEmail => .invalidArgument "invalid email"
  | .missingEmail => .invalidArgument "missing email"
  | .missingReturnTo => .invalidArgument "missing return_to"
  | .invalidReturnTo => .invalidArgument "invalid return_to"
  | .connectionDisabled => .permissionDenied "connection disabled"
  | .samlProviderNotFound => .notFound "SAML provider not found"
  | .invalidConnectionConfig message => .invalidArgument message
  | .database err => .ofDbError err

/-- What follows the last `@`. -/
def emailDomain (email : String) : String :=
  if '@' ∈ email.toList then ((splitAt email '@').getLast?).getD "" else ""

/-- Source: `validate_email` of `hrd.rs`. -/
def validateEmail (email : String) : Except HrdError Unit :=
  if email = "" then .error .missingEmail
  else if email.toList.count '@' ≠ 1 then .error .invalidEmail
  else if emailDomain email = "" then .error .invalidEmail
  else .ok ()

/-- Source: `validate_return_to` of `hrd.rs`. -/
def validateDiscoveryReturnTo (lib : FederationLibraries) (returnTo : String) :
    Except HrdError Unit :=
  if returnTo = "" then .error .missingReturnTo
  else match lib.http.parseUrl returnTo with
    | .ok _ => .ok ()
    | .error _ => .error .invalidReturnTo

/-- Source: `build_select_tenant_url`. -/
def buildSelectTenantUrl (baseUrl email returnTo : String) : String :=
  trimEndMatches baseUrl '/' ++ "/login/select-tenant?email=" ++ urlEncode email ++
    "&return_to=" ++ urlEncode returnTo

/-- Source: `generate_state`. -/
def generateState : Prog FederationSig String :=
  (fun bytes => hexEncode bytes.val) <$> federationCall (.randomBytes 32)

/-- Source: `normalize_issuer_url`. -/
def normalizeIssuerUrl (issuer : String) : String :=
  if startsWith issuer "https://" ∨ startsWith issuer "http://" then trimEndMatches issuer '/'
  else "https://" ++ issuer

/-- A text that a connection must have. -/
def hrdConfig (config : Value) (key : String) : Except HrdError String :=
  match (config.index key).asStr with
  | some text => .ok text
  | none => .error (.invalidConnectionConfig ("missing " ++ key))

/-- The texts of a list that are not empty. -/
def nonEmptyTexts (items : List Value) : List String :=
  (items.filterMap Value.asStr).filter fun s => s ≠ ""

/-- The scopes that a connection must have. -/
def hrdScopes (config : Value) : Except HrdError (List String) :=
  match (config.index "scopes").asArray with
  | none => .error (.invalidConnectionConfig "missing scopes")
  | some items =>
      if nonEmptyTexts items = [] then .error (.invalidConnectionConfig "empty scopes")
      else .ok (nonEmptyTexts items)

/-- The query that both authorization URLs of discovery have. -/
def discoveryQuery (clientId : String) (scopes : List String) (redirectUri state : String) : String :=
  "?client_id=" ++ urlEncode clientId ++ "&response_type=code&scope=" ++ urlEncode (joinSpace scopes) ++
    "&redirect_uri=" ++ urlEncode redirectUri ++ "&state=" ++ urlEncode state

/-- An authorization URL of discovery, at an endpoint that a text of the configuration leads to. -/
def buildDiscoveryUrl (key : String) (endpoint : String → String) (config : Value) :
    Federated HrdError String := do
  let base ← settled (hrdConfig config key)
  let clientId ← settled (hrdConfig config "client_id")
  let redirectUri ← settled (hrdConfig config "redirect_uri")
  let scopes ← settled (hrdScopes config)
  let state ← Prog.attempt generateState
  return endpoint base ++ discoveryQuery clientId scopes redirectUri state

/-- Source: `build_oidc_url`. -/
def buildOidcUrl (config : Value) (_returnTo : String) : Federated HrdError String :=
  buildDiscoveryUrl "issuer" (fun issuer => normalizeIssuerUrl issuer ++ "/oauth2/authorize") config

/-- Source: `build_oauth2_url`. -/
def buildOauth2Url (config : Value) (_returnTo : String) : Federated HrdError String :=
  buildDiscoveryUrl "authorization_url" id config

/-- The error of a provider that is looked up. -/
def providerHrdError : DbError → HrdError
  | .samlProviderNotFound => .samlProviderNotFound
  | err => .database err

/-- Source: `build_saml_redirect`. -/
def buildSamlRedirect (_tenantId : String) (config : Value) (_returnTo : String) :
    Federated HrdError DiscoveryResult := do
  let providerId ← settled (hrdConfig config "provider_id")
  let provider ← Prog.orThrow providerHrdError (federationCall (.getProviderById providerId))
  return .saml provider.idpSsoUrl "" ""

/-- Source: `is_verified_domain`. -/
def isVerifiedDomain (domain : String) : Federated HrdError Bool := do
  match ← Prog.attempt (federationCall (.getDomain domain)) with
  | .ok row => return row.isVerified
  | .error .domainNotFound => return false
  | .error err => throw (.database err)

/-- The redirect of a connection. -/
def discoverConnection (connection : TenantConnectionRow) (returnTo : String) :
    Federated HrdError DiscoveryResult :=
  match connection.connectionType with
  | .oidc => .oidc <$> buildOidcUrl connection.config returnTo
  | .oauth2 => .oauth2 <$> buildOauth2Url connection.config returnTo
  | .saml => buildSamlRedirect connection.tenantId connection.config returnTo

/-- Source: `Hrd::discover`. -/
def discover (lib : FederationLibraries) (publicBaseUrl email returnTo : String) :
    Federated HrdError DiscoveryResult := do
  settled (validateEmail email)
  settled (validateDiscoveryReturnTo lib returnTo)
  if !(← isVerifiedDomain (emailDomain email)) then
    return .selectTenant (buildSelectTenantUrl publicBaseUrl email returnTo)
  else
    match ← Prog.attempt (federationCall (.getConnectionByDomain (emailDomain email))) with
    | .ok connection => discoverConnection connection returnTo
    | .error .connectionNotFound =>
        return .selectTenant (buildSelectTenantUrl publicBaseUrl email returnTo)
    | .error err => throw (.database err)

/-! ## The start of a login -/

/-- Source: `FederationServiceImpl`, its configuration. -/
structure FederationConfig where
  publicBaseUrl : String
  /-- In seconds. -/
  requestTtl : ℤ

/-- Source: `InitiateOidcLoginRequest`, `InitiateOAuth2LoginRequest`. -/
structure InitiateLoginRequest where
  connectionId : String
  returnTo : String
deriving DecidableEq, Repr

/-- Source: `InitiateOidcLoginResponse`, `InitiateOAuth2LoginResponse`. -/
structure InitiateLoginResponse where
  authorizationUrl : String
  state : String
deriving DecidableEq, Repr

/-- Source: `require_tenant` of `services/federation.rs`. -/
def requireLoginTenant (tenant : Option String) : Except ServiceError String :=
  match tenant with
  | some tenantId => .ok tenantId
  | none => .error (.unauthenticated "missing tenant")

/-- Source: `validate_oauth_url`. -/
def validateOauthUrl (lib : FederationLibraries) (name url : String) : Except ServiceError Unit :=
  (validateUpstreamUrl lib.upstream url).mapError fun e => .invalidArgument
    (name ++ " is not a valid upstream URL: " ++ lib.http.displayServiceError e)

/-- The check of a URL that a connection may have. -/
def validateConfiguredUrl (lib : FederationLibraries) (config : Value) (key : String) :
    Except ServiceError Unit :=
  match (config.index key).asStr with
  | some url => validateOauthUrl lib key url
  | none => .ok ()

/-- A text that a connection must have. -/
def loginConfig (config : Value) (key : String) : Except ServiceError String :=
  match (config.index key).asStr with
  | some text => .ok text
  | none => .error (.invalidArgument ("missing " ++ key))

/-- The scope that a connection must have. -/
def loginScope (config : Value) : Except ServiceError String :=
  match ((config.index "scopes").asArray.map fun items => joinSpace (nonEmptyTexts items)).filter
      fun scope => scope ≠ "" with
  | some scope => .ok scope
  | none => .error (.invalidArgument "missing scopes")

/-- The query that both authorization URLs of a login have. -/
def loginQuery (lib : FederationLibraries) (clientId scope redirectUri state codeVerifier : String) :
    String :=
  "?client_id=" ++ urlEncode clientId ++ "&response_type=code&scope=" ++ urlEncode scope ++
    "&redirect_uri=" ++ urlEncode redirectUri ++ "&state=" ++ urlEncode state ++
    "&code_challenge=" ++ urlEncode (lib.codeChallenge codeVerifier) ++ "&code_challenge_method=S256"

/-- The authorization endpoint of an OIDC connection. -/
def authorizationEndpoint (config : Value) : Except ServiceError String :=
  match (config.index "authorization_endpoint").asStr with
  | some endpoint => .ok endpoint
  | none =>
      match (config.index "issuer").asStr with
      | some issuer => .ok (trimEndMatches issuer '/' ++ "/oauth2/authorize")
      | none => .error (.invalidArgument "missing authorization_endpoint or issuer")

/-- Source: `build_oidc_authorization_url`. -/
def buildOidcAuthorizationUrl (lib : FederationLibraries) (config : Value)
    (redirectUri state codeVerifier nonce : String) : Except ServiceError String := do
  let endpoint ← authorizationEndpoint config
  let clientId ← loginConfig config "client_id"
  let scope ← loginScope config
  validateOauthUrl lib "authorization_endpoint" endpoint
  validateConfiguredUrl lib config "issuer"
  validateConfiguredUrl lib config "token_url"
  validateConfiguredUrl lib config "userinfo_url"
  return trimEndMatches endpoint '/' ++ loginQuery lib clientId scope redirectUri state codeVerifier ++
    "&nonce=" ++ urlEncode nonce

/-- Source: `build_oauth2_authorization_url`. -/
def buildOauth2AuthorizationUrl (lib : FederationLibraries) (config : Value)
    (redirectUri state codeVerifier : String) : Except ServiceError String := do
  let authorizationUrl ← loginConfig config "authorization_url"
  let clientId ← loginConfig config "client_id"
  let scope ← loginScope config
  validateOauthUrl lib "authorization_url" authorizationUrl
  validateConfiguredUrl lib config "token_url"
  validateConfiguredUrl lib config "userinfo_url"
  return authorizationUrl ++ loginQuery lib clientId scope redirectUri state codeVerifier

/-- Source: `generate_code_verifier`. -/
def generateCodeVerifier (lib : FederationLibraries) : Prog FederationSig String :=
  (fun bytes => lib.base64UrlNoPad bytes.val) <$> federationCall (.randomBytes 32)

/-- Source: `generate_nonce`. -/
def generateNonce : Prog FederationSig String :=
  (fun bytes => hexEncode bytes.val) <$> federationCall (.randomBytes 16)

/-- Where the provider sends the browser back to. -/
def callbackUri (publicBaseUrl connectionType : String) : String :=
  trimEndMatches publicBaseUrl '/' ++ "/callbacks/" ++ connectionType

/-- Source: `initiate_oidc_login`. -/
def initiateOidcLogin (lib : FederationLibraries) (cfg : FederationConfig) (tenant : Option String)
    (req : InitiateLoginRequest) : Federated ServiceError InitiateLoginResponse := do
  let tenantId ← settled (requireLoginTenant tenant)
  let connection ← Prog.orThrow ServiceError.ofDbError
    (federationCall (.getConnection tenantId req.connectionId))
  if connection.connectionType ≠ .oidc then
    throw (.invalidArgument "connection is not an OIDC connection")
  else
    let codeVerifier ← Prog.attempt (generateCodeVerifier lib)
    let nonce ← Prog.attempt generateNonce
    let state ← Prog.orThrow ServiceError.ofDbError (federationCall (.createLoginState tenantId
      req.connectionId "oidc" req.returnTo (some codeVerifier) (some nonce) cfg.requestTtl))
    let authorizationUrl ← settled (buildOidcAuthorizationUrl lib connection.config
      (callbackUri cfg.publicBaseUrl "oidc") state.stateToken.text codeVerifier nonce)
    return ⟨authorizationUrl, state.stateToken.text⟩

/-- Source: `initiate_o_auth2_login`. -/
def initiateOauth2Login (lib : FederationLibraries) (cfg : FederationConfig) (tenant : Option String)
    (req : InitiateLoginRequest) : Federated ServiceError InitiateLoginResponse := do
  let tenantId ← settled (requireLoginTenant tenant)
  let connection ← Prog.orThrow ServiceError.ofDbError
    (federationCall (.getConnection tenantId req.connectionId))
  if connection.connectionType ≠ .oauth2 then
    throw (.invalidArgument "connection is not an OAuth2 connection")
  else
    let codeVerifier ← Prog.attempt (generateCodeVerifier lib)
    let state ← Prog.orThrow ServiceError.ofDbError (federationCall (.createLoginState tenantId
      req.connectionId "oauth2" req.returnTo (some codeVerifier) none cfg.requestTtl))
    let authorizationUrl ← settled (buildOauth2AuthorizationUrl lib connection.config
      (callbackUri cfg.publicBaseUrl "oauth2") state.stateToken.text codeVerifier)
    return ⟨authorizationUrl, state.stateToken.text⟩

/-! ## Identities of upstream providers -/

/-- Source: `normalize_name_claim`. -/
def normalizeNameClaim (name : Option Value) : Value :=
  match name with
  | some (.obj fields) => .obj fields
  | some (.str s) =>
      match splitOnce (trim s) ' ' with
      | some (first, rest) => .obj [("first", .str (trim first)), ("last", .str (trim rest))]
      | none => .obj [("first", .str (trim s))]
  | _ => .obj []

/-- Source: `require_email_verified`. -/
def requireEmailVerified (claims : Value) : Except ProvisionError Unit :=
  if (claims.get "email_verified").bind Value.asBool = some true ∨
      (claims.get "trusted_provider").bind Value.asBool = some true then .ok ()
  else .error .emailNotVerified

/-- The traits of an upstream user, checked against a schema. -/
def upstreamTraits (lib : Libraries) (cfg : IdentityConfig) (schema : IdentitySchemaRow) (email : String)
    (name : Option Value) : Except ProvisionError Value :=
  let traits := normalizeTraits (.obj [("email", .str email), ("name", normalizeNameClaim name)])
  match validateTraits cfg.compile schema.schemaJson traits with
  | .ok () => .ok traits
  | .error e => .error (.invalidResponse (lib.displayServiceError e))

/-- Source: `KratosIdentityProvisioner::provision`. -/
def provision (lib : Libraries) (cfg : IdentityConfig) (tenantId schemaId : String) (claims : Value) :
    Provision ProvisionedIdentity := do
  let email ← ExceptT.mk (pure (match (claims.index "email").asStr with
    | some email => .ok email
    | none => .error ProvisionError.missingEmail))
  let schema ← Prog.orThrow (fun _ => ProvisionError.missingSchema)
    (callDirectory (.getBySchemaId tenantId schemaId))
  ExceptT.mk (pure (requireEmailVerified claims))
  let traits ← ExceptT.mk (pure (upstreamTraits lib cfg schema email (claims.get "name")))
  findOrCreateByEmail lib cfg tenantId schema traits

/-! ## The end of a login -/

/-- Source: `CallbackError`. -/
inductive CallbackError where
  | invalidState
  | missingCode
  | tokenExchange
  | userinfo
  | provisioning
  | session
  | configuration (message : String)
  | invalidReturnTo
  | invalidNonce
  | invalidIdToken
  | database (err : DbError)
  | service (err : ServiceError)
deriving DecidableEq, Repr

/-- The display text of a callback error. -/
def CallbackError.toText (lib : Libraries) : CallbackError → String
  | .invalidState => "invalid or expired state"
  | .missingCode => "missing authorization code"
  | .tokenExchange => "upstream token exchange failed"
  | .userinfo => "upstream userinfo failed"
  | .provisioning => "identity provisioning failed"
  | .session => "session creation failed"
  | .configuration message => "configuration error: " ++ message
  | .invalidReturnTo => "invalid return_to URL"
  | .invalidNonce => "invalid id_token nonce"
  | .invalidIdToken => "invalid ID token"
  | .database err => "database error: " ++ err.toText
  | .service err => "service error: " ++ lib.displayServiceError err

/-- Source: `IntoResponse for CallbackError`. -/
def CallbackError.response (lib : Libraries) (err : CallbackError) : Response :=
  ⟨400, .json (.obj [("error", .str (err.toText lib))]), none, []⟩

/-- The error of a check of an ID token. -/
def CallbackError.ofUpstream : UpstreamFailure → CallbackError
  | .tokenExchange => .tokenExchange
  | .userinfo => .userinfo
  | .invalidIdToken => .invalidIdToken
  | .configuration message => .configuration message

/-- Source: `CallbackState`, its configuration. -/
structure CallbackConfig where
  allowedReturnToHosts : List String
  tenantAllowedReturnToHosts : Option (List String)
  localDevMode : Bool
  publicBaseUrl : String
  cookieSecure : Bool
  cookieSamesite : String
  sessionTtlSeconds : ℕ
  identity : IdentityConfig

/-- Source: `Url::host_str`. -/
def hostStr (lib : FederationLibraries) : UrlHost → String
  | .domain name => name
  | host => lib.addressText host

/-- Source: `is_public_suffix`. -/
def isPublicSuffix (host : String) : Bool :=
  ["com", "org", "net", "edu", "gov", "mil", "int", "co", "ai", "io", "dev", "cloud", "app", "info",
    "biz", "name", "pro", "co.uk", "org.uk", "net.uk", "ac.uk", "gov.uk", "co.jp", "or.jp", "ne.jp",
    "go.jp", "de", "fr", "uk", "eu", "us"].any fun suffix => eqIgnoreAsciiCase host suffix

/-- Source: `validate_return_to` of `services/handlers/callback.rs`. -/
def validateReturnTo (lib : FederationLibraries) (cfg : CallbackConfig) (returnTo : String) :
    Except CallbackError Unit :=
  let hosts := cfg.allowedReturnToHosts ++ cfg.tenantAllowedReturnToHosts.getD []
  if hosts = [] then .error .invalidReturnTo
  else match lib.http.parseUrl returnTo with
    | .error _ => .error .invalidReturnTo
    | .ok url =>
        match url.host with
        | none => .error .invalidReturnTo
        | some host =>
            if url.scheme ≠ "https" ∧ cfg.localDevMode = false then .error .invalidReturnTo
            else if hosts.any isPublicSuffix then .error .invalidReturnTo
            else if hostStr lib host ∈ hosts then .ok ()
            else .error .invalidReturnTo

/-- A program of the gateway as one of the federation service. -/
abbrev ofGateway {ε α : Type} (x : ExceptT ε (Prog Gateway) α) : Federated ε α :=
  Prog.translateT (S := Gateway) (fun op => federationCall (.agent (.gateway op))) x

/-- Source: `provision_identity`. -/
def provisionUserinfo (lib : FederationLibraries) (cfg : CallbackConfig) (tenantId : String)
    (userinfo : Value) : Federated CallbackError ProvisionedIdentity :=
  Prog.orThrow (fun _ => .provisioning)
    (ofGateway (provision lib.http cfg.identity tenantId
      (((userinfo.index "schema_id").asStr).getD "default") userinfo)).run

/-- Source: `build_session_cookie`. -/
def buildSessionCookie (cfg : CallbackConfig) (value : String) : String :=
  "__Host-sso_session=" ++ value ++ "; Path=/; HttpOnly; SameSite=" ++ cfg.cookieSamesite ++
    "; Max-Age=" ++ toString cfg.sessionTtlSeconds ++ (if cfg.cookieSecure then "; Secure" else "")

/-- The expiry of a session as `OffsetDateTime` has it, in seconds. -/
def sessionExpiry (exp : ℤ) : Prog FederationSig ℤ :=
  if minUnixTimestamp ≤ exp ∧ exp ≤ maxUnixTimestamp then pure exp
  else (· + 86400) <$> federationCall .now

/-- Source: `SessionTokenSigner::issue`: the token, its claims and their `exp`. -/
def issueSession (env : FederationEnv) (lib : FederationLibraries) (ttl : ℤ) (sub tenantId : String) :
    Prog FederationSig (String × SessionClaims × ℤ) := do
  let bytes ← federationCall (.randomBytes 32)
  let now ← federationCall .now
  let claims : SessionClaims := ⟨tenantId, sub, lib.base64UrlNoPad bytes.val⟩
  return (env.signSession claims, claims, now + ttl)

/-- Source: `build_session_redirect`. -/
def buildSessionRedirect (env : FederationEnv) (lib : FederationLibraries) (cfg : CallbackConfig)
    (identity : ProvisionedIdentity) (amr returnTo : String) : Federated CallbackError Response := do
  let (token, claims, exp) ← Prog.attempt
    (issueSession env lib cfg.sessionTtlSeconds identity.publicId identity.tenantId)
  let expiresAt ← Prog.attempt (sessionExpiry exp)
  Prog.orThrow CallbackError.database
    (federationCall (.createSession claims.sid claims.sub claims.tenantId amr expiresAt))
  let cookie := buildSessionCookie cfg token
  if isHeaderValue returnTo ∧ isHeaderValue cookie then return ⟨302, .empty, some returnTo, [cookie]⟩
  else throw (.configuration "failed to parse header value")

/-- The check of the token that came with the access token. -/
def checkCallbackIdToken (connectionType : String) (config : Value) (nonce idToken : Option String) :
    Federated CallbackError Unit :=
  if connectionType = "oidc" then
    match idToken with
    | some idToken =>
        Prog.orThrow CallbackError.ofUpstream (federationCall (.validateIdToken idToken config nonce))
    | none => if nonce.isSome then throw .invalidIdToken else return ()
  else return ()

/-- What `handle_oauth_callback` does once the pending login is taken. -/
def finishLogin (env : FederationEnv) (lib : FederationLibraries) (cfg : CallbackConfig)
    (code connectionType : String) (loginState : LoginStateRow) : Federated CallbackError Response := do
  settled (validateReturnTo lib cfg loginState.returnTo)
  let connection ← Prog.orThrow (fun _ => CallbackError.configuration "connection not found")
    (federationCall (.getConnection loginState.tenantId loginState.connectionId))
  let token ← Prog.orThrow (fun _ => CallbackError.tokenExchange)
    (federationCall (.exchangeCode connection.config code
      (callbackUri cfg.publicBaseUrl connectionType) loginState.codeVerifier))
  checkCallbackIdToken connectionType connection.config loginState.nonce token.idToken
  let userinfo ← Prog.orThrow (fun _ => CallbackError.userinfo)
    (federationCall (.fetchUserinfo connection.config token))
  let identity ← provisionUserinfo lib cfg loginState.tenantId userinfo
  buildSessionRedirect env lib cfg identity connectionType loginState.returnTo

/-- Source: `handle_oauth_callback`. -/
def handleOauthCallback (env : FederationEnv) (lib : FederationLibraries) (cfg : CallbackConfig)
    (code state connectionType : String) : Federated CallbackError Response := do
  let loginState ← Prog.orThrow CallbackError.database (federationCall (.getLoginState state))
  if loginState.connectionType ≠ connectionType then throw .invalidState
  else
    Prog.orThrow CallbackError.database (federationCall (.deleteLoginState state))
    finishLogin env lib cfg code connectionType loginState

/-! ## An environment for examples -/

/-- A session id is its own hash and its own cookie, and no secret is encrypted. -/
def FederationEnv.plain : FederationEnv where
  agent := ⟨.firstRow, id, fun _ => none, fun _ => false, id, 30, 600⟩
  hashSessionId := id
  encryptSecret _ := none
  decryptSecret _ := none
  signSession claims := claims.sid

/-- The ULID that repeats a character. -/
def Ulid.repeating (c : Char) : Ulid := ⟨String.ofList (List.replicate 26 c), by simp⟩

/-- Nothing fails, every random byte is zero, and the provider has a user with a verified email. -/
def FederationChoice.plain (ulid : Char) (now : ℤ) : FederationChoice where
  base := .plain (Ulid.repeating ulid).text now
  ulid := Ulid.repeating ulid
  random _ := 0
  exchange := .ok ⟨"access", "Bearer", some "id", .obj []⟩
  idToken := .ok ()
  userinfo := .ok (.obj [("email", .str "ada@acme.example"), ("email_verified", .bool true)])

/-- Every URL is one of `app.example`. -/
def FederationLibraries.plain : FederationLibraries where
  http := ⟨fun _ => .ok ⟨"https", some (.domain "app.example")⟩, fun _ => none, fun _ => none, fun _ => ""⟩
  upstream :=
    { parseUrl := fun text => .ok ⟨text, "https", some (.domain "app.example")⟩
      hostText := fun _ => ""
      displayServiceError := fun _ => ""
      Key := Unit
      decodeHeader := fun _ => none
      decodingKey := fun _ => none
      decode := fun _ _ _ _ _ _ => none
      parseJwks := fun _ => none }
  addressText _ := ""
  base64UrlNoPad := hexEncode
  codeChallenge := id

/-- A configuration whose schemas accept everything. -/
def CallbackConfig.plain : CallbackConfig where
  allowedReturnToHosts := ["app.example"]
  tenantAllowedReturnToHosts := none
  localDevMode := false
  publicBaseUrl := "https://sso.example"
  cookieSecure := true
  cookieSamesite := "Lax"
  sessionTtlSeconds := 3600
  identity := ⟨"default", fun _ => .ok fun _ => .ok ()⟩

/-- The tenant `acme`, with a schema that takes every identity. -/
def acmeWorld : World :=
  { World.empty [⟨"acme"⟩] with
    directory := { Directory.empty with schemas := [⟨"acme", "default", 1, .obj [], true⟩] } }

/-- An OIDC connection of `acme`'s. -/
def acmeConnection : TenantConnectionRow where
  id := "connection"
  tenantId := "acme"
  connectionType := .oidc
  domain := "acme.example"
  config := .obj [("issuer", .str "https://idp.example"), ("client_id", .str "gateway"),
    ("redirect_uri", .str "https://sso.example/callbacks/oidc"), ("scopes", .arr [.str "openid"])]
  isEnabled := true

/-- The domain `acme.example` is one that `acme` has verified, and leads to that connection. -/
def acmeFederation : FederationWorld :=
  { FederationWorld.start (.start acmeWorld []) with
    domains := .single ⟨"domain", "acme", "acme.example", "token", true⟩
    connections := .single acmeConnection }

end SsoGateway
