import SsoGateway.AgentTokens
import SsoGateway.Lib.Segments

/-!
# Branded self-service paths

The browser routes of self-service are served under configured paths. A configuration is validated
once, against the prefixes of the other routes; at every request the middleware lets what lies under
a configured path through without authentication.

* `SelfServicePaths.validate` — the check of a configuration.
* `SelfServicePaths.isBrowserPath`, `admission` — what the middleware does with a path.
* `RequiresCredential` — the routes that need a bearer token or a session.
* `reserved_not_browser` — nothing under a reserved prefix is opened.
* `branding_safe_iff` — the accepted configurations that open no such route.
* `branding_opens_rpc` — one that does: the reserved prefix `/iam` is none of `/iam.v1.TenantService`.

Source: `config.rs`, `services/self_service_url_rewriter.rs`, `middleware.rs`, the routers of
`services/handlers`, `proto/iam/v1`.
-/

namespace SsoGateway

open Lib

/-! ## The configuration -/

/-- Source: `config.rs` `SelfServicePaths`. -/
structure SelfServicePaths where
  login : String
  registration : String
  settings : String
  recovery : String
  verification : String
  logout : String
  errors : String
  oidcCallback : String
  webauthnJs : String
deriving DecidableEq, Repr

/-- Source: `ConfigError`, the variant of the paths. -/
inductive ConfigError where
  | invalidConfig (message : String)
deriving DecidableEq, Repr

namespace SelfServicePaths

/-- Source: `SelfServicePaths::default`. -/
def default : SelfServicePaths where
  login := "/identity/login"
  registration := "/identity/registration"
  settings := "/identity/settings"
  recovery := "/identity/recovery"
  verification := "/identity/verification"
  logout := "/identity/logout"
  errors := "/identity/errors"
  oidcCallback := "/identity/oidc/callback"
  webauthnJs := "/identity/webauthn.js"

/-- Source: `RESERVED_PREFIXES`. -/
def reservedPrefixes : List String :=
  ["/oauth2", "/saml", "/scim", "/callbacks", "/iam", "/.well-known", "/health", "/self-service"]

/-- Source: `vars`. -/
def vars (paths : SelfServicePaths) : List (String × String) :=
  [("SELF_SERVICE_LOGIN_PATH", paths.login),
    ("SELF_SERVICE_REGISTRATION_PATH", paths.registration),
    ("SELF_SERVICE_SETTINGS_PATH", paths.settings),
    ("SELF_SERVICE_RECOVERY_PATH", paths.recovery),
    ("SELF_SERVICE_VERIFICATION_PATH", paths.verification),
    ("SELF_SERVICE_LOGOUT_PATH", paths.logout),
    ("SELF_SERVICE_ERRORS_PATH", paths.errors),
    ("SELF_SERVICE_OIDC_CALLBACK_PATH", paths.oidcCallback),
    ("SELF_SERVICE_WEBAUTHN_JS_PATH", paths.webauthnJs)]

/-- A condition on a configured path that fails the configuration. -/
def forbid (b : Prop) [Decidable b] (message : String) : Except ConfigError Unit :=
  if b then .error (.invalidConfig message) else .ok ()

/-- Source: the first loop of `validate`. -/
def validatePath (var path : String) : Except ConfigError Unit := do
  forbid (startsWith path "/" = false ∨ path.utf8ByteSize = 1)
    (var ++ " must be an absolute path below the root, got '" ++ path ++ "'")
  forbid (path.toList.getLast? = some '/' ∨ '?' ∈ path.toList ∨ '#' ∈ path.toList)
    (var ++ " must be a bare path without trailing slash, query, or fragment, got '" ++ path ++ "'")
  forbid (∃ start ∈ reservedPrefixes, path = start ∨ startsWith path (start ++ "/") = true)
    (var ++ " must not shadow a reserved gateway prefix, got '" ++ path ++ "'")

/-- The inner loop of `validate`: the path is none of those after it. -/
def validateDistinct (var path : String) : List (String × String) → Except ConfigError Unit
  | [] => .ok ()
  | (otherVar, other) :: rest => do
      forbid (path = other)
        (var ++ " and " ++ otherVar ++ " must be distinct, both are '" ++ path ++ "'")
      validateDistinct var path rest

/-- Source: the second loop of `validate`. -/
def validatePairs (oidcCallback : String) : List (String × String) → Except ConfigError Unit
  | [] => .ok ()
  | (var, path) :: rest => do
      validateDistinct var path rest
      forbid (path ≠ oidcCallback ∧ startsWith path (oidcCallback ++ "/") = true)
        (var ++ " must not live under SELF_SERVICE_OIDC_CALLBACK_PATH, got '" ++ path ++ "'")
      validatePairs oidcCallback rest

/-- Source: `SelfServicePaths::validate`. -/
def validate (paths : SelfServicePaths) : Except ConfigError Unit := do
  paths.vars.forM fun v => validatePath v.1 v.2
  validatePairs paths.oidcCallback paths.vars

/-- Source: `env_or`. -/
def envOr (env : String → Option String) (var fallback : String) : String :=
  match env var with
  | none => fallback
  | some value => if trim value = "" then fallback else trim value

/-- Source: `SelfServicePaths::from_env`. -/
def fromEnv (env : String → Option String) : Except ConfigError SelfServicePaths := do
  let paths : SelfServicePaths :=
    { login := envOr env "SELF_SERVICE_LOGIN_PATH" default.login
      registration := envOr env "SELF_SERVICE_REGISTRATION_PATH" default.registration
      settings := envOr env "SELF_SERVICE_SETTINGS_PATH" default.settings
      recovery := envOr env "SELF_SERVICE_RECOVERY_PATH" default.recovery
      verification := envOr env "SELF_SERVICE_VERIFICATION_PATH" default.verification
      logout := envOr env "SELF_SERVICE_LOGOUT_PATH" default.logout
      errors := envOr env "SELF_SERVICE_ERRORS_PATH" default.errors
      oidcCallback := envOr env "SELF_SERVICE_OIDC_CALLBACK_PATH" default.oidcCallback
      webauthnJs := envOr env "SELF_SERVICE_WEBAUTHN_JS_PATH" default.webauthnJs }
  paths.validate
  return paths

/-! ## The table -/

/-- Source: `kratos_table`. -/
def kratosTable (paths : SelfServicePaths) : List (String × String) :=
  [("/self-service/login/browser", paths.login),
    ("/self-service/registration/browser", paths.registration),
    ("/self-service/settings/browser", paths.settings),
    ("/self-service/recovery/browser", paths.recovery),
    ("/self-service/verification/browser", paths.verification),
    ("/self-service/logout/browser", paths.logout),
    ("/self-service/recovery", paths.recovery),
    ("/self-service/verification", paths.verification),
    ("/self-service/logout", paths.logout),
    ("/self-service/errors", paths.errors),
    ("/self-service/methods/oidc/callback", paths.oidcCallback),
    ("/.well-known/ory/webauthn.js", paths.webauthnJs)]

/-- Source: `match_prefix`. -/
def matchPrefix (path start : String) : Option String :=
  if path = start then some ""
  else (stripStart path start).filter fun suffix => startsWith suffix "/"

/-- Source: `kratos_path_for_gateway`. -/
def kratosPathForGateway (paths : SelfServicePaths) (gatewayPath : String) : Option String :=
  paths.kratosTable.findSome? fun entry =>
    (matchPrefix gatewayPath entry.2).map fun suffix => entry.1 ++ suffix

/-- Source: `is_browser_path`. -/
def isBrowserPath (paths : SelfServicePaths) (path : String) : Bool :=
  (paths.kratosPathForGateway path).isSome

/-- The configured paths. -/
def all (paths : SelfServicePaths) : List String := paths.vars.map Prod.snd

end SelfServicePaths

/-! ## The middleware -/

/-- Source: `is_public_path`. -/
def isPublicPath (path : String) : Bool :=
  path ∈ ["/.well-known/openid-configuration", "/.well-known/jwks.json", "/oauth2/auth",
    "/oauth2/token", "/oauth2/revoke", "/oauth2/userinfo", "/userinfo", "/oauth2/register",
    "/oauth2/introspect", "/saml/metadata", "/saml/acs", "/saml/sso", "/callbacks/oidc",
    "/callbacks/oauth2", "/scim/v2/ServiceProviderConfig", "/scim/v2/ResourceTypes",
    "/scim/v2/Schemas", "/self-service/recovery", "/self-service/verification", "/health",
    "/health/ready", "/health/live"] ∨
  startsWith path "/oauth2/device/" = true ∨ startsWith path "/oauth2/register/" = true

/-- What `auth_middleware` does with a request, by its path. -/
inductive Admission where
  /-- Let through: the path belongs to the branded browser surface. -/
  | browser
  /-- Let through: the path is public. -/
  | anonymous
  | authenticated
deriving DecidableEq, Repr

/-- The decisions of `auth_middleware` before authentication. -/
def admission (paths : SelfServicePaths) (path : String) (hasBearer : Bool) : Admission :=
  if paths.isBrowserPath path then .browser
  else if isPublicPath path ∧ (path ∉ ["/oauth2/introspect", "/oauth2/register"] ∨ hasBearer = false)
    then .anonymous
  else .authenticated

/-- Source: `auth_middleware`. The context of an authenticated request, none for one that is let
through without. -/
def authMiddlewareAt (env : AgentEnv) (paths : SelfServicePaths) (path : String)
    (creds : Credentials) : Middleware (Option RequestContext) :=
  match admission paths path creds.bearerToken.isSome with
  | .browser => return none
  | .anonymous => return none
  | .authenticated => some <$> authMiddleware env creds

/-! ## The routes -/

/-- Source: a service of `proto/iam/v1`. -/
structure RpcService where
  name : String
  methods : List String
deriving DecidableEq, Repr

/-- The services that `app.rs` registers, with their methods in `proto/iam/v1`. -/
def rpcServices : List RpcService :=
  [⟨"TenantService", ["CreateTenant", "GetTenant", "ListTenants"]⟩,
    ⟨"ApplicationService", ["CreateApplication", "GetApplication", "ListApplications",
      "UpdateApplication", "DeleteApplication", "RotateSecret"]⟩,
    ⟨"ClientCredentialService", ["CreateClientCredential", "GetClientCredential",
      "ListClientCredentials", "UpdateClientCredential", "DeleteClientCredential",
      "RotateClientCredentialSecret"]⟩,
    ⟨"AgentService", ["CreateAgent", "GetAgent", "ListAgents", "UpdateAgent", "DeleteAgent",
      "RotateAgentSecret", "CreateAgentDelegation", "ListAgentDelegations",
      "RevokeAgentDelegation", "MintAgentActToken", "IntrospectAgentActToken"]⟩,
    ⟨"IdentityService", ["CreateIdentity", "GetIdentity", "ListIdentities", "UpdateIdentity",
      "DeleteIdentity", "CreateIdentitySchema", "GetIdentitySchema", "ListIdentitySchemas",
      "UpdateIdentitySchema", "DeleteIdentitySchema", "SetDefaultIdentitySchema", "CreateLoginFlow",
      "CreateRegistrationFlow", "GetSession", "ListSessions", "DeleteSession", "CreateRecoveryLink",
      "GetVerificationMessage"]⟩,
    ⟨"PermissionService", ["CheckPermission", "CreateRelationTuple", "DeleteRelationTuple",
      "ExpandPermissions", "ExpandObjects", "ListRelationTuples", "EnsurePermissionNamespace",
      "GetPermissionNamespace", "ListPermissionNamespaces", "DeletePermissionNamespace",
      "WriteRelationTuples", "ListUsers"]⟩,
    ⟨"ScimService", ["ListUsers", "GetUser", "CreateUser", "UpdateUser", "DeleteUser", "ListGroups",
      "GetGroup", "CreateGroup", "UpdateGroup", "DeleteGroup"]⟩,
    ⟨"FederationService", ["DiscoverLoginMethod", "InitiateOidcLogin", "InitiateOAuth2Login",
      "GetOpenIDConfiguration", "GetJSONWebKeys", "InitiateSamlLogin", "AcceptSamlAssertion"]⟩,
    ⟨"IdentitySelfService", ["ToSession", "GetLoginFlow", "GetRegistrationFlow", "GetSettingsFlow",
      "GetRecoveryFlow", "GetVerificationFlow", "SubmitLoginFlow", "SubmitRegistrationFlow",
      "SubmitSettingsFlow", "SubmitRecoveryFlow", "SubmitVerificationFlow", "CreateLoginFlow",
      "CreateRegistrationFlow", "CreateSettingsFlow", "CreateRecoveryFlow", "CreateLogoutFlow",
      "SubmitLogoutFlow", "CreateVerificationFlow", "SubmitRecoveryToken",
      "SubmitVerificationToken", "GetFlowError", "GetWebAuthnJavaScript", "GetTenantCapabilities"]⟩,
    ⟨"OAuth2ConsentService", ["GetConsentRequest", "AcceptConsent", "RejectConsent",
      "GetLogoutRequest", "AcceptLogout", "RejectLogout"]⟩,
    ⟨"OAuth2DeviceService", ["AuthorizeDevice", "GetDeviceToken", "GetDeviceVerification",
      "AcceptDeviceVerification"]⟩]

/-- The path of a service: `/iam.v1.<Service>`. -/
def RpcService.root (service : RpcService) : String := "/iam.v1." ++ service.name

/-- The path of a method: `/iam.v1.<Service>/<Method>`. -/
def RpcService.path (service : RpcService) (method : String) : String :=
  service.root ++ "/" ++ method

/-- The routes below the reserved prefixes that need a bearer token or a session, the captured
segment of a SCIM route aside. -/
def reservedCredentialRoutes : List String :=
  ["/oauth2/userinfo", "/oauth2/introspect", "/saml/sso", "/scim/v2/Users", "/scim/v2/Groups"]

/-- The route of the path needs a bearer token or a session: Connect RPC, SCIM, the root, and the
protocol endpoints that take one. -/
def RequiresCredential (path : String) : Prop :=
  path = "/" ∨ path = "/userinfo" ∨
    (∃ service ∈ rpcServices, ∃ method ∈ service.methods, path = service.path method) ∨
    path ∈ reservedCredentialRoutes ∨
    ∃ id, path = "/scim/v2/Users/" ++ id ∨ path = "/scim/v2/Groups/" ++ id

/-- A configured path that opens such a route: a Connect RPC service or one of its methods, or the
endpoint that stands beside the reserved prefixes. -/
def OpensRoute (configured : String) : Prop :=
  configured = "/userinfo" ∨ ∃ service ∈ rpcServices, configured = service.root ∨
    ∃ method ∈ service.methods, configured = service.path method

instance (configured : String) : Decidable (OpensRoute configured) :=
  inferInstanceAs (Decidable (_ ∨ ∃ service ∈ rpcServices, _ ∨ ∃ method ∈ service.methods, _))

/-! ## What a configuration opens -/

section matching

variable {path start : String}

/-- A path matches what it lies under. -/
theorem matchPrefix_isSome_iff :
    (SelfServicePaths.matchPrefix path start).isSome ↔ Under '/' start path := by
  unfold SelfServicePaths.matchPrefix
  by_cases hsame : path = start
  · simp [hsame, Under]
  rw [if_neg hsame]
  constructor
  · intro hsome
    obtain ⟨suffix, hsuffix⟩ := Option.isSome_iff_exists.mp hsome
    obtain ⟨hstrip, hslash⟩ := Option.filter_eq_some_iff.mp hsuffix
    obtain rfl := stripStart_eq_some.mp hstrip
    obtain ⟨rest, hrest⟩ := List.isPrefixOf_iff_prefix.mp hslash
    right
    simp [startsWith, ← hrest]
  · rintro (h | hstart)
    · exact absurd h hsame
    · obtain ⟨rest, hrest⟩ := List.isPrefixOf_iff_prefix.mp hstart
      have hpath : path = start ++ ("/" ++ String.ofList rest) := by
        rw [← String.toList_inj, ← hrest]
        simp
      rw [hpath, stripStart_append]
      simp [startsWith]

variable {paths : SelfServicePaths}

/-- The browser surface is what lies under a configured path. -/
theorem isBrowserPath_iff :
    paths.isBrowserPath path = true ↔ ∃ configured ∈ paths.all, Under '/' configured path := by
  have htable : ∀ p : String, p ∈ paths.kratosTable.map Prod.snd ↔ p ∈ paths.all := by
    intro p
    simp only [SelfServicePaths.kratosTable, SelfServicePaths.all, SelfServicePaths.vars, List.map_cons,
      List.map_nil, List.mem_cons, List.not_mem_nil, or_false]
    tauto
  unfold SelfServicePaths.isBrowserPath SelfServicePaths.kratosPathForGateway
  rw [List.findSome?_isSome_iff]
  constructor
  · rintro ⟨entry, hentry, hmatch⟩
    rw [Option.isSome_map, matchPrefix_isSome_iff] at hmatch
    exact ⟨entry.2, (htable _).mp (List.mem_map_of_mem hentry), hmatch⟩
  · rintro ⟨configured, hconfigured, hunder⟩
    obtain ⟨entry, hentry, rfl⟩ := List.mem_map.mp ((htable _).mpr hconfigured)
    refine ⟨entry, hentry, ?_⟩
    rw [Option.isSome_map, matchPrefix_isSome_iff]
    exact hunder

theorem forbid_eq_ok {b : Prop} [Decidable b] {message : String} {u : Unit} :
    SelfServicePaths.forbid b message = .ok u ↔ ¬ b := by
  unfold SelfServicePaths.forbid
  by_cases hb : b <;> simp [hb]

/-- A path that was accepted begins at the root, is not the root, and lies under no reserved
prefix. -/
structure AcceptedPath (configured : String) : Prop where
  absolute : startsWith configured "/" = true
  belowRoot : configured ≠ "/"
  unreserved : ∀ start ∈ SelfServicePaths.reservedPrefixes, ¬ Under '/' start configured

theorem accepted_of_validatePath {var : String} (h : SelfServicePaths.validatePath var path = .ok ()) :
    AcceptedPath path := by
  unfold SelfServicePaths.validatePath at h
  simp only [except_bind_eq_ok, forbid_eq_ok] at h
  obtain ⟨_, habsolute, _, -, hreserved⟩ := h
  rw [not_or] at habsolute
  push Not at hreserved
  refine ⟨by simpa using habsolute.1, ?_, ?_⟩
  · rintro rfl
    exact habsolute.2 rfl
  · rintro start hstart (h | h)
    · exact (hreserved start hstart).1 h
    · exact (hreserved start hstart).2 h

/-- Every path of an accepted configuration was accepted. -/
theorem accepted_of_validate (h : paths.validate = .ok ()) {configured : String}
    (hconfigured : configured ∈ paths.all) : AcceptedPath configured := by
  unfold SelfServicePaths.validate at h
  obtain ⟨_, hloop, -⟩ := except_bind_eq_ok.mp h
  obtain ⟨v, hv, rfl⟩ := List.mem_map.mp hconfigured
  exact accepted_of_validatePath (except_forM_eq_ok.mp hloop v hv)

/-- An accepted path is not under a path of one segment below the root, unless it is that path. -/
theorem AcceptedPath.eq_of_under {configured word : String} (h : AcceptedPath configured)
    (hword : '/' ∉ word.toList) (hunder : Under '/' configured ("/" ++ word)) :
    configured = "/" ++ word := by
  have hroot : ("/" ++ word : String) = "" ++ String.ofList ['/'] ++ word := by simp
  rw [hroot, under_append_iff hword, under_word_iff (by simp)] at hunder
  rcases hunder with hsame | rfl
  · rw [hsame, hroot]
  · have habsolute := h.absolute
    simp [startsWith] at habsolute

/-- The reserved prefixes are single segments. -/
theorem reserved_word {start : String} (h : start ∈ SelfServicePaths.reservedPrefixes) :
    ∃ word, '/' ∉ word.toList ∧ start = "/" ++ word := by
  have hwords : ∀ start ∈ SelfServicePaths.reservedPrefixes,
      '/' ∉ start.toList.drop 1 ∧ start = "/" ++ String.ofList (start.toList.drop 1) := by decide
  obtain ⟨hslash, hstart⟩ := hwords start h
  exact ⟨_, by simpa using hslash, hstart⟩

/-- Nothing under a reserved prefix belongs to the browser surface of an accepted configuration. -/
theorem reserved_not_browser (h : paths.validate = .ok ()) {start : String}
    (hstart : start ∈ SelfServicePaths.reservedPrefixes) (hpath : Under '/' start path) :
    paths.isBrowserPath path = false := by
  rw [Bool.eq_false_iff, ne_eq, isBrowserPath_iff]
  rintro ⟨configured, hconfigured, hunder⟩
  have haccepted := accepted_of_validate h hconfigured
  obtain ⟨word, hword, rfl⟩ := reserved_word hstart
  apply haccepted.unreserved _ hstart
  rcases hunder.comparable hpath with hshort | hlong
  · left
    exact haccepted.eq_of_under hword hshort
  · exact hlong

/-- The path of a method lies under an accepted path just if that is the method's or its service's. -/
theorem AcceptedPath.under_path_iff {configured : String} (h : AcceptedPath configured) {service : RpcService}
    {method : String} (hname : '/' ∉ service.name.toList) (hmethod : '/' ∉ method.toList) :
    Under '/' configured (service.path method) ↔
      configured = service.path method ∨ configured = service.root := by
  have hpath : service.path method = service.root ++ String.ofList ['/'] ++ method := rfl
  have hroot : service.root = "/" ++ ("iam.v1." ++ service.name) := by
    simp [RpcService.root, ← String.toList_inj]
  rw [hpath, under_append_iff hmethod]
  constructor
  · rintro (hsame | hunder)
    · exact .inl hsame
    · right
      rw [hroot] at hunder ⊢
      exact h.eq_of_under (by simpa using hname) hunder
  · rintro (hsame | rfl)
    · exact .inl hsame
    · exact .inr (.inl rfl)

/-- The routes under the reserved prefixes, by the prefix. -/
theorem reserved_of_credential
    (h : path ∈ reservedCredentialRoutes ∨
      ∃ id, path = "/scim/v2/Users/" ++ id ∨ path = "/scim/v2/Groups/" ++ id) :
    ∃ start ∈ SelfServicePaths.reservedPrefixes, Under '/' start path := by
  rcases h with hfixed | ⟨id, rfl | rfl⟩
  · have hall : ∀ path ∈ reservedCredentialRoutes,
        ∃ start ∈ SelfServicePaths.reservedPrefixes, Under '/' start path := by decide
    exact hall path hfixed
  · exact ⟨"/scim", by decide, .inr (by simp [startsWith])⟩
  · exact ⟨"/scim", by decide, .inr (by simp [startsWith])⟩

/-- A character that a text is not written with is not in it. -/
theorem not_mem_toList {c : Char} {s : String} {l : List Char} (hs : s = String.ofList l) (hc : c ∉ l) :
    c ∉ s.toList := by
  rw [hs, String.toList_ofList]
  exact hc

/-- No name of a service or method has a separator. -/
theorem rpc_words : ∀ service ∈ rpcServices, '/' ∉ service.name.toList ∧
    service.methods ≠ [] ∧ ∀ method ∈ service.methods, '/' ∉ method.toList := by
  simp only [rpcServices, List.forall_mem_cons]
  and_intros
  -- The names are compared as the lists of characters they are written with.
  all_goals first
    | exact not_mem_toList rfl (by decide)
    | exact List.cons_ne_nil _ _
    | exact List.forall_mem_nil _

/-- What a configured path opens of the routes that need a credential. -/
theorem AcceptedPath.opens_of_under {configured : String} (h : AcceptedPath configured)
    (hpath : RequiresCredential path) (hunder : Under '/' configured path)
    (hreserved : ∀ start ∈ SelfServicePaths.reservedPrefixes, ¬ Under '/' start path) :
    OpensRoute configured := by
  rcases hpath with rfl | rfl | ⟨service, hservice, method, hmethod, rfl⟩ | hrest
  · have hroot : Under '/' configured ("/" ++ "") := hunder
    exact absurd (h.eq_of_under (by simp) hroot) h.belowRoot
  · left
    have huserinfo : Under '/' configured ("/" ++ "userinfo") := hunder
    exact h.eq_of_under (by decide) huserinfo
  · right
    obtain ⟨hname, -, hmethods⟩ := rpc_words service hservice
    rcases (h.under_path_iff hname (hmethods method hmethod)).mp hunder with hsame | hroot
    · exact ⟨service, hservice, .inr ⟨method, hmethod, hsame⟩⟩
    · exact ⟨service, hservice, .inl hroot⟩
  · obtain ⟨start, hstart, hbelow⟩ := reserved_of_credential hrest
    exact absurd hbelow (hreserved start hstart)

/-- A path that opens a route does so for some request. -/
theorem exists_of_opens {configured : String} (h : OpensRoute configured) :
    ∃ path, RequiresCredential path ∧ Under '/' configured path := by
  rcases h with rfl | ⟨service, hservice, rfl | ⟨method, hmethod, rfl⟩⟩
  · exact ⟨"/userinfo", .inr (.inl rfl), .inl rfl⟩
  · obtain ⟨method, hmethod⟩ := List.exists_mem_of_ne_nil _ (rpc_words service hservice).2.1
    refine ⟨service.path method, .inr (.inr (.inl ⟨service, hservice, method, hmethod, rfl⟩)), .inr ?_⟩
    simp [startsWith, RpcService.path]
  · exact ⟨_, .inr (.inr (.inl ⟨service, hservice, method, hmethod, rfl⟩)), .inl rfl⟩

end matching

theorem admission_eq_browser {paths : SelfServicePaths} {path : String} {hasBearer : Bool} :
    admission paths path hasBearer = .browser ↔ paths.isBrowserPath path = true := by
  unfold admission
  by_cases hbrowser : paths.isBrowserPath path = true
  · simp [hbrowser]
  · rw [if_neg hbrowser]
    refine iff_of_false ?_ hbrowser
    split <;> simp

/-- **Where branding opens a protected route.** Of the configurations that are accepted, those under
which no route that needs a bearer token or a session is let through as a browser path are those
without a path that is a Connect RPC service, one of its methods, or `/userinfo`. -/
theorem branding_safe_iff (paths : SelfServicePaths) (h : paths.validate = .ok ()) :
    (∀ path hasBearer, admission paths path hasBearer = .browser → ¬ RequiresCredential path) ↔
      ∀ configured ∈ paths.all, ¬ OpensRoute configured := by
  constructor
  · intro hsafe configured hconfigured hopens
    obtain ⟨path, hpath, hunder⟩ := exists_of_opens hopens
    refine hsafe path true (admission_eq_browser.mpr ?_) hpath
    exact isBrowserPath_iff.mpr ⟨configured, hconfigured, hunder⟩
  · intro hclosed path hasBearer hbrowser hpath
    have hbrowser := admission_eq_browser.mp hbrowser
    obtain ⟨configured, hconfigured, hunder⟩ := isBrowserPath_iff.mp hbrowser
    apply hclosed configured hconfigured
    refine (accepted_of_validate h hconfigured).opens_of_under hpath hunder fun start hstart hbelow => ?_
    rw [reserved_not_browser h hstart hbelow] at hbrowser
    cases hbrowser

theorem validate_default : SelfServicePaths.default.validate = .ok () := by decide

/-- The default paths are accepted and open nothing. -/
theorem branding_safe_default : SelfServicePaths.default.validate = .ok () ∧
    ∀ path hasBearer, admission .default path hasBearer = .browser → ¬ RequiresCredential path :=
  ⟨validate_default, (branding_safe_iff .default validate_default).mpr (by decide)⟩

/-- The login page at the path of the tenant service is accepted, and `CreateTenant` needs no token
any more. -/
theorem branding_opens_rpc :
    let paths := { SelfServicePaths.default with login := "/iam.v1.TenantService" }
    paths.validate = .ok () ∧
      admission paths "/iam.v1.TenantService/CreateTenant" false = .browser ∧
      RequiresCredential "/iam.v1.TenantService/CreateTenant" := by
  refine ⟨by decide, by decide, .inr (.inr (.inl ⟨_, List.mem_cons_self, "CreateTenant", ?_, rfl⟩))⟩
  decide

end SsoGateway
