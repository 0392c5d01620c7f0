import SsoGateway.Auth
import SsoGateway.Gateway

/-!
# The public OAuth2 endpoints

The handlers of `POST /oauth2/register`, `GET /oauth2/auth`, `POST /oauth2/token` and
`POST /oauth2/device/*`, none of which asks for a caller.

* `register` — dynamic client registration: the scope filter, the registration at Hydra, the mapping.
* `resolvePublicClient`, `healClientMapping` — the client a request names, mapped on the spot where
  Hydra knows it and the gateway does not.
* `maybeExpandMatrixClientScope` — the widening of a client that asks for Matrix scopes.
* `authorize`, `token`, `device` — the requests forwarded to Hydra.

Source: `services/handlers/oauth2.rs`; the redirect checks are in `services/application.rs`.
-/

namespace SsoGateway

open Lib

/-! ## What the handlers are given -/

/-- Source: `url::Host`. -/
inductive UrlHost where
  | domain (name : String)
  | ipv4 (octets : List ℕ)
  | ipv6 (segments : List ℕ)
deriving DecidableEq, Repr

/-- A parsed URL, as far as it is looked at. -/
structure ParsedUrl where
  scheme : String
  host : Option UrlHost
deriving DecidableEq, Repr

/-- The functions of other libraries that the handlers call. -/
structure Libraries where
  /-- `reqwest::Url::parse`, with the text of its error. -/
  parseUrl : String → Except String ParsedUrl
  /-- `serde_json::from_str`. -/
  parseJson : String → Option Value
  /-- Base64 decoding into a text. -/
  decodeBase64 : String → Option String
  /-- The display text of a service error. -/
  displayServiceError : ServiceError → String

/-- The configuration of the handlers. Source: `Oauth2State`. -/
structure Oauth2State where
  systemTenantId : String
  dynamicClientRegistrationEnabled : Bool
  matrixOfflineAccessEnabled : Bool
  /-- In seconds. -/
  dcrUnusedRegistrationTtl : ℕ
deriving DecidableEq, Repr

/-! ## Responses -/

/-- The body of a response. -/
inductive Body where
  | json (v : Value)
  | text (s : String)
  | empty

/-- An HTTP response. -/
structure Response where
  status : ℕ
  body : Body
  location : Option String := none
  setCookies : List String := []

/-- Source: `json_response`. -/
def jsonResponse (v : Value) : Response := ⟨200, .json v, none, []⟩

/-- An error object with a description. -/
def errorWith (status : ℕ) (error description : String) : Response :=
  ⟨status, .json (.obj [("error", .str error), ("error_description", .str description)]), none, []⟩

/-- Source: `bad_request`. -/
def badRequest (message : String) : Response := errorWith 400 "invalid_request" message

/-- Source: `server_error_body`. -/
def serverErrorBody : Value := .obj [("error", .str "server_error")]

/-- Source: `internal_error`. -/
def internalError : Response := ⟨500, .json serverErrorBody, none, []⟩

/-- Source: `relay_client_error_body`. -/
def relayClientErrorBody (lib : Libraries) (status : ℕ) (message : String) : Value :=
  match lib.parseJson message with
  | some body =>
      if 400 ≤ status ∧ status < 500 ∧ (((body.get "error").bind Value.asStr).isSome) then body
      else serverErrorBody
  | none => serverErrorBody

/-- Source: `map_ory_error` of the handlers; the path and the client id are only logged. -/
def oryErrorResponse (lib : Libraries) : OryClientError → Response
  | .ory status message =>
      ⟨if status ∈ [400, 401, 403, 404] then status else 502,
        .json (relayClientErrorBody lib status message), none, []⟩
  | .http _ => ⟨502, .json serverErrorBody, none, []⟩
  | .url _ => ⟨502, .json serverErrorBody, none, []⟩
  | .missingTenant => ⟨401, .json serverErrorBody, none, []⟩
  | .serialization _ => internalError
  | .invalidResponse _ => internalError
  | .redirect _ _ => internalError

/-- The texts `HeaderValue::try_from` accepts. -/
def isHeaderValue (s : String) : Bool :=
  s.toList.all fun c => (32 ≤ c.toNat ∧ c.toNat ≠ 127) ∨ c = '\t'

/-- The response to a redirect of Hydra. -/
def redirectResponse (location : String) (setCookies : List String) : Response :=
  if location = "" ∨ isHeaderValue location = false then internalError
  else ⟨302, .empty, some location, setCookies.filter isHeaderValue⟩

/-! ## Checks of a registration -/

/-- Source: `is_loopback_host`. -/
def isLoopbackHost (url : ParsedUrl) : Bool :=
  match url.host with
  | some (.domain name) => eqIgnoreAsciiCase name "localhost"
  | some (.ipv4 octets) => octets.head? = some 127
  | some (.ipv6 segments) => segments = [0, 0, 0, 0, 0, 0, 0, 1]
  | none => false

/-- The part of the redirect checks that does not depend on the kind of client. -/
def parseRedirectUri (lib : Libraries) (uri : String) : Except ServiceError ParsedUrl :=
  if '*' ∈ uri.toList then
    .error (.invalidArgument ("redirect_uri contains wildcard: " ++ uri))
  else
    (lib.parseUrl uri).mapError fun e =>
      .invalidArgument ("invalid redirect_uri " ++ uri ++ ": " ++ e)

/-- Source: `validate_redirect_uris`. -/
def validateRedirectUris (lib : Libraries) (uris : List String) (allowHttp : Bool) :
    Except ServiceError Unit :=
  uris.forM fun uri => do
    let url ← parseRedirectUri lib uri
    if url.scheme = "https" then .ok ()
    else if url.scheme = "http" ∧ (allowHttp ∨ isLoopbackHost url) then .ok ()
    else if url.scheme = "javascript" ∨ url.scheme = "data" then
      .error (.invalidArgument ("redirect_uri uses forbidden scheme: " ++ url.scheme))
    else .error (.invalidArgument ("redirect_uri must use https scheme: " ++ uri))

/-- Source: `validate_native_redirect_uris`. -/
def validateNativeRedirectUris (lib : Libraries) (uris : List String) : Except ServiceError Unit :=
  uris.forM fun uri => do
    let url ← parseRedirectUri lib uri
    if url.scheme = "https" then .ok ()
    else if url.scheme = "http" ∧ isLoopbackHost url then .ok ()
    else if url.scheme = "javascript" ∨ url.scheme = "data" ∨ url.scheme = "file" then
      .error (.invalidArgument ("redirect_uri uses forbidden scheme: " ++ uri))
    else if url.scheme = "http" then
      .error (.invalidArgument ("redirect_uri must use https scheme: " ++ uri))
    else .ok ()

/-- Source: `validate_token_endpoint_auth_method`. -/
def validateTokenEndpointAuthMethod (method : String) : Except ServiceError Unit :=
  if method = "" ∨ method ∈ ["client_secret_post", "client_secret_basic", "none"] then .ok ()
  else .error (.invalidArgument
    ("token_endpoint_auth_method must be one of " ++
      "[\"client_secret_post\", \"client_secret_basic\", \"none\"]"))

/-! ## Registration -/

/-- Source: `DCR_ALLOWED_SCOPES`. -/
def dcrAllowedScopes : List String := ["openid", "profile", "email", "offline_access"]

/-- What is registered, read from the body of the request. -/
structure Registration where
  clientName : String
  redirectUris : List String
  grantTypes : List String
  responseTypes : List String
  registeredScope : String
  tokenEndpointAuthMethod : String
deriving DecidableEq, Repr

/-- Source: `json_string_array`. -/
def jsonStringArray (v : Value) : List String :=
  match v.asArray with
  | some items => items.filterMap Value.asStr
  | none => []

/-- A list, or a default in place of the empty one. -/
def orDefault (default : String) (l : List String) : List String := if l = [] then [default] else l

/-- The scopes of a registration that pass the filter; `openid` where none does. -/
def registrationScopes (body : Value) : List String :=
  orDefault "openid" ((splitWhitespace ((body.index "scope").asStr.getD "")).filter fun s =>
    s ∈ dcrAllowedScopes ∨ isMatrixScope s)

/-- An item that is appended unless it is there. -/
def withItem (item : String) (l : List String) : List String := if item ∈ l then l else l ++ [item]

/-- Source: the beginning of `register`. -/
def Registration.ofBody (st : Oauth2State) (body : Value) : Registration :=
  let scope := registrationScopes body
  let grantTypes := orDefault "authorization_code" (jsonStringArray (body.index "grant_types"))
  let isMatrix := scope.any isMatrixScope
  let offline := isMatrix && st.matrixOfflineAccessEnabled
  { clientName := (body.index "client_name").asStr.getD ""
    redirectUris := jsonStringArray (body.index "redirect_uris")
    grantTypes := if offline then withItem "refresh_token" grantTypes else grantTypes
    responseTypes := jsonStringArray (body.index "response_types")
    registeredScope :=
      if isMatrix then "*"
      else joinSpace (if offline then withItem "offline_access" scope else scope)
    tokenEndpointAuthMethod := (body.index "token_endpoint_auth_method").asStr.getD "" }

/-- The checks of a registration. -/
def Registration.validate (lib : Libraries) (reg : Registration) : Except ServiceError Unit := do
  validateTokenEndpointAuthMethod reg.tokenEndpointAuthMethod
  if reg.tokenEndpointAuthMethod = "none" then validateNativeRedirectUris lib reg.redirectUris
  else validateRedirectUris lib reg.redirectUris false

/-- A list of strings as a document. -/
def strings (l : List String) : Value := .arr (l.map .str)

/-- The client sent to Hydra. -/
def Registration.payload (reg : Registration) (publicId : String) : Value :=
  .obj [("client_id", .str publicId), ("client_name", .str reg.clientName),
    ("redirect_uris", strings reg.redirectUris), ("grant_types", strings reg.grantTypes),
    ("response_types", strings (orDefault "code" reg.responseTypes)),
    ("scope", .str reg.registeredScope),
    ("token_endpoint_auth_method", .str reg.tokenEndpointAuthMethod)]

/-- The document the caller gets. -/
def Registration.response (st : Oauth2State) (reg : Registration) (publicId clientSecret : String)
    (now : ℤ) : Value :=
  .obj [("client_id", .str publicId), ("client_secret", .str clientSecret),
    ("client_id_issued_at", .number (toString now)),
    ("client_secret_expires_at", .number (toString
      (if reg.tokenEndpointAuthMethod = "none" then 0 else now + st.dcrUnusedRegistrationTtl))),
    ("client_name", .str reg.clientName), ("redirect_uris", strings reg.redirectUris),
    ("grant_types", strings reg.grantTypes), ("response_types", strings reg.responseTypes),
    ("scope", .str reg.registeredScope),
    ("token_endpoint_auth_method", .str reg.tokenEndpointAuthMethod)]

/-- The registration after its checks: the client at Hydra, then the mapping under the caller's
tenant, or the system tenant where there is no caller. -/
def createRegistration (lib : Libraries) (st : Oauth2State) (auth : Option AuthContext)
    (reg : Registration) : Prog Gateway Response := do
  let publicId ← newUlid
  match ← callHydra (.createOauth2Client (reg.payload publicId)) with
  | .error err => return oryErrorResponse lib err
  | .ok created =>
      match (created.index "client_id").asStr with
      | none => return internalError
      | some oryId =>
          let tenantId := (auth.map (·.tenantId)).getD st.systemTenantId
          match ← IdMappingStore.create tenantId .hydra publicId oryId with
          | .error _ => return internalError
          | .ok _ =>
              let now ← nowUtc
              let clientSecret := (created.index "client_secret").asStr.getD ""
              return jsonResponse (reg.response st publicId clientSecret now)

/-- Source: `register`. -/
def register (lib : Libraries) (st : Oauth2State) (auth : Option AuthContext) (body : Value) :
    Prog Gateway Response :=
  if st.dynamicClientRegistrationEnabled = false then
    return errorWith 403 "access_denied" "dynamic client registration is disabled"
  else
    match (Registration.ofBody st body).validate lib with
    | .error err => return badRequest (lib.displayServiceError err)
    | .ok () => createRegistration lib st auth (.ofBody st body)

/-! ## The client a request names -/

/-- A step of a handler that may end in a response. -/
abbrev Handled (α : Type) := ExceptT Response (Prog Gateway) α

/-- Source: `heal_client_mapping`. A mapping that cannot be written does not stop the request. -/
def healClientMapping (st : Oauth2State) (clientId : String) : Handled String := do
  match ← Prog.attempt (callHydra (.getOauth2Client clientId)) with
  | .error (.ory 404 _) =>
      throw ⟨401, .text (Value.render (.obj [("error", .str "invalid_client")])), none, []⟩
  | .error _ => throw internalError
  | .ok client =>
      let oryId := (client.index "client_id").asStr.getD clientId
      let _ ← Prog.attempt (IdMappingStore.create st.systemTenantId .hydra clientId oryId)
      return oryId

/-- Source: `resolve_public_client`. -/
def resolvePublicClient (st : Oauth2State) (clientId : String) : Handled String := do
  if clientId = "" then
    throw (badRequest "missing client_id")
  else
    match ← Prog.attempt (IdMappingStore.getOryIdByPublicId .hydra clientId) with
    | .ok oryId => return oryId
    | .error .mappingNotFound => healClientMapping st clientId
    | .error _ => throw internalError

/-- Source: `resolve_public_client_for_authorize`. An unmapped id passes through as Hydra's own. -/
def resolvePublicClientForAuthorize (clientId : String) : Handled String := do
  if clientId = "" then
    throw (badRequest "missing client_id")
  else
    match ← Prog.attempt (IdMappingStore.getOryIdByPublicId .hydra clientId) with
    | .ok oryId => return oryId
    | .error .mappingNotFound => return clientId
    | .error _ => throw internalError

/-- The entitlements of a client with a row are removed; failures are passed over. -/
def removeEntitlements (tenantId publicId : String) : Prog Gateway Unit := do
  match ← ApplicationStore.get tenantId publicId with
  | .ok _ =>
      let _ ← EntitlementService.removeApplication tenantId publicId
      return ()
  | .error _ => return ()

/-- Source: `delete_orphaned_client_mapping`. -/
def deleteOrphanedClientMapping (oryId : String) : Prog Gateway Unit := do
  match ← IdMappingStore.getTenantIdByOryId .hydra oryId with
  | .ok (some tenantId) =>
      match ← IdMappingStore.getPublicIdByOryId .hydra oryId with
      | .ok publicId =>
          removeEntitlements tenantId publicId
          let _ ← IdMappingStore.delete tenantId .hydra publicId
          return ()
      | .error _ => return ()
  | .ok none => return ()
  | .error _ => return ()

/-! ## Matrix scopes -/

/-- Source: `disallowed_matrix_scope`. -/
def disallowedMatrixScope (scope : String) : Option String :=
  let scopes := splitWhitespace scope
  if scopes.any isMatrixScope then
    scopes.find? fun s => s ∉ dcrAllowedScopes ∧ ¬ isMatrixScope s
  else none

/-- Source: `with_matrix_offline_access`. -/
def withMatrixOfflineAccess (st : Oauth2State) (scope : String) : String :=
  let scopes := splitWhitespace scope
  if st.matrixOfflineAccessEnabled ∧ scopes.any isMatrixScope ∧ "offline_access" ∉ scopes then
    joinSpace (scopes ++ ["offline_access"])
  else scope

/-- Does the registration of a client cover the requested scopes? -/
def coversScopes (client : Value) (requested : List String) : Bool :=
  let registered := splitWhitespace ((client.index "scope").asStr.getD "")
  "*" ∈ registered ∨ ∀ s ∈ requested, s ∈ registered

/-- The client with every scope, and with the refresh grant where offline access is on. -/
def expandedClient (st : Oauth2State) (client : Value) : Value :=
  let payload := client.setIndex "scope" (.str "*")
  let grantTypes := jsonStringArray (client.index "grant_types")
  if st.matrixOfflineAccessEnabled ∧ "refresh_token" ∉ grantTypes then
    payload.setIndex "grant_types" (strings (grantTypes ++ ["refresh_token"]))
  else payload

/-- Source: `maybe_expand_matrix_client_scope`. -/
def maybeExpandMatrixClientScope (st : Oauth2State) (oryId : String) (requested : List String) :
    Prog Gateway Unit := do
  match ← callHydra (.getOauth2Client oryId) with
  | .error (.ory 404 _) => deleteOrphanedClientMapping oryId
  | .error _ => return ()
  | .ok client =>
      if coversScopes client requested then
        return ()
      else
        let _ ← callHydra (.updateOauth2Client oryId (expandedClient st client))
        return ()

/-- The widening is tried on requests with a Matrix scope. -/
def healMatrixScope (st : Oauth2State) (oryId : String) (requested : List String) :
    Prog Gateway Unit :=
  if requested.any isMatrixScope then maybeExpandMatrixClientScope st oryId requested
  else return ()

/-! ## Authorization -/

/-- The cookie header, reassembled. -/
def joinCookies (cookies : List String) : Option String :=
  let joined := String.intercalate "; " cookies
  if joined = "" then none else some joined

/-- The query sent to Hydra: Hydra's client id, and the scope with offline access. -/
def authorizeQuery (params : Params) (oryId effectiveScope : String) : Params := fun k =>
  (params k).map fun v => if k = "client_id" then oryId else if k = "scope" then effectiveScope else v

/-- Source: `authorize`. -/
def authorize (lib : Libraries) (st : Oauth2State) (cookies : List String) (params : Params) :
    Prog Gateway Response := do
  match (params "scope").bind disallowedMatrixScope with
  | some offending =>
      return errorWith 400 "invalid_scope" ("scope '" ++ offending ++
        "' is not allowed alongside Matrix (MSC2965/MSC2967) scopes")
  | none =>
      match ← (resolvePublicClientForAuthorize ((params "client_id").getD "")).run with
      | .error response => return response
      | .ok oryId =>
          let effectiveScope := withMatrixOfflineAccess st ((params "scope").getD "")
          healMatrixScope st oryId (splitWhitespace effectiveScope)
          match ← callHydra (.authorize (authorizeQuery params oryId effectiveScope)
            (joinCookies cookies)) with
          | .ok value => return jsonResponse value
          | .error (.redirect location setCookies) => return redirectResponse location setCookies
          | .error err => return oryErrorResponse lib err

/-! ## Tokens and devices -/

/-- Source: `basic_auth_credentials`. -/
def basicAuthCredentials (lib : Libraries) (header : Option String) : Option (String × String) := do
  let (scheme, payload) ← splitOnce (← header) ' '
  if eqIgnoreAsciiCase scheme "basic" then
    splitOnce (← lib.decodeBase64 (trim payload)) ':'
  else none

/-- A request with a form, and its `Authorization` header. -/
structure FormRequest where
  authorization : Option String
  form : Params

/-- The form without the credentials. -/
def withoutCredentials (form : Params) : Params := fun k =>
  if k = "client_id" ∨ k = "client_secret" then none else form k

/-- The form of a request; credentials of a Basic header replace those of the form. -/
def FormRequest.fields (lib : Libraries) (req : FormRequest) : Params :=
  if (basicAuthCredentials lib req.authorization).isSome then withoutCredentials req.form
  else req.form

/-- The client a request names. -/
def FormRequest.clientId (lib : Libraries) (req : FormRequest) : String :=
  (((basicAuthCredentials lib req.authorization).map (·.1)).or
    (req.fields lib "client_id")).getD ""

/-- A request with a form, forwarded for the client it names: the body of `token` and `device`. -/
def forwardForm (lib : Libraries) (st : Oauth2State) (req : FormRequest)
    (send : Params → Option (String × String) → Prog Gateway (Except OryClientError Value)) :
    Prog Gateway Response := do
  match ← (resolvePublicClient st (req.clientId lib)).run with
  | .error response => return response
  | .ok oryId =>
      let credentials := (basicAuthCredentials lib req.authorization).map fun c => (oryId, c.2)
      match ← send (Function.update (req.fields lib) "client_id" (some oryId)) credentials with
      | .ok value => return jsonResponse value
      | .error err => return oryErrorResponse lib err

/-- Source: `token`. -/
def token (lib : Libraries) (st : Oauth2State) (req : FormRequest) : Prog Gateway Response :=
  forwardForm lib st req fun form credentials => callHydra (.token form credentials)

/-- Source: `device`. -/
def device (lib : Libraries) (st : Oauth2State) (path : String) (req : FormRequest) :
    Prog Gateway Response :=
  forwardForm lib st req fun form credentials => callHydra (.device path form credentials)

end SsoGateway
