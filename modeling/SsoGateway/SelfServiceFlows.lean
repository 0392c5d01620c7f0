import SsoGateway.ConsentMapper
import SsoGateway.IdentityUpdates
import SsoGateway.LoginGate
import SsoGateway.TransientTokens
import SsoGateway.UrlRewriting
import SsoGateway.Lib.OwnCalls
import SsoGateway.Lib.Translate
import SsoGateway.Lib.UrlText

/-!
# Browser flows

A browser logs in, registers, changes its settings and recovers an account in flows of Kratos. Of a flow it
only sees the gateway's name: what Kratos answers is renamed on the way out, and a name is resolved on the way
in.

* `FlowOp`, `FlowWorld`, `flows` — the calls, and what each does; Kratos may answer anything.
* `scrubFlowIdInUrl` — the renaming in a URL.
* `FlowAnswer`, `oryFlowToProto`, `mapFlowResponse`, `rewriteFlowUrls` — the renaming of a flow.
* `scrubFlowIdInErrorBody`, `mapSubmitResponse` — and of the answer to a submission.
* `FlowRequest`, `flowRequests` — any number of requests, next to any other programs over the same tables.

Source: `services/identity_self_service.rs`, `services/identity_self_service_mapper.rs`,
`services/self_service_url_rewriter.rs`, `services/handlers/self_service.rs`.
-/

namespace SsoGateway

open Lib

/-! ## The calls -/

/-- The kinds of flows. -/
inductive FlowKind where
  | login
  | registration
  | settings
  | recovery
  | verification
deriving DecidableEq, Repr

/-- Source: `KratosResponse`, with the `Set-Cookie` headers of it. -/
structure KratosResponse where
  body : Value
  setCookies : List String

/-- Source: `KratosRedirectResponse`. -/
structure KratosRedirectResponse where
  location : Option String
  setCookies : List String

/-- The calls about flows. Source: `KratosSelfService`. -/
inductive FlowCall where
  | createFlow (kind : FlowKind) (query : List (String × String)) (cookie : Option String)
  | getFlow (kind : FlowKind) (flowId : String) (cookie : Option String)
  | submitFlow (kind : FlowKind) (flowId : String) (cookie : Option String) (body : Value)
  | submitToken (kind : FlowKind) (token flowId : String) (cookie csrfToken : Option String)
  | createLogoutFlow (returnTo cookie : Option String)
  | submitLogoutFlow (token : String) (returnTo cookie : Option String)
  | getFlowError (id : String)

/-- The answers. -/
@[reducible] def FlowCall.Res : FlowCall → Type
  | .submitToken _ _ _ _ _ => Except OryClientError KratosRedirectResponse
  | .submitLogoutFlow _ _ _ => Except OryClientError Unit
  | .getFlowError _ => Except OryClientError Value
  | _ => Except OryClientError KratosResponse

/-- The flow that a call is about. -/
def FlowCall.flowId : FlowCall → Option String
  | .getFlow _ flowId _ => some flowId
  | .submitFlow _ flowId _ _ => some flowId
  | .submitToken _ _ flowId _ _ => some flowId
  | .getFlowError id => some id
  | _ => none

/-- The calls of the service. -/
inductive FlowOp where
  | transient (op : TransientOp)
  | gateway (op : GatewayOp)
  | kratos (call : FlowCall)

/-- The answers. -/
@[reducible] def FlowOp.Res : FlowOp → Type
  | .transient op => op.Res
  | .gateway op => op.Res
  | .kratos call => call.Res

/-- The signature of the service. -/
@[reducible] def FlowSig : Sig := ⟨FlowOp, FlowOp.Res⟩

/-- What is decided for one call. -/
structure FlowChoice where
  transient : TransientChoice
  gateway : Choice
  kratos : (call : FlowCall) → call.Res

/-- What the service works on. The tokens of `base` are those of the table. -/
structure FlowWorld where
  tokens : TransientTokens
  base : World

/-- The gateway's world, with the table's tokens. -/
def FlowWorld.world (w : FlowWorld) : World := { w.base with transientTokens := w.tokens.rows }

/-- What every call does. -/
def flows (env : Env) : Handler FlowSig FlowChoice FlowWorld
  | .transient op, c, w =>
      let r := transientStore op c.transient w.tokens
      (r.1, { w with tokens := r.2 })
  | .gateway op, c, w =>
      let r := gateway env op c.gateway w.world
      (r.1, { w with base := r.2 })
  | .kratos call, c, w => (c.kratos call, w)

/-- One call. -/
abbrev flowCall (op : FlowOp) : Prog FlowSig op.Res := Prog.perform (S := FlowSig) op

/-- A step of the service. -/
abbrev FlowService (α : Type) := ExceptT ServiceError (Prog FlowSig) α

/-- A step of the gateway's other services. -/
def onGateway {α : Type} (x : Service α) : FlowService α :=
  Prog.translateT (fun op => flowCall (.gateway op)) x

/-! ## Names -/

/-- Source: `transient_expiry`, in seconds. -/
def transientExpiry : Prog FlowSig ℤ := do
  let now ← flowCall (.gateway .nowUtc)
  return now + 3600

/-- A name for a token, which is made if there is none. -/
def publicToken (K : TransientKey) : FlowService String := do
  let expiry ← Prog.attempt transientExpiry
  Prog.orThrow ServiceError.ofDbError (flowCall (.transient (.create K expiry)))

/-- What a flow of Kratos is named by. -/
def flowKeyOf (tenantId oryFlowId : String) : TransientKey := ⟨tenantId, .kratos, "flow", oryFlowId⟩

/-- What a login challenge of Hydra is named by. -/
def challengeKeyOf (tenantId oryChallenge : String) : TransientKey :=
  ⟨tenantId, .hydra, "login_challenge", oryChallenge⟩

/-- What a logout token of Kratos is named by. -/
def logoutKeyOf (tenantId oryToken : String) : TransientKey := ⟨tenantId, .kratos, "logout_token", oryToken⟩

/-- Source: `public_flow`. -/
def publicFlow (tenantId oryFlowId : String) : FlowService String :=
  if oryFlowId = "" then return "" else publicToken (flowKeyOf tenantId oryFlowId)

/-! ## URLs -/

/-- A parameter that names a flow. -/
def isFlowPair (pair : String × String) : Bool := pair.1 = "flow" && pair.2 ≠ ""

/-- A parameter, with the name of its flow. -/
def scrubPair (tenantId : String) (pair : String × String) : FlowService (String × String) :=
  if isFlowPair pair then do
    let publicId ← publicToken (flowKeyOf tenantId pair.2)
    return (pair.1, publicId)
  else return pair

/-- The parameters of a URL, one after the other. -/
def scrubPairs (tenantId : String) : List (String × String) → FlowService (List (String × String))
  | [] => return []
  | pair :: pairs => do
      let pair' ← scrubPair tenantId pair
      let pairs' ← scrubPairs tenantId pairs
      return pair' :: pairs'

/-- Source: `scrub_flow_id_in_url`. -/
def scrubFlowIdInUrl (urls : UrlLibrary) (tenantId value : String) (strict : Bool) : FlowService String :=
  match urls.parse value with
  | none =>
      if strict then throw (.internal "kratos returned an invalid redirect location") else return value
  | some url =>
      if (urls.queryPairs url).any isFlowPair then do
        let scrubbed ← scrubPairs tenantId (urls.queryPairs url)
        return urls.text (urls.replacePairs url scrubbed)
      else return value

/-- What the service is built with. Source: `IdentitySelfServiceImpl`. -/
structure IdentitySelfService where
  urls : UrlLibrary
  hosts : String → Option String
  /-- `serde_json::from_str`. -/
  parseJson : String → Option Value
  /-- `serde_json::to_string`. -/
  jsonText : Value → String
  compile : SchemaCompiler
  env : Env
  paths : SelfServicePaths
  kratosPublicUrl : String
  hydraPublicUrl : String
  gatewayPublicUrl : String
  kratosDefaultSchemaId : String
  /-- The tenant of the browser proxy. -/
  systemTenantId : String

section service

variable (state : IdentitySelfService)

/-- Source: `rewrite_gateway_facing_url`. -/
def rewriteGatewayFacingUrl (url : String) : String :=
  rewriteUrl (rewriteBrowserUrl state.hosts state.paths state.kratosPublicUrl state.gatewayPublicUrl url)
    state.kratosPublicUrl state.gatewayPublicUrl

/-- A URL of an application: host rewrite only. -/
def rewriteAppUrl (url : String) : String := rewriteUrl url state.kratosPublicUrl state.gatewayPublicUrl

/-- Source: `rewrite_hydra_url`. -/
def rewriteHydraUrl (url : String) : String := rewriteUrl url state.hydraPublicUrl state.gatewayPublicUrl

/-- Source: `rewrite_and_scrub_flow_url`. -/
def rewriteAndScrubFlowUrl (tenantId value : String) : FlowService String :=
  scrubFlowIdInUrl state.urls tenantId (rewriteGatewayFacingUrl state value) false

end service

/-! ## A flow -/

/-- The attributes of a node; those with a URL, with it. Source: `ui_node::Attributes`. -/
inductive UiNodeAttributes where
  | input (src : String)
  | text
  | anchor (href : String)
  | image (src : String)
  | script (src : String)
deriving DecidableEq, Repr

/-- Source: `UiContainer`. -/
structure UiContainer where
  action : String
  nodes : List (Option UiNodeAttributes)
deriving DecidableEq, Repr

/-- The client of a login request, with its URLs. Source: `OAuth2Client`. -/
structure FlowClient where
  clientId : String
  redirectUris : List String
  clientUri : String
  logoUri : String
  policyUri : String
  tosUri : String
  jwksUri : String
deriving DecidableEq, Repr

/-- Source: `OAuth2LoginRequest`. -/
structure OAuth2LoginRequest where
  challenge : String
  clientId : String
  subject : String
  client : Option FlowClient
deriving DecidableEq, Repr

/-- The fields of a flow that are renamed or rewritten. Source: `SelfServiceFlow`. -/
structure FlowAnswer extends SelfServiceFlow where
  id : String
  returnTo : String
  requestUrl : String
  identitySchemaId : String
  oauth2LoginRequest : Option OAuth2LoginRequest
  ui : Option UiContainer
deriving DecidableEq, Repr

/-- A flow that only redirects the browser. -/
def FlowAnswer.ofRedirect (flow : SelfServiceFlow) : FlowAnswer :=
  { flow with id := "", returnTo := "", requestUrl := "", identitySchemaId := "",
              oauth2LoginRequest := none, ui := none }

/-- Source: `ory_ui_node_to_proto`, the attributes of the node. -/
def oryUiNodeAttributes (node : Value) : Option UiNodeAttributes :=
  (node.get "attributes").bind fun attributes =>
    match jsonStr attributes "node_type" with
    | "input" => some (.input (jsonStr attributes "src"))
    | "text" => some .text
    | "anchor" => some (.anchor (jsonStr attributes "href"))
    | "img" => some (.image (jsonStr attributes "src"))
    | "image" => some (.image (jsonStr attributes "src"))
    | "script" => some (.script (jsonStr attributes "src"))
    | _ => none

/-- Source: `ory_ui_container_to_proto`. -/
def oryUiContainerToProto (v : Value) : UiContainer :=
  { action := jsonStr v "action"
    nodes := ((((v.get "nodes").bind Value.asArray).getD []).map oryUiNodeAttributes) }

/-- Source: `impl From<&Value> for OAuth2Client`. -/
def FlowClient.ofValue (v : Value) : FlowClient :=
  { clientId := jsonStr v "client_id"
    redirectUris := jsonArrayToStrings (v.index "redirect_uris")
    clientUri := jsonStr v "client_uri"
    logoUri := jsonStr v "logo_uri"
    policyUri := jsonStr v "policy_uri"
    tosUri := jsonStr v "tos_uri"
    jwksUri := jsonStr v "jwks_uri" }

/-- Source: `ory_oauth2_login_request_to_proto`. -/
def oryOauth2LoginRequestToProto (v : Value) : OAuth2LoginRequest :=
  let client := v.index "client"
  { challenge := jsonStr v "challenge"
    clientId := jsonStr client "client_id"
    subject := jsonStr v "subject"
    client := client.asObject.map fun _ => .ofValue client }

/-- Source: `ory_flow_to_proto`. -/
def oryFlowToProto (v : Value) : FlowAnswer :=
  { redirectBrowserTo := ""
    id := jsonStr v "id"
    returnTo := jsonStr v "return_to"
    requestUrl := jsonStr v "request_url"
    identitySchemaId := jsonStr v "identity_schema_id"
    oauth2LoginRequest := (v.get "oauth2_login_request").map oryOauth2LoginRequestToProto
    ui := (v.get "ui").map oryUiContainerToProto }

section service

variable (state : IdentitySelfService)

/-! ### The names in it -/

/-- A field that names something of a backend; the empty one names nothing. -/
def renamedBy (rename : String → FlowService String) (field : String) : FlowService String :=
  if field = "" then return "" else rename field

/-- The public id of a mapping. -/
def mappedId (tenantId : String) (backend : Backend) (oryId : String) : FlowService String :=
  Prog.orThrow ServiceError.ofDbError (flowCall (.gateway (.mapping (.getPublicId tenantId backend oryId))))

/-- The client of a login request, by its public id. -/
def mapFlowClient (tenantId : String) : Option FlowClient → FlowService (Option FlowClient)
  | none => return none
  | some client => do
      let clientId ← renamedBy (mappedId tenantId .hydra) client.clientId
      return some { client with clientId := clientId }

/-- Source: `map_oauth2_login_request`. -/
def mapOauth2LoginRequest (tenantId : String) (oauth2 : OAuth2LoginRequest) :
    FlowService OAuth2LoginRequest := do
  let challenge ← renamedBy (fun ory => publicToken (challengeKeyOf tenantId ory)) oauth2.challenge
  let clientId ← renamedBy (mappedId tenantId .hydra) oauth2.clientId
  let subject ← renamedBy (mappedId tenantId .kratos) oauth2.subject
  let client ← mapFlowClient tenantId oauth2.client
  return ⟨challenge, clientId, subject, client⟩

/-- The schema that is shown for the one of Kratos. -/
def mapIdentitySchemaId (tenantId schemaId : String) : FlowService String :=
  if schemaId = "" then return "" else do
    match ← Prog.attempt (flowCall (.gateway (.directory (.getDefaultSchema tenantId)))) with
    | .ok schema => return schema.schemaId
    | .error _ => return ""

/-- A part of a flow that may be missing. -/
def mapPart {α β : Type} (f : α → FlowService β) : Option α → FlowService (Option β)
  | none => return none
  | some a => some <$> f a

/-- Source: `map_flow_response`. -/
def mapFlowResponse (tenantId : String) (flow : FlowAnswer) : FlowService FlowAnswer := do
  let id ← publicFlow tenantId flow.id
  let identitySchemaId ← mapIdentitySchemaId tenantId flow.identitySchemaId
  let oauth2 ← mapPart (mapOauth2LoginRequest tenantId) flow.oauth2LoginRequest
  return { flow with id := id, identitySchemaId := identitySchemaId, oauth2LoginRequest := oauth2 }

/-! ### The URLs in it -/

/-- The URL of a node. -/
def rewriteNode (tenantId : String) : Option UiNodeAttributes → FlowService (Option UiNodeAttributes)
  | some (.anchor href) => (fun url => some (.anchor url)) <$> rewriteAndScrubFlowUrl state tenantId href
  | some (.image src) => (fun url => some (.image url)) <$> rewriteAndScrubFlowUrl state tenantId src
  | some (.script src) => (fun url => some (.script url)) <$> rewriteAndScrubFlowUrl state tenantId src
  | some (.input src) => (fun url => some (.input url)) <$> rewriteAndScrubFlowUrl state tenantId src
  | some .text => return some .text
  | none => return none

/-- The URLs of the nodes, one after the other. -/
def rewriteNodes (tenantId : String) :
    List (Option UiNodeAttributes) → FlowService (List (Option UiNodeAttributes))
  | [] => return []
  | node :: nodes => do
      let node' ← rewriteNode state tenantId node
      let nodes' ← rewriteNodes tenantId nodes
      return node' :: nodes'

/-- The URLs of the form. -/
def rewriteUi (tenantId : String) (ui : UiContainer) : FlowService UiContainer := do
  let action ← rewriteAndScrubFlowUrl state tenantId ui.action
  let nodes ← rewriteNodes state tenantId ui.nodes
  return ⟨action, nodes⟩

/-- The URLs of a client. -/
def rewriteClient (client : FlowClient) : FlowClient :=
  { client with
    redirectUris := client.redirectUris.map (rewriteAppUrl state)
    clientUri := rewriteAppUrl state client.clientUri
    logoUri := rewriteAppUrl state client.logoUri
    policyUri := rewriteAppUrl state client.policyUri
    tosUri := rewriteAppUrl state client.tosUri
    jwksUri := rewriteAppUrl state client.jwksUri }

/-- Source: `rewrite_flow_urls`. -/
def rewriteFlowUrls (tenantId : String) (flow : FlowAnswer) : FlowService FlowAnswer := do
  let requestUrl ← rewriteAndScrubFlowUrl state tenantId flow.requestUrl
  let ui ← mapPart (rewriteUi state tenantId) flow.ui
  return { flow with
    returnTo := rewriteAppUrl state flow.returnTo
    requestUrl := requestUrl
    ui := ui
    oauth2LoginRequest := flow.oauth2LoginRequest.map fun oauth2 =>
      { oauth2 with client := oauth2.client.map (rewriteClient state) } }

/-! ## Answers -/

/-- An answer with a flow in it. -/
structure FlowResponse where
  flow : FlowAnswer
  setCookies : List String
deriving DecidableEq, Repr

/-- The answer to whoever asked for a flow: its names and its URLs are the gateway's. -/
def flowResponse (tenantId : String) (answer : KratosResponse) : FlowService FlowResponse := do
  let mapped ← mapFlowResponse tenantId (oryFlowToProto answer.body)
  let flow ← rewriteFlowUrls state tenantId mapped
  return ⟨flow, answer.setCookies⟩

/-- A redirect of Kratos. -/
def scrubRedirect (tenantId location : String) : FlowService String :=
  scrubFlowIdInUrl state.urls tenantId (rewriteGatewayFacingUrl state location) true

/-- Without the field of a key. -/
def removeKey (key : String) : Value → Value
  | .obj fields => .obj (fields.filter fun field => field.1 ≠ key)
  | v => v

/-- A document whose string under a key is changed, if it can be. -/
def scrubField (tenantId key : String) (doc : Value) : Prog FlowSig Value :=
  match (doc.get key).bind Value.asStr with
  | none => return doc
  | some url => do
      match ← (scrubFlowIdInUrl state.urls tenantId url false).run with
      | .ok scrubbed => return doc.insert key (.str scrubbed)
      | .error _ => return doc

/-- The form of a document. -/
def scrubAction (tenantId : String) (doc : Value) : Prog FlowSig Value :=
  match doc.get "ui" with
  | some (.obj fields) => do
      let ui ← scrubField state tenantId "action" (.obj fields)
      return doc.insert "ui" ui
  | _ => return doc

/-- The form of a document, without its action. -/
def dropAction (doc : Value) : Value :=
  match doc.get "ui" with
  | some (.obj fields) => doc.insert "ui" (removeKey "action" (.obj fields))
  | _ => doc

/-- The document of a flow, with the id of the flow in it. -/
def flowDocument (body : Value) : Option String :=
  body.asObject.bind fun _ => (body.get "id").bind fun id => id.asStr.bind fun rawId =>
    (body.get "ui").map fun _ => rawId

/-- The document of a failed submission: with the name of its flow, or without id and URLs. -/
def scrubFlowDocument (tenantId rawId : String) (body : Value) : Prog FlowSig Value := do
  match ← flowCall (.transient (.getPublicToken (flowKeyOf tenantId rawId))) with
  | .ok publicId =>
      let named := body.insert "id" (.str publicId)
      let requested ← scrubField state tenantId "request_url" named
      scrubAction state tenantId requested
  | .error _ => return dropAction (removeKey "request_url" (body.insert "id" (.str "")))

/-- Source: `scrub_flow_id_in_error_body`. -/
def scrubFlowIdInErrorBody (tenantId : String) (err : OryClientError) : Prog FlowSig OryClientError :=
  match err with
  | .ory status message =>
      match state.parseJson message with
      | none => return .ory status message
      | some body =>
          match flowDocument body with
          | none => return .ory status message
          | some rawId => do
              let scrubbed ← scrubFlowDocument state tenantId rawId body
              return .ory status (state.jsonText scrubbed)
  | err => return err

/-- Source: `map_submit_error`. -/
def mapSubmitError {α : Type} (tenantId : String) (err : OryClientError) : FlowService α := do
  let scrubbed ← Prog.attempt (scrubFlowIdInErrorBody state tenantId err)
  throw (mapSelfServiceOryError scrubbed)

/-- Source: `map_submit_response`. -/
def mapSubmitResponse (tenantId : String) (result : Except OryClientError KratosResponse) :
    FlowService FlowResponse :=
  match result with
  | .ok answer => flowResponse state tenantId answer
  | .error (.redirect location setCookies) => do
      let scrubbed ← scrubRedirect state tenantId location
      return ⟨.ofRedirect ⟨rewriteHydraUrl state scrubbed⟩, setCookies⟩
  | .error err => mapSubmitError state tenantId err

/-! ## Requests -/

/-- The headers and the tenant of a request. -/
structure SelfServiceContext where
  tenantId : String
  cookie : Option String
  csrfToken : Option String
deriving DecidableEq, Repr

/-- Source: `CreateLoginFlowRequest`. -/
structure CreateLoginFlowRequest where
  returnTo : String
  aal : String
  refresh : Bool
  organization : String
  via : String
  loginChallenge : String
  identitySchema : String
deriving DecidableEq, Repr

/-- Source: `CreateRegistrationFlowRequest`. -/
structure CreateRegistrationFlowRequest where
  returnTo : String
  loginChallenge : String
  identitySchema : String
deriving DecidableEq, Repr

/-- A parameter that is only sent with a value. -/
def queryParam (key value : String) : List (String × String) := if value = "" then [] else [(key, value)]

/-- The address to come back to, if there is one. -/
def returnToOf (returnTo : String) : Option String := if returnTo = "" then none else some returnTo

/-- Source: `resolve_login_challenge`. A challenge without a mapping is Hydra's own. -/
def resolveLoginChallenge (tenantId loginChallenge : String) : FlowService String := do
  match ← Prog.attempt (flowCall (.transient
      (.getOryToken tenantId .hydra "login_challenge" loginChallenge))) with
  | .ok ory => return ory
  | .error .mappingNotFound => return loginChallenge
  | .error err => throw (.ofDbError err)

/-- The schema parameter of a flow that is made. -/
def schemaParam (identitySchema : String) : List (String × String) :=
  if identitySchema = "" then [] else [("identity_schema", state.kratosDefaultSchemaId)]

/-- A flow is made with a query. -/
def createBrowserFlow (ctx : SelfServiceContext) (kind : FlowKind) (query : List (String × String)) :
    FlowService FlowResponse := do
  let answer ← Prog.orThrow mapSelfServiceOryError (flowCall (.kratos (.createFlow kind query ctx.cookie)))
  flowResponse state ctx.tenantId answer

/-- Source: `create_login_flow`. -/
def createLoginFlow (ctx : SelfServiceContext) (req : CreateLoginFlowRequest) : FlowService FlowResponse := do
  let query := queryParam "return_to" req.returnTo ++ queryParam "aal" req.aal ++
    (if req.refresh then [("refresh", "true")] else []) ++ queryParam "organization" req.organization ++
    queryParam "via" req.via
  if req.loginChallenge = "" then
    createBrowserFlow state ctx .login (query ++ schemaParam state req.identitySchema)
  else
    let oryChallenge ← resolveLoginChallenge ctx.tenantId req.loginChallenge
    match ← onGateway (acceptSkippableLogin ⟨state.hydraPublicUrl, state.gatewayPublicUrl⟩ ctx.tenantId
        oryChallenge ctx.cookie) with
    | some flow => return ⟨.ofRedirect flow, []⟩
    | none => createBrowserFlow state ctx .login (query ++ [("login_challenge", oryChallenge)] ++
        schemaParam state req.identitySchema)

/-- Source: `create_registration_flow`. -/
def createRegistrationFlow (ctx : SelfServiceContext) (req : CreateRegistrationFlowRequest) :
    FlowService FlowResponse := do
  if req.loginChallenge = "" then
    createBrowserFlow state ctx .registration (queryParam "return_to" req.returnTo ++
      schemaParam state req.identitySchema)
  else
    let oryChallenge ← resolveLoginChallenge ctx.tenantId req.loginChallenge
    createBrowserFlow state ctx .registration (queryParam "return_to" req.returnTo ++
      [("login_challenge", oryChallenge)] ++ schemaParam state req.identitySchema)

/-- Source: `create_settings_flow`, `create_recovery_flow`, `create_verification_flow`. -/
def createFlow (ctx : SelfServiceContext) (kind : FlowKind) (returnTo : String) : FlowService FlowResponse :=
  createBrowserFlow state ctx kind (queryParam "return_to" returnTo)

/-- Source: `get_login_flow`, `get_registration_flow`, `get_settings_flow`, `get_recovery_flow`,
`get_verification_flow`. -/
def getFlow (ctx : SelfServiceContext) (kind : FlowKind) (id : String) : FlowService FlowResponse := do
  let oryFlowId ← onGateway (resolveFlow ctx.tenantId id)
  let answer ← Prog.orThrow mapSelfServiceOryError (flowCall (.kratos (.getFlow kind oryFlowId ctx.cookie)))
  flowResponse state ctx.tenantId answer

/-- What is submitted: of settings, the profile is kept by the gateway. -/
def submittedBody (ctx : SelfServiceContext) (body : Value) : FlowKind → FlowService Value
  | .settings => onGateway (interceptSettingsProfile state.compile ctx.tenantId ctx.cookie body)
  | _ => return body

/-- What follows a submission: a registration enrolls its identity. -/
def afterSubmission (ctx : SelfServiceContext) (result : Except OryClientError KratosResponse) :
    FlowKind → FlowService Unit
  | .registration => onGateway (provisionIdentityFromRegistrationResult state.compile ctx.tenantId
      (result.map (·.body)))
  | _ => return ()

/-- Source: `submit_login_flow`, `submit_registration_flow`, `submit_settings_flow`, `submit_recovery_flow`,
`submit_verification_flow`. -/
def submitFlow (ctx : SelfServiceContext) (kind : FlowKind) (id : String) (body : Value) :
    FlowService FlowResponse := do
  let oryFlowId ← onGateway (resolveFlow ctx.tenantId id)
  let sent ← submittedBody state ctx body kind
  let result ← Prog.attempt (flowCall (.kratos (.submitFlow kind oryFlowId ctx.cookie sent)))
  afterSubmission state ctx result kind
  mapSubmitResponse state ctx.tenantId result

/-- The messages of the exchange of a token, which recovery and verification have. -/
def tokenWord : FlowKind → String
  | .recovery => "recovery"
  | _ => "verification"

/-- The type of the token. Source: `TOKEN_TYPE_RECOVERY_TOKEN`, `TOKEN_TYPE_VERIFICATION_TOKEN`. -/
def tokenTypeOf (kind : FlowKind) : String := tokenWord kind ++ "_token"

/-- The token that a name of the tenant stands for. -/
def ownToken (ctx : SelfServiceContext) (tokenType name : String) : FlowService String :=
  Prog.orThrow ServiceError.ofDbError
    (flowCall (.transient (.getOryToken ctx.tenantId .kratos tokenType name)))

/-- Where a redirect leads. -/
def redirectLocation (kind : FlowKind) (redirect : KratosRedirectResponse) : Except ServiceError String :=
  match redirect.location with
  | some location => .ok location
  | none => .error (.internal ("kratos " ++ tokenWord kind ++ " token response missing location"))

/-- Source: `submit_recovery_token`, `submit_verification_token`. -/
def submitToken (ctx : SelfServiceContext) (kind : FlowKind) (token flow : String) :
    FlowService (String × List String) := do
  if flow = "" then
    throw (.invalidArgument ("flow is required to exchange a " ++ tokenWord kind ++ " token"))
  else
    let oryToken ← ownToken ctx (tokenTypeOf kind) token
    let oryFlow ← ownToken ctx "flow" flow
    match ← Prog.attempt (flowCall (.kratos (.submitToken kind oryToken oryFlow ctx.cookie ctx.csrfToken))) with
    | .error err => mapSubmitError state ctx.tenantId err
    | .ok redirect => do
        let location ← ExceptT.mk (pure (redirectLocation kind redirect))
        let redirectTo ← scrubRedirect state ctx.tenantId location
        return (redirectTo, redirect.setCookies)

/-- Source: `LogoutFlow`. -/
structure LogoutFlow where
  id : String
  logoutUrl : String
  logoutToken : String
deriving DecidableEq, Repr

/-- Source: `ory_logout_flow_to_proto`. -/
def oryLogoutFlowToProto (v : Value) : LogoutFlow :=
  ⟨jsonStr v "id", jsonStr v "logout_url", jsonStr v "logout_token"⟩

/-- Source: `create_logout_flow`. -/
def createLogoutFlow (ctx : SelfServiceContext) (returnTo : String) :
    FlowService (LogoutFlow × List String) := do
  let answer ← Prog.orThrow mapSelfServiceOryError
    (flowCall (.kratos (.createLogoutFlow (returnToOf returnTo) ctx.cookie)))
  let flow := oryLogoutFlowToProto answer.body
  let logoutToken ← renamedBy (fun ory => publicToken (logoutKeyOf ctx.tenantId ory)) flow.logoutToken
  return (⟨flow.id, rewriteGatewayFacingUrl state flow.logoutUrl, logoutToken⟩, answer.setCookies)

/-- Source: `submit_logout_flow`. -/
def submitLogoutFlow (ctx : SelfServiceContext) (token returnTo : String) : FlowService Unit := do
  let oryToken ← ownToken ctx "logout_token" token
  Prog.orThrow mapSelfServiceOryError
    (flowCall (.kratos (.submitLogoutFlow oryToken (returnToOf returnTo) ctx.cookie)))

/-- Source: `get_flow_error`. -/
def getFlowError (ctx : SelfServiceContext) (id : String) : FlowService String := do
  let oryErrorId ← ownToken ctx "flow" id
  let error ← Prog.orThrow mapSelfServiceOryError (flowCall (.kratos (.getFlowError oryErrorId)))
  publicFlow ctx.tenantId (jsonStr error "id")

/-- The `Location` of an upstream answer that the browser proxy relays. Source: `proxy_request`. -/
def relayLocation (location : String) : FlowService String :=
  scrubFlowIdInUrl state.urls state.systemTenantId (rewriteGatewayFacingUrl state location) false

/-! ## Requests among others -/

/-- A request, or any other program over the same tables. -/
inductive FlowRequest where
  | createLoginFlow (ctx : SelfServiceContext) (req : CreateLoginFlowRequest)
  | createRegistrationFlow (ctx : SelfServiceContext) (req : CreateRegistrationFlowRequest)
  | createFlow (ctx : SelfServiceContext) (kind : FlowKind) (returnTo : String)
  | getFlow (ctx : SelfServiceContext) (kind : FlowKind) (id : String)
  | submitFlow (ctx : SelfServiceContext) (kind : FlowKind) (id : String) (body : Value)
  | submitToken (ctx : SelfServiceContext) (kind : FlowKind) (token flow : String)
  | createLogoutFlow (ctx : SelfServiceContext) (returnTo : String)
  | submitLogoutFlow (ctx : SelfServiceContext) (token returnTo : String)
  | getFlowError (ctx : SelfServiceContext) (id : String)
  | relayLocation (location : String)
  | other (p : Prog FlowSig Unit)

/-- What a request is answered with. -/
inductive FlowReply where
  | flow (response : FlowResponse)
  | redirect (location : String) (setCookies : List String)
  | logout (flow : LogoutFlow) (setCookies : List String)
  | done
  | error (id : String)
deriving DecidableEq, Repr

/-- The program that answers a request; of another program there is no answer. -/
def FlowRequest.prog : FlowRequest → Prog FlowSig (Option (Except ServiceError FlowReply))
  | .createLoginFlow ctx req => some <$> (FlowReply.flow <$> SsoGateway.createLoginFlow state ctx req).run
  | .createRegistrationFlow ctx req =>
      some <$> (FlowReply.flow <$> SsoGateway.createRegistrationFlow state ctx req).run
  | .createFlow ctx kind returnTo =>
      some <$> (FlowReply.flow <$> SsoGateway.createFlow state ctx kind returnTo).run
  | .getFlow ctx kind id => some <$> (FlowReply.flow <$> SsoGateway.getFlow state ctx kind id).run
  | .submitFlow ctx kind id body =>
      some <$> (FlowReply.flow <$> SsoGateway.submitFlow state ctx kind id body).run
  | .submitToken ctx kind token flow =>
      some <$> ((fun r => FlowReply.redirect r.1 r.2) <$> SsoGateway.submitToken state ctx kind token flow).run
  | .createLogoutFlow ctx returnTo =>
      some <$> ((fun r => FlowReply.logout r.1 r.2) <$> SsoGateway.createLogoutFlow state ctx returnTo).run
  | .submitLogoutFlow ctx token returnTo =>
      some <$> ((fun _ => FlowReply.done) <$> SsoGateway.submitLogoutFlow ctx token returnTo).run
  | .getFlowError ctx id => some <$> (FlowReply.error <$> SsoGateway.getFlowError ctx id).run
  | .relayLocation location =>
      some <$> ((fun url => FlowReply.redirect url []) <$> SsoGateway.relayLocation state location).run
  | .other p => (fun _ => none) <$> p

/-- A call, made by one of the requests. -/
def flowsFor (κ : Type) (env : Env) : Handler FlowSig (κ × FlowChoice) FlowWorld :=
  fun op ic w => flows env op ic.2 w

/-- One call of a run. -/
abbrev FlowEvent (κ : Type) := Event FlowSig (κ × FlowChoice) FlowWorld

/-- The calls of a run. -/
abbrev FlowTrace (κ : Type) := List (FlowEvent κ)

/-- Requests that arrive at a world. -/
def flowRequests {κ : Type} (requests : κ → FlowRequest) (w : FlowWorld) :
    Pool FlowSig κ (Option (Except ServiceError FlowReply)) FlowWorld where
  world := w
  threads k := (requests k).prog state

end service

end SsoGateway
