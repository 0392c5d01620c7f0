import SsoGateway.Consent
import SsoGateway.TransientTokens
import SsoGateway.PublicOauth2
import SsoGateway.Steps
import SsoGateway.Lib.Straight
import SsoGateway.Lib.Translate
import SsoGateway.Lib.UrlText

/-!
# Device verification

A user accepts a device in the verification app. The service accepts the request at Hydra, and then gives
the client of Hydra's answer its public name, for the browser to follow; the handler of
`GET /oauth2/device/verify` turns the name back.

* `acceptDeviceVerification`, `deviceVerify` — the two ends.
* `DeviceRoundTrip` — Hydra gets back what it sent, and nothing is accepted where an error is reported.
* `Recoverable` — what has to go well once Hydra has accepted.
* `deviceRoundTrip_iff` — that is all it takes, and nothing less will do.

The name is looked up in the tenant of the caller, and turned back across all tenants. Source:
`services/oauth2_device.rs`, `services/handlers/oauth2.rs`.
-/

namespace SsoGateway

open Lib

/-! ## The calls -/

/-- The gateway's world, and the challenges of the device requests Hydra has accepted, newest first. -/
structure DeviceWorld where
  base : World
  accepted : List String

/-- The calls of the two programs. -/
inductive DeviceOp where
  | gateway (op : GatewayOp)
  /-- `HydraClient::accept_device_verification`. -/
  | acceptDeviceVerification (challenge userCode : String)
  /-- `HydraClient::get_device_verify`. -/
  | getDeviceVerify (query : Params) (cookie : Option String)

/-- The answers. -/
@[reducible] def DeviceOp.Res : DeviceOp → Type
  | .gateway op => op.Res
  | .acceptDeviceVerification _ _ => Except OryClientError Value
  | .getDeviceVerify _ _ => Except OryClientError Value

/-- The signature of the two programs. -/
@[reducible] def DeviceSig : Sig := ⟨DeviceOp, DeviceOp.Res⟩

/-- What every call does. A request Hydra refuses is a fault without effect, and one whose answer is lost
is a fault with it. -/
def deviceGateway (env : Env) : Handler DeviceSig Choice DeviceWorld
  | .gateway op, c, w =>
      let r := gateway env op c w.base
      (r.1, { w with base := r.2 })
  | .acceptDeviceVerification challenge _, c, w =>
      oryAnswer w c (.ok c.doc, { w with accepted := challenge :: w.accepted })
  | .getDeviceVerify _ _, c, w => oryAnswer w c (.ok c.doc, w)

/-- One call. -/
abbrev deviceCall (op : DeviceOp) : Prog DeviceSig op.Res := Prog.perform (S := DeviceSig) op

/-- A step of the service. -/
abbrev DeviceService (α : Type) := ExceptT ServiceError (Prog DeviceSig) α

/-! ## Accepting a device -/

/-- Source: `require_device_admin`. -/
def requireDeviceAdmin (ctx : RequestContext) : Except ServiceError Unit :=
  if (requireScope ctx scopeTenantAdmin).isOk ∨ (requireScope ctx scopeApplicationAdmin).isOk then .ok ()
  else .error (.permissionDenied "missing required scope: tenant:admin or application:admin")

/-- Source: `TOKEN_TYPE_DEVICE_CHALLENGE`. -/
def tokenTypeDeviceChallenge : String := "device_challenge"

/-- Source: `map_ory_error` of `services/oauth2_device.rs`. -/
def mapDeviceOryError : OryClientError → ServiceError :=
  mapUpstreamError "upstream identity service unreachable"

/-- Source: `AcceptDeviceVerificationRequest`. -/
structure AcceptDeviceVerificationRequest where
  challenge : String
  userCode : String
deriving DecidableEq, Repr

/-- Source: `resolve_device_challenge`. A challenge without a mapping is Hydra's own. -/
def resolveDeviceChallenge (tenantId challenge : String) : DeviceService String := do
  match ← Prog.attempt (deviceCall (.gateway
    (.getOryToken tenantId .hydra tokenTypeDeviceChallenge challenge))) with
  | .ok ory => return ory
  | .error .mappingNotFound => return challenge
  | .error err => throw (mapDbError err)

/-- A pair, with the public name where it names the client. -/
def renameClient (publicId : String) (pair : String × String) : String × String :=
  if pair.1 = "client_id" then (pair.1, publicId) else pair

/-- Source: `public_redirect_to`. -/
def publicRedirectTo (urls : UrlLibrary) (tenantId redirectTo : String) : DeviceService String :=
  match urls.parse redirectTo with
  | none => throw (.internal "invalid redirect_to from upstream")
  | some url =>
      match (urls.queryPairs url).lookup "client_id" with
      | none => return redirectTo
      | some oryClientId => do
          let publicId ← Prog.orThrow mapDbError (deviceCall (.gateway
            (.mapping (.getPublicId tenantId .hydra oryClientId))))
          return urls.text (urls.replacePairs url ((urls.queryPairs url).map (renameClient publicId)))

/-- Source: `accept_device_verification`. -/
def acceptDeviceVerification (urls : UrlLibrary) (ctx : RequestContext)
    (req : AcceptDeviceVerificationRequest) : DeviceService String := do
  ExceptT.mk (pure (requireDeviceAdmin ctx))
  let tenantId ← ExceptT.mk (pure (requireTenant ctx))
  let oryChallenge ← resolveDeviceChallenge tenantId req.challenge
  let value ← Prog.orThrow mapDeviceOryError
    (deviceCall (.acceptDeviceVerification oryChallenge req.userCode))
  publicRedirectTo urls tenantId (jsonStr value "redirect_to")

/-! ## The verification request -/

/-- A map of pairs; the last of a key stays. -/
def collect (pairs : List (String × String)) : Params := fun k => pairs.reverse.lookup k

/-- The query sent to Hydra: the client, if there is one, by its id there. -/
def verifyQuery (st : Oauth2State) (params : Params) : Handled Params :=
  match params "client_id" with
  | none => return params
  | some clientId => do
      let oryId ← resolvePublicClient st clientId
      return Function.update params "client_id" (some oryId)

/-- What a verification request answers; a redirect is passed on. -/
def verifyResponse (lib : Libraries) : Except OryClientError Value → Response
  | .ok value => jsonResponse value
  | .error (.redirect location setCookies) => redirectResponse location setCookies
  | .error err => oryErrorResponse lib err

/-- Source: `device_verify`. -/
def deviceVerify (lib : Libraries) (st : Oauth2State) (cookies : List String) (params : Params) :
    Prog DeviceSig Response := do
  match ← (verifyQuery st params).run.translate (S := Gateway) fun op => deviceCall (.gateway op) with
  | .error response => return response
  | .ok query => return verifyResponse lib (← deviceCall (.getDeviceVerify query (joinCookies cookies)))

/-- The query of a call to Hydra's verification endpoint. -/
def DeviceOp.verified : DeviceOp → Option Params
  | .getDeviceVerify query _ => some query
  | _ => none

/-- What a run forwards to Hydra's verification endpoint. -/
def forwarded (events : List (Event DeviceSig Choice DeviceWorld)) : List Params :=
  events.filterMap fun ev => ev.op.verified

/-! ## The round trip -/

/-- A device verification, with the choices of its two ends. -/
structure DeviceFlow where
  ctx : RequestContext
  req : AcceptDeviceVerificationRequest
  /-- The choices of the acceptance. -/
  accepting : ℕ → Choice
  /-- The choices of the verification request. -/
  verifying : ℕ → Choice
  cookies : List String

namespace DeviceFlow

/-- The acceptance. -/
def acceptance (flow : DeviceFlow) (urls : UrlLibrary) (env : Env) (w : DeviceWorld) :
    Except ServiceError String × DeviceWorld :=
  (acceptDeviceVerification urls flow.ctx flow.req).run.run (deviceGateway env) flow.accepting w

/-- Hydra's own `redirect_to`, where it answers. -/
def redirectTo (flow : DeviceFlow) : String := jsonStr (flow.accepting 1).doc "redirect_to"

/-- What a verification request with the query of a text forwards. -/
def forwards (flow : DeviceFlow) (lib : Libraries) (st : Oauth2State) (env : Env) (w : DeviceWorld)
    (r : String) : List Params :=
  forwarded ((deviceVerify lib st flow.cookies (collect (textPairs r))).events (deviceGateway env)
    flow.verifying w)

end DeviceFlow

/-- **Device verification round-trips and fails cleanly.** -/
structure DeviceRoundTrip (urls : UrlLibrary) (lib : Libraries) (st : Oauth2State) (env : Env)
    (w : DeviceWorld) (flow : DeviceFlow) : Prop where
  /-- The query of the answer is forwarded as the query of Hydra's. -/
  trip : ∀ r, (flow.acceptance urls env w).1 = .ok r →
    flow.forwards lib st env (flow.acceptance urls env w).2 r = [collect (textPairs flow.redirectTo)]
  /-- After an error Hydra has accepted nothing. -/
  clean : ∀ e, (flow.acceptance urls env w).1 = .error e →
    (flow.acceptance urls env w).2.accepted = w.accepted

/-- The caller gets as far as Hydra, and Hydra accepts, whether it can say so or not. -/
structure DeviceFlow.HydraAccepts (flow : DeviceFlow) : Prop where
  admin : requireDeviceAdmin flow.ctx = .ok ()
  tenant : flow.ctx.tenant.isSome
  lookup : (flow.accepting 0).fault 0 = none
  applied : ∀ f ∈ (flow.accepting 1).fault 0, f.applied = true

/-- Hydra's answer arrives and is a URL, and a client it names has a name in the tenant of the caller, which
is found on both sides. -/
structure Recoverable (urls : UrlLibrary) (w : DeviceWorld) (flow : DeviceFlow) : Prop where
  answered : (flow.accepting 1).fault 0 = none
  named : ∃ url, urls.parse flow.redirectTo = some url ∧
    ∀ oryId, (urls.queryPairs url).lookup "client_id" = some oryId →
      (flow.accepting 2).fault 0 = none ∧ (flow.verifying 0).fault 0 = none ∧
        ∃ m ∈ w.base.db.idMappings, some m.tenantId = flow.ctx.tenant ∧ m.backend = .hydra ∧
          m.oryGlobalId = oryId ∧ m.publicId ≠ ""

/-! ## Pairs and maps -/

theorem lookup_eq_some_of_nodup {pairs : List (String × String)} (hkeys : (pairs.map (·.1)).Nodup)
    {k v : String} : pairs.lookup k = some v ↔ (k, v) ∈ pairs := by
  induction pairs with
  | nil => simp
  | cons pair pairs ih =>
      obtain ⟨hhead, htail⟩ := List.nodup_cons.mp hkeys
      rw [List.lookup_cons, List.mem_cons]
      by_cases hk : k = pair.1
      · have hnot : (k, v) ∉ pairs := fun h => hhead (List.mem_map.mpr ⟨_, h, hk⟩)
        simp [hk, hnot, Prod.ext_iff, eq_comm]
        intro h
        exact absurd (hk ▸ h) hnot
      · have hne : (k == pair.1) = false := by simpa using hk
        simp [hne, hk, ih htail, Prod.ext_iff]

/-- Pairs with distinct keys are a map. -/
theorem collect_of_nodup {pairs : List (String × String)} (hkeys : (pairs.map (·.1)).Nodup) (k : String) :
    collect pairs k = pairs.lookup k := by
  have hback : (pairs.reverse.map (·.1)).Nodup := by
    rw [List.map_reverse, List.nodup_reverse]
    exact hkeys
  apply Option.ext
  intro v
  rw [collect, lookup_eq_some_of_nodup hback, lookup_eq_some_of_nodup hkeys, List.mem_reverse]

/-- Renaming the client changes its value only. -/
theorem lookup_renameClient (publicId k : String) (pairs : List (String × String)) :
    (pairs.map (renameClient publicId)).lookup k =
      (pairs.lookup k).map fun v => if k = "client_id" then publicId else v := by
  induction pairs with
  | nil => rfl
  | cons pair pairs ih =>
      have hkey : (renameClient publicId pair).1 = pair.1 := by
        unfold renameClient
        split <;> rfl
      rw [List.map_cons, List.lookup_cons, List.lookup_cons, hkey]
      by_cases hk : k = pair.1
      · subst hk
        simp only [BEq.rfl, Option.map_some, renameClient]
        split <;> rfl
      · have hne : (k == pair.1) = false := by simpa using hk
        simp only [hne]
        exact ih

theorem collect_renameClient (publicId : String) (pairs : List (String × String)) (k : String) :
    collect (pairs.map (renameClient publicId)) k =
      (collect pairs k).map fun v => if k = "client_id" then publicId else v := by
  rw [collect, ← List.map_reverse, lookup_renameClient, collect]

/-- The name is turned back. -/
theorem update_renameClient {publicId oryId : String} {pairs : List (String × String)}
    (hid : collect pairs "client_id" = some oryId) :
    Function.update (collect (pairs.map (renameClient publicId))) "client_id" (some oryId) =
      collect pairs := by
  funext k
  by_cases hk : k = "client_id"
  · subst hk
    simp [hid]
  · rw [Function.update_of_ne hk, collect_renameClient]
    simp [hk]

/-! ## Runs of the acceptance -/

section runs

variable {urls : UrlLibrary} {lib : Libraries} {st : Oauth2State} {env : Env} {w : DeviceWorld}
  {tenantId : String} {o : ℕ → Choice}

/-- A challenge is resolved where the lookup does not fail. -/
theorem run_resolveDeviceChallenge (env : Env) (w : DeviceWorld) (tenantId challenge : String)
    (h : (o 0).fault 0 = none) :
    ∃ oryChallenge, ∀ g : String → DeviceService String,
      (resolveDeviceChallenge tenantId challenge >>= g).run.run (deviceGateway env) o w =
        (g oryChallenge).run.run (deviceGateway env) (fun n => o (n + 1)) w := by
  have hanswer : ∃ row : Option TransientTokenRow, deviceGateway env (.gateway
      (.getOryToken tenantId .hydra tokenTypeDeviceChallenge challenge)) (o 0) w =
      (orNotFound .mappingNotFound (·.oryToken) row, w) := by
    refine ⟨w.base.transientTokens.find? fun x => x.tenantId = tenantId ∧ x.backend = .hydra ∧
      x.tokenType = tokenTypeDeviceChallenge ∧ x.publicToken = challenge ∧ (o 0).now < x.expiresAt, ?_⟩
    simp only [deviceGateway, gateway, h, Fault.answer_none]
  obtain ⟨row, hanswer⟩ := hanswer
  rcases row with _ | row
  · refine ⟨challenge, fun g => ?_⟩
    rw [resolveDeviceChallenge, bind_assoc, deviceCall, run_attempt_bind, hanswer]
    rfl
  · refine ⟨row.oryToken, fun g => ?_⟩
    rw [resolveDeviceChallenge, bind_assoc, deviceCall, run_attempt_bind, hanswer]
    rfl

/-- A lookup that fails ends the acceptance. -/
theorem run_resolveDeviceChallenge_error (env : Env) (w : DeviceWorld) (tenantId challenge : String)
    (h : (o 0).fault 0 ≠ none) :
    ∃ e, ∀ g : String → DeviceService String,
      (resolveDeviceChallenge tenantId challenge >>= g).run.run (deviceGateway env) o w = (.error e, w) := by
  obtain ⟨f, hf⟩ := Option.ne_none_iff_exists'.mp h
  have hanswer : deviceGateway env (.gateway
      (.getOryToken tenantId .hydra tokenTypeDeviceChallenge challenge)) (o 0) w =
      (.error (Fault.sqlx f.error), w) := by
    simp [deviceGateway, gateway, hf, Fault.answer]
  refine ⟨mapDbError (Fault.sqlx f.error), fun g => ?_⟩
  rw [resolveDeviceChallenge, bind_assoc, deviceCall, run_attempt_bind, hanswer]
  rfl

variable {flow : DeviceFlow}

/-- The acceptance, once the caller is known. -/
theorem acceptance_eq (hadmin : requireDeviceAdmin flow.ctx = .ok ()) (htenant : flow.ctx.tenant = some tenantId) :
    flow.acceptance urls env w =
      (resolveDeviceChallenge tenantId flow.req.challenge >>= fun oryChallenge =>
        (Prog.orThrow mapDeviceOryError (deviceCall (.acceptDeviceVerification oryChallenge flow.req.userCode))) >>=
          fun value => publicRedirectTo urls tenantId (jsonStr value "redirect_to")).run.run
        (deviceGateway env) flow.accepting w := by
  rw [DeviceFlow.acceptance, acceptDeviceVerification, requireTenant, hadmin, htenant]
  rfl

/-- Where Hydra does not accept, the caller is told so and nothing has changed. -/
theorem acceptance_of_not (urls : UrlLibrary) (env : Env) (w : DeviceWorld) (hflow : ¬ flow.HydraAccepts) :
    ∃ e, flow.acceptance urls env w = (.error e, w) := by
  rcases hadmin : requireDeviceAdmin flow.ctx with e | u
  · refine ⟨e, ?_⟩
    rw [DeviceFlow.acceptance, acceptDeviceVerification, hadmin]
    rfl
  rcases htenant : flow.ctx.tenant with _ | tenantId
  · refine ⟨.unauthenticated "missing tenant", ?_⟩
    rw [DeviceFlow.acceptance, acceptDeviceVerification, requireTenant, hadmin, htenant]
    rfl
  rw [acceptance_eq hadmin htenant]
  by_cases hlookup : (flow.accepting 0).fault 0 = none
  · obtain ⟨oryChallenge, hrun⟩ := run_resolveDeviceChallenge env w tenantId flow.req.challenge hlookup
    have happlied : ¬ ∀ f ∈ (flow.accepting 1).fault 0, f.applied = true := by
      intro h
      exact hflow ⟨hadmin, by simp [htenant], hlookup, h⟩
    push Not at happlied
    obtain ⟨f, hf, happlied⟩ := happlied
    refine ⟨mapDeviceOryError f.error, ?_⟩
    rw [hrun]
    have hcall := Prog.run_orThrow_bind (h := deviceGateway env) (f := mapDeviceOryError)
      (.acceptDeviceVerification oryChallenge flow.req.userCode) id
      (fun value => publicRedirectTo urls tenantId (jsonStr value "redirect_to"))
      (fun n => flow.accepting (n + 1)) w
    refine hcall.trans ?_
    have hanswer : deviceGateway env (.acceptDeviceVerification oryChallenge flow.req.userCode)
        (flow.accepting 1) w = (.error f.error, w) := by
      simp [deviceGateway, oryAnswer, Option.mem_def.mp hf, Fault.answer, happlied]
    rw [hanswer]
    rfl
  · obtain ⟨e, hrun⟩ := run_resolveDeviceChallenge_error env w tenantId flow.req.challenge hlookup
    exact ⟨e, hrun _⟩

/-- Where Hydra accepts, the renaming comes after. -/
theorem acceptance_of_accepts (urls : UrlLibrary) (env : Env) (w : DeviceWorld)
    (hflow : flow.HydraAccepts) (htenant : flow.ctx.tenant = some tenantId) :
    ∃ oryChallenge,
      ((flow.accepting 1).fault 0 = none → flow.acceptance urls env w =
        (publicRedirectTo urls tenantId flow.redirectTo).run.run (deviceGateway env)
          (fun n => flow.accepting (n + 2)) { w with accepted := oryChallenge :: w.accepted }) ∧
      ((flow.accepting 1).fault 0 ≠ none → ∃ e, flow.acceptance urls env w =
        (.error e, { w with accepted := oryChallenge :: w.accepted })) := by
  obtain ⟨oryChallenge, hrun⟩ := run_resolveDeviceChallenge env w tenantId flow.req.challenge hflow.lookup
  have hcall := Prog.run_orThrow_bind (h := deviceGateway env) (f := mapDeviceOryError)
    (.acceptDeviceVerification oryChallenge flow.req.userCode) id
    (fun value => publicRedirectTo urls tenantId (jsonStr value "redirect_to"))
    (fun n => flow.accepting (n + 1)) w
  refine ⟨oryChallenge, fun hanswered => ?_, fun hlost => ?_⟩
  · have hanswer : deviceGateway env (.acceptDeviceVerification oryChallenge flow.req.userCode)
        (flow.accepting 1) w =
        (.ok (flow.accepting 1).doc, { w with accepted := oryChallenge :: w.accepted }) := by
      simp [deviceGateway, oryAnswer, hanswered]
    rw [acceptance_eq hflow.admin htenant, hrun]
    refine hcall.trans ?_
    rw [hanswer]
    rfl
  · obtain ⟨f, hf⟩ := Option.ne_none_iff_exists'.mp hlost
    have hanswer : deviceGateway env (.acceptDeviceVerification oryChallenge flow.req.userCode)
        (flow.accepting 1) w = (.error f.error, { w with accepted := oryChallenge :: w.accepted }) := by
      simp [deviceGateway, oryAnswer, hf, Fault.answer, hflow.applied f hf]
    refine ⟨mapDeviceOryError f.error, ?_⟩
    rw [acceptance_eq hflow.admin htenant, hrun]
    refine hcall.trans ?_
    rw [hanswer]
    rfl

/-! ## Runs of the renaming -/

/-- A row is found by its public id. -/
theorem findByPublicId_of_mem {db : Db} {m : IdMappingRow} (hm : m ∈ db.idMappings) :
    db.findByPublicId m.backend m.publicId = some m := by
  rcases hfind : db.findByPublicId m.backend m.publicId with _ | m'
  · have hnot := List.find?_eq_none.mp hfind m hm
    simp at hnot
  · have hspec := List.find?_some hfind
    simp only [decide_eq_true_eq] at hspec
    rw [db.mapping_unique (List.mem_of_find?_eq_some hfind) hm (.inl hspec.2)]

/-- A row is found in its tenant by its id at the backend. -/
theorem findMapping_of_mem {db : Db} {m : IdMappingRow} (hm : m ∈ db.idMappings) :
    db.findMapping m.tenantId m.backend m.oryGlobalId = some m := by
  rcases hfind : db.findMapping m.tenantId m.backend m.oryGlobalId with _ | m'
  · have hnot := List.find?_eq_none.mp hfind m hm
    simp at hnot
  · have hspec := List.find?_some hfind
    simp only [decide_eq_true_eq] at hspec
    rw [db.mapping_unique (List.mem_of_find?_eq_some hfind) hm (.inr hspec)]

variable {r : String} {url : urls.Parsed} {oryId publicId : String} {m : IdMappingRow}

/-- A text that is no URL. -/
theorem run_publicRedirectTo_invalid (hparse : urls.parse r = none) :
    (publicRedirectTo urls tenantId r).run.run (deviceGateway env) o w =
      (.error (.internal "invalid redirect_to from upstream"), w) := by
  rw [publicRedirectTo, hparse]
  rfl

/-- Without a client the text stays. -/
theorem run_publicRedirectTo_plain (hparse : urls.parse r = some url)
    (hclient : (urls.queryPairs url).lookup "client_id" = none) :
    (publicRedirectTo urls tenantId r).run.run (deviceGateway env) o w = (.ok r, w) := by
  simp only [publicRedirectTo, hparse, hclient]
  rfl

/-- A client is given its name in the tenant. -/
theorem run_publicRedirectTo_named (hparse : urls.parse r = some url)
    (hclient : (urls.queryPairs url).lookup "client_id" = some oryId) (hfault : (o 0).fault 0 = none)
    (hm : w.base.db.findMapping tenantId .hydra oryId = some m) :
    (publicRedirectTo urls tenantId r).run.run (deviceGateway env) o w =
      (.ok (urls.text (urls.replacePairs url ((urls.queryPairs url).map (renameClient m.publicId)))), w) := by
  have hanswer : deviceGateway env (.gateway (.mapping (.getPublicId tenantId .hydra oryId))) (o 0) w =
      (.ok m.publicId, w) := by
    simp [deviceGateway, gateway, mappingHandler, Db.read, hfault, hm, orNotFound]
  have hcall := Prog.run_orThrow_bind (h := deviceGateway env) (f := mapDbError)
    (.gateway (.mapping (.getPublicId tenantId .hydra oryId))) id
    (fun publicId => (pure (urls.text (urls.replacePairs url ((urls.queryPairs url).map
      (renameClient publicId)))) : DeviceService String)) o w
  simp only [publicRedirectTo, hparse, hclient]
  refine hcall.trans ?_
  rw [hanswer]
  rfl

/-- A client without a name there ends the renaming, as a lookup that fails does. -/
theorem run_publicRedirectTo_unnamed (env : Env) (w : DeviceWorld) (o : ℕ → Choice) (hparse : urls.parse r = some url)
    (hclient : (urls.queryPairs url).lookup "client_id" = some oryId)
    (hno : (o 0).fault 0 = none → w.base.db.findMapping tenantId .hydra oryId = none) :
    ∃ e, (publicRedirectTo urls tenantId r).run.run (deviceGateway env) o w = (.error e, w) := by
  have hanswer : ∃ e, deviceGateway env (.gateway (.mapping (.getPublicId tenantId .hydra oryId))) (o 0) w =
      (.error e, w) := by
    rcases hfault : (o 0).fault 0 with _ | f
    · exact ⟨.mappingNotFound, by
        simp [deviceGateway, gateway, mappingHandler, Db.read, hfault, hno hfault, orNotFound]⟩
    · exact ⟨Fault.sqlx f.error, by
        simp [deviceGateway, gateway, mappingHandler, Db.read, hfault, Fault.answer]⟩
  obtain ⟨e, hanswer⟩ := hanswer
  have hcall := Prog.run_orThrow_bind (h := deviceGateway env) (f := mapDbError)
    (.gateway (.mapping (.getPublicId tenantId .hydra oryId))) id
    (fun publicId => (pure (urls.text (urls.replacePairs url ((urls.queryPairs url).map
      (renameClient publicId)))) : DeviceService String)) o w
  refine ⟨mapDbError e, ?_⟩
  simp only [publicRedirectTo, hparse, hclient]
  refine hcall.trans ?_
  rw [hanswer]
  rfl

/-! ## Calls of the verification request -/

variable {params : Params} {cookies : List String}

/-- A request that names no client is forwarded as it is. -/
theorem forwarded_of_no_client (hclient : params "client_id" = none) :
    forwarded ((deviceVerify lib st cookies params).events (deviceGateway env) o w) = [params] := by
  rw [deviceVerify, verifyQuery, hclient]
  rfl

/-- A request that names a client is forwarded with the client's id. -/
theorem forwarded_of_client (hclient : params "client_id" = some publicId) (hne : publicId ≠ "")
    (hfault : (o 0).fault 0 = none) (hm : w.base.db.findByPublicId .hydra publicId = some m) :
    forwarded ((deviceVerify lib st cookies params).events (deviceGateway env) o w) =
      [Function.update params "client_id" (some m.oryGlobalId)] := by
  have hanswer : deviceGateway env (.gateway (.mapping (.getOryIdByPublicId .hydra publicId))) (o 0) w =
      (.ok m.oryGlobalId, w) := by
    simp [deviceGateway, gateway, mappingHandler, Db.read, hfault, hm, orNotFound]
  rw [deviceVerify, verifyQuery, hclient]
  simp only [resolvePublicClient, if_neg hne]
  show forwarded (_ :: _) = _
  rw [hanswer]
  rfl

/-- A request with an empty client, or whose lookup fails, is not forwarded. -/
theorem forwarded_of_stopped (hclient : params "client_id" = some publicId)
    (hstop : publicId = "" ∨ (o 0).fault 0 ≠ none) :
    forwarded ((deviceVerify lib st cookies params).events (deviceGateway env) o w) = [] := by
  rw [deviceVerify, verifyQuery, hclient]
  by_cases hne : publicId = ""
  · simp only [resolvePublicClient, if_pos hne]
    rfl
  · obtain ⟨f, hf⟩ := Option.ne_none_iff_exists'.mp (hstop.resolve_left hne)
    have hanswer : deviceGateway env (.gateway (.mapping (.getOryIdByPublicId .hydra publicId))) (o 0) w =
        (.error (Fault.sqlx f.error), w) := by
      simp [deviceGateway, gateway, mappingHandler, Db.read, hf, Fault.answer]
    simp only [resolvePublicClient, if_neg hne]
    show forwarded (_ :: _) = _
    rw [hanswer]
    rfl

/-! ## There and back -/

/-- An error after Hydra has accepted. -/
theorem not_deviceRoundTrip_of_error {e : ServiceError} {oryChallenge : String}
    (h : flow.acceptance urls env w = (.error e, { w with accepted := oryChallenge :: w.accepted })) :
    ¬ DeviceRoundTrip urls lib st env w flow := by
  intro htrip
  have hclean := htrip.clean e (by rw [h])
  rw [h] at hclean
  simp at hclean

/-- The answer without a client has the pairs of Hydra's, and they are forwarded. -/
theorem forwards_plain (hclient : (textPairs flow.redirectTo).lookup "client_id" = none)
    (hkeys : ((textPairs flow.redirectTo).map (·.1)).Nodup) :
    flow.forwards lib st env w flow.redirectTo = [collect (textPairs flow.redirectTo)] := by
  apply forwarded_of_no_client
  rw [collect_of_nodup hkeys]
  exact hclient

/-- The answer with the client's name. -/
def DeviceFlow.renamed (flow : DeviceFlow) (urls : UrlLibrary) (url : urls.Parsed) (publicId : String) : String :=
  urls.text (urls.replacePairs url ((textPairs flow.redirectTo).map (renameClient publicId)))

/-- The name is what a verification request names the client by. -/
theorem collect_renamed (publicId : String) (hparse : urls.parse flow.redirectTo = some url)
    (hclient : (textPairs flow.redirectTo).lookup "client_id" = some oryId)
    (hkeys : ((textPairs flow.redirectTo).map (·.1)).Nodup) :
    collect (textPairs (flow.renamed urls url publicId)) =
        collect ((textPairs flow.redirectTo).map (renameClient publicId)) ∧
      collect (textPairs (flow.renamed urls url publicId)) "client_id" = some publicId := by
  have hpairs : textPairs (flow.renamed urls url publicId) =
      (textPairs flow.redirectTo).map (renameClient publicId) :=
    urls.pairs_of_text _ url _ hparse
  refine ⟨congrArg collect hpairs, ?_⟩
  rw [hpairs, collect_renameClient, collect_of_nodup hkeys, hclient]
  simp

/-- The answer with the name the client has in its row is forwarded with the pairs of Hydra's. -/
theorem forwards_named (hparse : urls.parse flow.redirectTo = some url)
    (hclient : (textPairs flow.redirectTo).lookup "client_id" = some m.oryGlobalId)
    (hkeys : ((textPairs flow.redirectTo).map (·.1)).Nodup) (hfault : (flow.verifying 0).fault 0 = none)
    (hm : m ∈ w.base.db.idMappings) (hbackend : m.backend = .hydra) (hne : m.publicId ≠ "") :
    flow.forwards lib st env w (flow.renamed urls url m.publicId) =
      [collect (textPairs flow.redirectTo)] := by
  obtain ⟨hpairs, hname⟩ := collect_renamed m.publicId hparse hclient hkeys
  have hfind := findByPublicId_of_mem hm
  rw [hbackend] at hfind
  refine (forwarded_of_client hname hne hfault hfind).trans ?_
  rw [hpairs, update_renameClient]
  rw [collect_of_nodup hkeys]
  exact hclient

end runs

/-- **Device verification round-trips and fails cleanly just if**, once Hydra has accepted, its answer arrives
and is a URL, and a client it names has a name in the tenant of the caller. -/
theorem deviceRoundTrip_iff (urls : UrlLibrary) (lib : Libraries) (st : Oauth2State) (env : Env)
    (w : DeviceWorld) (flow : DeviceFlow) (hkeys : ((textPairs flow.redirectTo).map (·.1)).Nodup) :
    DeviceRoundTrip urls lib st env w flow ↔ (flow.HydraAccepts → Recoverable urls w flow) := by
  by_cases hflow : flow.HydraAccepts
  swap
  · obtain ⟨e, he⟩ := acceptance_of_not urls env w hflow
    refine iff_of_true ⟨fun r hr => ?_, fun _ _ => by rw [he]⟩ fun h => absurd h hflow
    rw [he] at hr
    simp at hr
  obtain ⟨tenantId, htenant⟩ := Option.isSome_iff_exists.mp hflow.tenant
  obtain ⟨oryChallenge, hok, hlost⟩ := acceptance_of_accepts urls env w hflow htenant
  constructor
  · intro htrip _
    have hanswered : (flow.accepting 1).fault 0 = none := by
      by_contra hne
      obtain ⟨e, he⟩ := hlost hne
      exact not_deviceRoundTrip_of_error he htrip
    refine ⟨hanswered, ?_⟩
    replace hok := hok hanswered
    rcases hparse : urls.parse flow.redirectTo with _ | url
    · exact absurd htrip (not_deviceRoundTrip_of_error (hok.trans (run_publicRedirectTo_invalid hparse)))
    refine ⟨url, rfl, fun oryId hclient => ?_⟩
    have hmapped : (flow.accepting 2).fault 0 = none ∧
        ∃ m, w.base.db.findMapping tenantId .hydra oryId = some m := by
      by_contra hno
      obtain ⟨e, he⟩ := run_publicRedirectTo_unnamed env { w with accepted := oryChallenge :: w.accepted }
        (fun n => flow.accepting (n + 2)) hparse hclient fun hfault => by
          by_contra hm
          exact hno ⟨hfault, Option.ne_none_iff_exists'.mp hm⟩
      exact not_deviceRoundTrip_of_error (hok.trans he) htrip
    obtain ⟨hfault, m, hm⟩ := hmapped
    have hrun := hok.trans (run_publicRedirectTo_named hparse hclient hfault hm)
    have hrow := List.find?_some hm
    simp only [decide_eq_true_eq] at hrow
    obtain ⟨hmTenant, hmBackend, hmId⟩ := hrow
    rw [urls.pairs_of_parse _ _ hparse] at hclient hrun
    -- a request that is stopped forwards nothing
    have hforwards := htrip.trip _ (by rw [hrun])
    have hgoes : ¬ (m.publicId = "" ∨ (flow.verifying 0).fault 0 ≠ none) := by
      intro hstop
      obtain ⟨-, hname⟩ := collect_renamed m.publicId hparse hclient hkeys
      have hnothing : flow.forwards lib st env (flow.acceptance urls env w).2
          (flow.renamed urls url m.publicId) = [] := forwarded_of_stopped hname hstop
      have hcontra := hnothing.symm.trans hforwards
      simp at hcontra
    push Not at hgoes
    exact ⟨hfault, hgoes.2, m, List.mem_of_find?_eq_some hm, by rw [hmTenant, htenant], hmBackend, hmId,
      hgoes.1⟩
  · intro hrecoverable
    obtain ⟨hanswered, url, hparse, hnamed⟩ := hrecoverable hflow
    replace hok := hok hanswered
    rcases hclient : (urls.queryPairs url).lookup "client_id" with _ | oryId
    · have hrun := hok.trans (run_publicRedirectTo_plain hparse hclient)
      refine ⟨fun r hr => ?_, fun e he => by rw [hrun] at he; simp at he⟩
      rw [hrun] at hr
      obtain rfl := Except.ok.inj hr
      rw [urls.pairs_of_parse _ _ hparse] at hclient
      exact forwards_plain hclient hkeys
    · obtain ⟨hfault, hverify, m, hm, hmTenant, hmBackend, hmId, hne⟩ := hnamed oryId hclient
      have hfind := findMapping_of_mem hm
      rw [Option.some.inj (hmTenant.trans htenant), hmBackend, hmId] at hfind
      have hrun := hok.trans (run_publicRedirectTo_named hparse hclient hfault hfind)
      refine ⟨fun r hr => ?_, fun e he => by rw [hrun] at he; simp at he⟩
      rw [hrun] at hr ⊢
      obtain rfl := Except.ok.inj hr
      rw [urls.pairs_of_parse _ _ hparse] at hclient ⊢
      rw [← hmId] at hclient
      exact forwards_named hparse hclient hkeys hverify hm hmBackend hne

/-! ## A client of another tenant -/

theorem televisionMapping_keys : ([⟨"system", .hydra, "television", "hydra-1", 0⟩] : List IdMappingRow).Pairwise
    fun m m' => ¬ m.Conflicts m' := by simp

theorem televisionMapping_tenant :
    ∀ m ∈ ([⟨"system", .hydra, "television", "hydra-1", 0⟩] : List IdMappingRow),
      ∃ t ∈ ([⟨"system"⟩, ⟨"acme"⟩] : List TenantRow), t.id = m.tenantId := by decide

theorem televisionMapping_applications : ∀ a ∈ ([] : List ApplicationRow),
    ∃ m ∈ ([⟨"system", .hydra, "television", "hydra-1", 0⟩] : List IdMappingRow), m.publicId = a.publicId := by
  simp

/-- A client that registered itself, and so belongs to the system tenant. -/
def televisionWorld : DeviceWorld where
  base := { World.empty [⟨"system"⟩, ⟨"acme"⟩] with
    db := { Db.empty [⟨"system"⟩, ⟨"acme"⟩] with
      idMappings := [⟨"system", .hydra, "television", "hydra-1", 0⟩]
      mappingKeys := televisionMapping_keys
      mappingTenant := televisionMapping_tenant
      applicationMapping := televisionMapping_applications } }
  accepted := []

/-- Hydra's `redirect_to` for its device. -/
def televisionRedirect : String :=
  "https://auth.example.com/oauth2/device/verify?client_id=hydra-1&device_verifier=abc"

/-- The same as a URL. -/
def televisionUrl : Url :=
  ⟨⟨"https", "auth.example.com", none⟩, "/oauth2/device/verify",
    some "client_id=hydra-1&device_verifier=abc", none⟩

/-- Its device, accepted by the app of a tenant; nothing fails. -/
def televisionFlow (tenantId : String) : DeviceFlow where
  ctx := ⟨some tenantId, some ⟨tenantId, "app", .client, ["tenant:admin"]⟩⟩
  req := ⟨"challenge", "ABCD-1234"⟩
  accepting := fun _ => { Choice.plain "" 0 with doc := .obj [("redirect_to", .str televisionRedirect)] }
  verifying := fun _ => .plain "" 0
  cookies := []

/-- The handlers of an installation with the system tenant. -/
def televisionState : Oauth2State := ⟨"system", true, false, 3600⟩

/-- Libraries that read nothing. -/
def blindLibraries : Libraries := ⟨fun _ => .error "", fun _ => none, fun _ => none, fun _ => ""⟩

theorem televisionUrl_parse : Url.parse readAsciiName televisionRedirect = some televisionUrl := by
  decide +kernel

theorem televisionRedirect_pairs :
    textPairs televisionRedirect = [("client_id", "hydra-1"), ("device_verifier", "abc")] := by
  decide +kernel

theorem televisionFlow_keys : ((textPairs televisionRedirect).map (·.1)).Nodup := by
  rw [televisionRedirect_pairs]
  decide

/-- The app of the client's own tenant gets the round trip. -/
theorem deviceRoundTrip_television : DeviceRoundTrip (.http .ascii) blindLibraries televisionState .firstRow
    televisionWorld (televisionFlow "system") := by
  refine (deviceRoundTrip_iff (.http .ascii) blindLibraries televisionState .firstRow televisionWorld
    (televisionFlow "system") televisionFlow_keys).mpr fun _ => ⟨rfl, televisionUrl, televisionUrl_parse, ?_⟩
  intro oryId h
  have hpairs : televisionUrl.queryPairs = textPairs televisionRedirect :=
    queryPairs_of_parse televisionUrl_parse
  have hclient : (textPairs televisionRedirect).lookup "client_id" = some oryId :=
    (congrArg (List.lookup "client_id") hpairs).symm.trans h
  rw [televisionRedirect_pairs] at hclient
  refine ⟨rfl, rfl, ⟨"system", .hydra, "television", "hydra-1", 0⟩, List.mem_cons_self, rfl, rfl, ?_, ?_⟩
  · exact Option.some.inj hclient
  · decide

/-- **Hydra has accepted, and the caller is told that nothing was found**: each of Hydra's ids is mapped once
and no call fails, but the client belongs to another tenant than the app. -/
theorem accepted_for_another_tenant :
    (∀ m ∈ televisionWorld.base.db.idMappings, ∀ m' ∈ televisionWorld.base.db.idMappings,
        m.backend = .hydra → m'.backend = .hydra → m.oryGlobalId = m'.oryGlobalId → m = m') ∧
      ((textPairs televisionRedirect).map (·.1)).Nodup ∧
      ((televisionFlow "acme").acceptance (.http .ascii) .firstRow televisionWorld).1 =
        .error (.notFound "mapping not found") ∧
      ((televisionFlow "acme").acceptance (.http .ascii) .firstRow televisionWorld).2.accepted =
        ["challenge"] ∧
      ¬ DeviceRoundTrip (.http .ascii) blindLibraries televisionState .firstRow televisionWorld
        (televisionFlow "acme") := by
  have herror : ((televisionFlow "acme").acceptance (.http .ascii) .firstRow televisionWorld).1 =
      .error (.notFound "mapping not found") := by
    decide +kernel
  have haccepted : ((televisionFlow "acme").acceptance (.http .ascii) .firstRow televisionWorld).2.accepted =
      ["challenge"] := by
    decide +kernel
  refine ⟨?_, televisionFlow_keys, herror, haccepted, fun h => ?_⟩
  · decide
  · have hclean := h.clean _ herror
    rw [haccepted] at hclean
    simp [televisionWorld] at hclean

end SsoGateway
