import SsoGateway.DcrCalls
import SsoGateway.Lib.History

/-!
# The scopes of public registrations

Anyone may register a client, and may then ask Hydra for tokens in its name. The registration filter
keeps such clients to the plain OpenID scopes; a client with a Matrix scope is registered with `*`,
and the guard on authorizations is meant to take the place of the filter. The guard looks only at
authorizations that carry a Matrix scope.

* `PublicRequest`, `publicRequests` — the requests, interleaved in any way.
* `Grants` — the scopes Hydra grants to a request, from the client's registration.
* `ScopeAllowed` — the condition: a request that no guard looks at asks for nothing beyond the
  allowed scopes in the name of a client registered with `*`.
* `registered_scopes_contained` — under it registered clients get allowed and Matrix scopes only.
* `registered_scope_escapes` — a Matrix registration, then client credentials for `tenant:admin`.
-/

namespace SsoGateway

open Lib

/-! ## Requests -/

/-- A request to a public endpoint. -/
inductive PublicRequest where
  | register (auth : Option AuthContext) (body : Value)
  | authorize (cookies : List String) (params : Params)
  | token (req : FormRequest)
  | device (path : String) (req : FormRequest)

/-- The handler of a request. -/
def PublicRequest.handle (lib : Libraries) (st : Oauth2State) : PublicRequest → Prog Gateway Response
  | .register auth body => SsoGateway.register lib st auth body
  | .authorize cookies params => SsoGateway.authorize lib st cookies params
  | .token req => SsoGateway.token lib st req
  | .device path req => SsoGateway.device lib st path req

/-- The requests, running together. -/
def publicRequests {ι : Type} (lib : Libraries) (st : Oauth2State) (requests : ι → PublicRequest)
    (w : World) : Pool Gateway ι Response World :=
  ⟨w, fun i => (requests i).handle lib st⟩

/-- The gateway's calls, made for one of the requests. -/
def serving (ι : Type) (env : Env) : Handler Gateway (ι × Choice) World :=
  fun op ic w => gateway env op ic.2 w

/-! ## What Hydra grants -/

/-- The registered scope of a client. -/
def registeredScope (client : Value) : String := (client.index "scope").asStr.getD ""

/-- The client and the scopes of a request for tokens. -/
def askedScopes : GatewayOp → Option (String × List String)
  | .hydra (.authorize query _) =>
      some ((query "client_id").getD "", splitWhitespace ((query "scope").getD ""))
  | .hydra (.token form credentials) =>
      some (((credentials.map (·.1)).or (form "client_id")).getD "",
        splitWhitespace ((form "scope").getD ""))
  | .hydra (.device _ form credentials) =>
      some (((credentials.map (·.1)).or (form "client_id")).getD "",
        splitWhitespace ((form "scope").getD ""))
  | _ => none

/-- Hydra grants the client a scope it was asked for: the grants the request needs (`grantsOf`) are
registered, and the registered scope lists it or is `*`. -/
def Grants (grantsOf : GatewayOp → List String) (op : GatewayOp) (w : World) (id scope : String) :
    Prop :=
  ∃ asked ∈ askedScopes op, asked.1 = id ∧ scope ∈ asked.2 ∧
    ∃ client ∈ w.hydra.clients.lookup id,
      (∀ g ∈ grantsOf op, g ∈ jsonStringArray (client.index "grant_types")) ∧
        (scope ∈ splitWhitespace (registeredScope client) ∨ registeredScope client = "*")

instance (grantsOf : GatewayOp → List String) (op : GatewayOp) (w : World) (id scope : String) :
    Decidable (Grants grantsOf op w id scope) :=
  inferInstanceAs (Decidable (∃ asked ∈ askedScopes op, _))

/-- The client was created by one of the calls. -/
def CreatedIn {ι : Type} (env : Env) (past : List (Event Gateway (ι × Choice) World)) (id : String) :
    Prop :=
  ∃ ev ∈ past, (ev.before.hydra.clients.lookup id).isSome = false ∧
    ((ev.after (serving ι env)).hydra.clients.lookup id).isSome = true

instance {ι : Type} (env : Env) (past : List (Event Gateway (ι × Choice) World)) (id : String) :
    Decidable (CreatedIn env past id) :=
  inferInstanceAs (Decidable (∃ ev ∈ past, _))

/-- The scopes a registered client may get. -/
def PublicScope (scope : String) : Prop := scope ∈ dcrAllowedScopes ∨ isMatrixScope scope = true

instance (scope : String) : Decidable (PublicScope scope) := inferInstanceAs (Decidable (_ ∨ _))

/-- An authorization with a Matrix scope: the requests the guard looks at. -/
def IsMatrixAuthorization : GatewayOp → Prop
  | .hydra (.authorize query _) => ∃ s ∈ splitWhitespace ((query "scope").getD ""),
      isMatrixScope s = true
  | _ => False

instance : DecidablePred IsMatrixAuthorization := fun op => by
  unfold IsMatrixAuthorization
  split
  · exact inferInstance
  · exact inferInstance

/-- The condition on a request to Hydra: if no guard looked at it and its client was created in the
run and is registered with `*`, it asks for public scopes only. -/
def ScopeAllowed {ι : Type} (env : Env) (op : GatewayOp)
    (s : World × List (Event Gateway (ι × Choice) World)) : Prop :=
  ∀ asked ∈ askedScopes op, ¬ IsMatrixAuthorization op → CreatedIn env s.2 asked.1 →
    (s.1.hydra.clients.lookup asked.1).map registeredScope = some "*" →
    ∀ scope ∈ asked.2, PublicScope scope

instance {ι : Type} (env : Env) (op : GatewayOp)
    (s : World × List (Event Gateway (ι × Choice) World)) : Decidable (ScopeAllowed env op s) :=
  inferInstanceAs (Decidable (∀ asked ∈ askedScopes op, _))

/-! ## Registrations -/

/-- A registration that stays in bounds: everything, or allowed scopes only. -/
def Bounded (client : Value) : Prop :=
  registeredScope client = "*" ∨
    ∀ s ∈ splitWhitespace (registeredScope client), s ∈ dcrAllowedScopes

theorem bounded_insert {client : Value} (h : Bounded client) (x : Value) :
    Bounded (client.insert "client_id" x) := by
  have hscope : registeredScope (client.insert "client_id" x) = registeredScope client := by
    unfold registeredScope Value.index
    rw [Value.get_insert_of_ne (by decide)]
  unfold Bounded
  rw [hscope]
  exact h

/-- The scopes of a registration are words that pass the filter. -/
theorem registrationScopes_spec {body : Value} {s : String} (hs : s ∈ registrationScopes body) :
    IsWord s ∧ PublicScope s := by
  unfold registrationScopes orDefault at hs
  split at hs
  · rw [List.mem_singleton.mp hs]
    decide
  · obtain ⟨hword, hpublic⟩ := List.mem_filter.mp hs
    exact ⟨isWord_of_mem_splitWhitespace hword, by simpa [PublicScope] using hpublic⟩

/-- **The filter.** What is registered stays in bounds. -/
theorem bounded_payload (st : Oauth2State) (body : Value) (publicId : String) :
    Bounded ((Registration.ofBody st body).payload publicId) := by
  have hscope : registeredScope ((Registration.ofBody st body).payload publicId) =
      (Registration.ofBody st body).registeredScope := rfl
  unfold Bounded
  rw [hscope]
  by_cases hmatrix : (registrationScopes body).any isMatrixScope = true
  · exact .inl (by simp [Registration.ofBody, hmatrix])
  · refine .inr fun s hs => ?_
    have hjoin : (Registration.ofBody st body).registeredScope =
        joinSpace (registrationScopes body) := by
      simp [Registration.ofBody, hmatrix]
    rw [hjoin, splitWhitespace_joinSpace fun s hs => (registrationScopes_spec hs).1] at hs
    rcases (registrationScopes_spec hs).2 with hallowed | hm
    · exact hallowed
    · exact absurd (List.any_eq_true.mpr ⟨s, hs, hm⟩) hmatrix

/-- **The widening** registers `*`. -/
theorem bounded_expandedClient (st : Oauth2State) (client : Value) :
    Bounded (expandedClient st client) := by
  have hscope : registeredScope (expandedClient st client) =
      registeredScope (client.setIndex "scope" (.str "*")) := by
    unfold expandedClient
    dsimp only
    split
    · unfold registeredScope Value.index
      rw [Value.get_setIndex_of_ne (by decide)]
    · rfl
  unfold Bounded
  rw [hscope]
  unfold registeredScope Value.index
  rcases Value.get_setIndex_self client "scope" (.str "*") with h | h
  · rw [h]
    exact .inl rfl
  · rw [h]
    refine .inr fun s hs => ?_
    simp [Value.asStr] at hs

/-! ## The guard -/

/-- An authorization that passes the guard asks for public scopes, if it asks for a Matrix scope. -/
theorem publicScope_of_guard {scope s : String} (hguard : disallowedMatrixScope scope = none)
    (hmatrix : (splitWhitespace scope).any isMatrixScope = true) (hs : s ∈ splitWhitespace scope) :
    PublicScope s := by
  unfold disallowedMatrixScope at hguard
  dsimp only at hguard
  rw [if_pos hmatrix] at hguard
  have hspared := List.find?_eq_none.mp hguard s hs
  by_contra hpublic
  simp only [PublicScope, not_or] at hpublic
  exact hspared (by simpa using hpublic)

/-- The words of the scope sent to Hydra: those of the request, and perhaps `offline_access` next to
a Matrix scope. -/
theorem splitWhitespace_withMatrixOfflineAccess (st : Oauth2State) (scope : String) :
    splitWhitespace (withMatrixOfflineAccess st scope) = splitWhitespace scope ∨
      ((splitWhitespace scope).any isMatrixScope = true ∧
        splitWhitespace (withMatrixOfflineAccess st scope) =
          splitWhitespace scope ++ ["offline_access"]) := by
  unfold withMatrixOfflineAccess
  dsimp only
  split
  · rename_i h
    refine .inr ⟨h.2.1, splitWhitespace_joinSpace fun w hw => ?_⟩
    rcases List.mem_append.mp hw with hw | hw
    · exact isWord_of_mem_splitWhitespace hw
    · rw [List.mem_singleton.mp hw]
      decide
  · exact .inl rfl

/-- **The guard**, on the query sent to Hydra. -/
theorem guarded_query {st : Oauth2State} {params : Params} {oryId : String}
    (hguard : (params "scope").bind disallowedMatrixScope = none)
    (hmatrix : ∃ s ∈ splitWhitespace ((authorizeQuery params oryId (withMatrixOfflineAccess st
      ((params "scope").getD "")) "scope").getD ""), isMatrixScope s = true) :
    ∀ s ∈ splitWhitespace ((authorizeQuery params oryId (withMatrixOfflineAccess st
      ((params "scope").getD "")) "scope").getD ""), PublicScope s := by
  rcases hscope : params "scope" with _ | scope
  · intro s hs
    simp [authorizeQuery, hscope] at hs
  · rw [hscope] at hguard
    simp only [authorizeQuery, hscope, Option.getD_some, Option.map_some] at hmatrix ⊢
    rw [if_neg (by decide), if_pos trivial] at hmatrix ⊢
    rcases splitWhitespace_withMatrixOfflineAccess st scope with h | ⟨hany, h⟩
    · rw [h] at hmatrix ⊢
      exact fun s => publicScope_of_guard hguard (List.any_eq_true.mpr hmatrix)
    · rw [h]
      intro s hs
      rcases List.mem_append.mp hs with hs | hs
      · exact publicScope_of_guard hguard hany hs
      · rw [List.mem_singleton.mp hs]
        decide

/-! ## The calls of the handlers -/

/-- What the handlers promise of a call: registrations in bounds, and guarded authorizations. -/
def ScopeSafe : GatewayOp → Prop
  | .hydra (.createOauth2Client payload) => Bounded payload
  | .hydra (.updateOauth2Client _ payload) => Bounded payload
  | .hydra (.authorize query c) => IsMatrixAuthorization (.hydra (.authorize query c)) →
      ∀ s ∈ splitWhitespace ((query "scope").getD ""), PublicScope s
  | _ => True

theorem scopeSafe_of_isLookup {op : GatewayOp} (hop : op.IsLookup) : ScopeSafe op := by
  unfold ScopeSafe
  split
  · exact hop.elim
  · exact hop.elim
  · exact hop.elim
  · trivial

/-- A guarded authorization asks for public scopes. -/
theorem publicScope_of_guarded {op : GatewayOp} (hop : ScopeSafe op)
    (hguarded : IsMatrixAuthorization op) {id : String} {scopes : List String}
    (hasked : askedScopes op = some (id, scopes)) : ∀ s ∈ scopes, PublicScope s := by
  have hmatrix := hguarded
  unfold IsMatrixAuthorization at hguarded
  split at hguarded
  · cases hasked
    exact hop hmatrix
  · exact hguarded.elim

theorem calls_handle (lib : Libraries) (st : Oauth2State) (request : PublicRequest) :
    (request.handle lib st).Calls ScopeSafe := by
  cases request with
  | register auth body =>
      exact calls_register (fun _ => scopeSafe_of_isLookup) (bounded_payload st body)
        (fun _ _ => trivial) lib
  | authorize cookies params =>
      exact calls_authorize (fun _ => scopeSafe_of_isLookup) (fun _ _ => trivial)
        (fun _ _ => trivial) (fun _ client => bounded_expandedClient st client)
        (fun hguard _ => guarded_query hguard) lib
  | token req =>
      show (SsoGateway.token lib st req).Calls ScopeSafe
      unfold SsoGateway.token
      exact calls_forwardForm (fun _ => scopeSafe_of_isLookup) (fun _ _ => trivial)
        (fun _ _ => Prog.calls_perform trivial) lib req
  | device path req =>
      show (SsoGateway.device lib st path req).Calls ScopeSafe
      unfold SsoGateway.device
      exact calls_forwardForm (fun _ => scopeSafe_of_isLookup) (fun _ _ => trivial)
        (fun _ _ => Prog.calls_perform trivial) lib req

/-! ## Clients at Hydra -/

/-- The client, if Hydra has it, is registered in bounds. -/
def BoundedAt (id : String) (w : World) : Prop :=
  ∀ client, w.hydra.clients.lookup id = some client → Bounded client

/-- **One call** keeps a client's registration in bounds. -/
theorem boundedAt_step (env : Env) {op : GatewayOp} (hop : ScopeSafe op) {id : String} {w : World}
    (hw : BoundedAt id w) (c : Choice) : BoundedAt id (gateway env op c w).2 := by
  have hstep := gateway_step env c w op
  generalize (gateway env op c w).2 = w' at hstep ⊢
  cases hstep with
  | @hydra o hop' =>
      subst hop'
      intro client
      have hclients := hydra_clients_step o c w.hydra
      show (hydraHandler o c w.hydra).2.clients.lookup id = some client → Bounded client
      generalize (hydraHandler o c w.hydra).2.clients = clients' at hclients ⊢
      cases hclients with
      | same => exact hw client
      | @create payload hop' _ =>
          subst hop'
          by_cases hid : id = newClientId payload c
          · subst hid
            intro hclient
            obtain rfl : newClient payload c = client := by simpa using hclient
            exact bounded_insert hop _
          · rw [List.lookup_cons, beq_false_of_ne hid]
            exact hw client
      | @update id' payload hop' =>
          subst hop'
          by_cases hid : id = id'
          · subst hid
            intro hclient
            obtain rfl : payload.insert "client_id" (.str id) = client := by simpa using hclient
            exact bounded_insert hop _
          · rw [List.lookup_cons, beq_false_of_ne hid, lookup_filter_of_ne hid]
            exact hw client
      | @delete id' hop' =>
          by_cases hid : id = id'
          · subst hid
            rw [lookup_filter_self]
            simp
          · rw [lookup_filter_of_ne hid]
            exact hw client
  | _ => exact hw

/-! ## Every schedule -/

/-- **Scope containment of public registrations.** Along every schedule of requests to the public
endpoints, from any world and under any faults: if the requests that no guard looks at ask only for
public scopes in the name of clients registered with `*`, then every scope Hydra grants to a client
created in the run is `openid`, `profile`, `email`, `offline_access` or a Matrix scope. -/
theorem registered_scopes_contained {ι : Type} [DecidableEq ι] (env : Env) (lib : Libraries)
    (st : Oauth2State) (requests : ι → PublicRequest) (w : World) (sched : List (ι × Choice))
    (grantsOf : GatewayOp → List String)
    (hallowed : ∀ ev ∈ remembered [] ((publicRequests lib st requests w).events (serving ι env) sched),
      ScopeAllowed env ev.op ev.before) :
    ∀ ev ∈ remembered [] ((publicRequests lib st requests w).events (serving ι env) sched),
      ∀ id scope, CreatedIn env ev.before.2 id → Grants grantsOf ev.op ev.before.1 id scope →
        PublicScope scope := by
  have hsafe : ∀ ev ∈ (publicRequests lib st requests w).events (serving ι env) sched,
      ScopeSafe ev.op := Pool.calls_of_mem_events (fun i => calls_handle lib st (requests i)) sched
  have hchain := Pool.chained_events (serving ι env) (publicRequests lib st requests w) sched
  intro ev hev id scope hcreated hgrants
  have hallowed := hallowed ev hev
  obtain ⟨pre, ev, post, hsplit, rfl⟩ := mem_remembered.mp hev
  obtain ⟨⟨id', scopes⟩, hasked, hid, hscope, client, hclient, -, hregistered⟩ := hgrants
  obtain rfl : id' = id := hid
  -- the client was not there before its creation, and every call since keeps it in bounds
  have hbounded : BoundedAt id' ev.before := by
    obtain ⟨e, he, hnone, -⟩ := hcreated
    rw [hsplit] at hchain hsafe
    obtain ⟨v, hpre, hbefore, -⟩ := Chained.append.mp hchain
    have he : e ∈ pre := by simpa using he
    rw [hbefore]
    refine hpre.of_event he (J := BoundedAt id') ?_ fun e he h => ?_
    · intro client hclient
      rw [hclient] at hnone
      cases hnone
    · exact boundedAt_step env (hsafe e (List.mem_append_left _ he)) h e.choice.2
  by_cases hstar : registeredScope client = "*"
  · by_cases hguarded : IsMatrixAuthorization ev.op
    · have hop := hsafe ev (hsplit ▸ List.mem_append_right _ List.mem_cons_self)
      exact publicScope_of_guarded hop hguarded hasked scope hscope
    · have hregistration : (ev.before.hydra.clients.lookup id').map registeredScope = some "*" := by
        rw [show ev.before.hydra.clients.lookup id' = some client from hclient, Option.map_some, hstar]
      exact hallowed (id', scopes) hasked hguarded hcreated hregistration scope hscope
  · rcases hregistered with hlisted | h
    · rcases hbounded client hclient with h | hall
      · exact absurd h hstar
      · exact .inl (hall scope hlisted)
    · exact absurd h hstar

/-- The grants a request for tokens needs. -/
def neededGrants : GatewayOp → List String
  | .hydra (.authorize _ _) => ["authorization_code"]
  | .hydra (.token form _) => [(form "grant_type").getD ""]
  | .hydra (.device _ _ _) => ["urn:ietf:params:oauth:grant-type:device_code"]
  | _ => []

/-- A form with the given fields. -/
def formOf (fields : List (String × String)) : FormRequest := ⟨none, fun k => fields.lookup k⟩

/-- Someone registers a client for Matrix, and then asks for tokens in its name. -/
def matrixClient (scope : String) (asks : Bool) : PublicRequest :=
  if asks then
    .token (formOf [("client_id", "client"), ("grant_type", "client_credentials"), ("scope", scope)])
  else
    .register none (.obj [("scope", .str "urn:matrix:client:api:*"),
      ("grant_types", .arr [.str "client_credentials"])])

/-- The two requests, one after the other. -/
def matrixEvents (scope : String) : List (Event Gateway (Bool × Choice)
    (World × List (Event Gateway (Bool × Choice) World))) :=
  remembered [] ((publicRequests ⟨fun _ => .error "", fun _ => none, fun _ => none, fun _ => ""⟩
    ⟨"system", true, true, 604800⟩ (matrixClient scope) (World.empty [⟨"system"⟩])).events
    (serving Bool Env.firstRow)
    (List.replicate 4 (false, Choice.plain "client" 0) ++
      List.replicate 2 (true, Choice.plain "client" 0)))

/-- Asked for a Matrix scope, Hydra grants it. -/
theorem registered_scopes_contained_matrix :
    (∃ ev ∈ matrixEvents "urn:matrix:client:device:A", CreatedIn Env.firstRow ev.before.2 "client" ∧
      Grants neededGrants ev.op ev.before.1 "client" "urn:matrix:client:device:A") ∧
    ∀ ev ∈ matrixEvents "urn:matrix:client:device:A", ∀ id scope,
      CreatedIn Env.firstRow ev.before.2 id → Grants neededGrants ev.op ev.before.1 id scope →
        PublicScope scope := by
  constructor
  · decide
  · exact registered_scopes_contained Env.firstRow _ _ _ _ _ _ (by decide)

/-- Asked for `tenant:admin`, Hydra grants it too. -/
theorem registered_scope_escapes :
    ∃ ev ∈ matrixEvents "tenant:admin", CreatedIn Env.firstRow ev.before.2 "client" ∧
      Grants neededGrants ev.op ev.before.1 "client" "tenant:admin" ∧
        ¬ PublicScope "tenant:admin" := by
  decide

end SsoGateway
