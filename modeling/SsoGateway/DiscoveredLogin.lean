import SsoGateway.FederationCalls

/-!
# Logins that discovery begins

Discovery leads an email to the authorization URL of a connection, with a `state` of its own: thirty-two
random bytes in hexadecimal, which it hands to nobody. The callback looks a state up among the pending
logins, whose tokens are ULIDs.

* `StateOf` — the state that a URL ends with.
* `discover_long` — the state of a discovered URL, of sixty-four digits.
* `handleOauthCallback_unknown` — a callback with a state that no pending login can have.
* `discovered_never_completes` — no callback accepts the state of a discovered URL, in any world.
* `discovered_login_refused` — an email that is led to its connection, and the refusal at the end.
-/

namespace SsoGateway

open Lib

/-! ## The state of a URL -/

/-- The URL ends with this `state` parameter. -/
def StateOf (url state : String) : Prop :=
  ∃ before, url = before ++ "&state=" ++ state ∧ '&' ∉ state.toList

/-- What follows the last separator is settled. -/
theorem eq_of_append_separator {α : Type} (sep : α) {pre pre' a b : List α}
    (h : pre ++ sep :: a = pre' ++ sep :: b) (ha : sep ∉ a) (hb : sep ∉ b) : a = b := by
  rcases List.append_eq_append_iff.mp h with ⟨l, -, hl⟩ | ⟨l, -, hl⟩
  · cases l with
    | nil => simpa using hl
    | cons c l =>
        simp only [List.cons_append, List.cons.injEq] at hl
        simp [hl.2] at ha
  · cases l with
    | nil => simpa using hl.symm
    | cons c l =>
        simp only [List.cons_append, List.cons.injEq] at hl
        simp [hl.2] at hb

/-- A URL ends with one state at most. -/
theorem StateOf.unique {url state state' : String} (h : StateOf url state) (h' : StateOf url state') :
    state = state' := by
  obtain ⟨before, hurl, hstate⟩ := h
  obtain ⟨before', hurl', hstate'⟩ := h'
  have hlists := congrArg String.toList (hurl.symm.trans hurl')
  have htail : "state=".toList ++ state.toList = "state=".toList ++ state'.toList := by
    refine eq_of_append_separator '&' (by simpa using hlists) ?_ ?_
    · simp [hstate]
    · simp [hstate']
  exact String.toList_inj.mp (List.append_cancel_left htail)

/-- The authorization URL that a discovery ends in. -/
def DiscoveryResult.authorizationUrl : DiscoveryResult → Option String
  | .oidc url => some url
  | .oauth2 url => some url
  | .saml _ _ _ => none
  | .selectTenant _ => none

/-! ## The state of a discovered URL -/

section discovery

variable {env : FederationEnv} {w : FederationWorld}

/-- The URL ends with a state of sixty-four characters. -/
def EndsInLongState (url : String) : Prop := ∃ state, StateOf url state ∧ state.length = 64

/-- What a discovery ends in, if it is a URL, ends with such a state. -/
def DiscoveryResult.LongState (found : DiscoveryResult) : Prop :=
  ∀ url, found.authorizationUrl = some url → EndsInLongState url

/-- A state of discovery: two digits for each of thirty-two bytes, of which none is escaped. -/
theorem generateState_long :
    generateState.Sat (federation env) AnyAnswers
      (fun state _ => state.length = 64 ∧ '&' ∉ state.toList ∧ urlEncode state = state) w := by
  unfold generateState
  apply Prog.sat_map.mpr
  rintro w' - c -
  refine ⟨trivial, ?_, fun hmem => ?_, urlEncode_hexEncode _⟩
  · rw [length_hexEncode, (federation env (.randomBytes 32) c w').1.property]
  · exact absurd (isUnreserved_of_mem_hexEncode hmem) (by decide)

/-- A URL with the query of discovery ends with the state it was given. -/
theorem stateOf_discoveryQuery {endpoint clientId redirectUri state : String} {scopes : List String}
    (hencode : urlEncode state = state) (hnone : '&' ∉ state.toList) :
    StateOf (endpoint ++ discoveryQuery clientId scopes redirectUri state) state := by
  refine ⟨endpoint ++ "?client_id=" ++ urlEncode clientId ++ "&response_type=code&scope=" ++
    urlEncode (joinSpace scopes) ++ "&redirect_uri=" ++ urlEncode redirectUri, ?_, hnone⟩
  unfold discoveryQuery
  simp only [hencode, String.append_assoc]

/-- Whatever the configuration, both kinds of URL end with such a state. -/
theorem buildDiscoveryUrl_long {key : String} {endpoint : String → String} {config : Value} :
    (buildDiscoveryUrl key endpoint config).run.Sat (federation env) AnyAnswers
      (Prog.OnOk fun url _ => EndsInLongState url) w := by
  have hany : ∀ {α : Type} (x : Federated HrdError α) (w : FederationWorld),
      x.run.Sat (federation env) AnyAnswers (Prog.OnOk fun _ _ => True) w :=
    fun x w => Prog.onOk_true fun _ _ _ => trivial
  unfold buildDiscoveryUrl
  apply Prog.onOk_run_bind (hany _ _)
  intro base w₁ _
  apply Prog.onOk_run_bind (hany _ _)
  intro clientId w₂ _
  apply Prog.onOk_run_bind (hany _ _)
  intro redirectUri w₃ _
  apply Prog.onOk_run_bind (hany _ _)
  intro scopes w₄ _
  apply Prog.onOk_run_bind (Prog.onOk_run_attempt generateState_long)
  rintro state w₅ ⟨hlength, hnone, hencode⟩
  apply Prog.onOk_run_pure
  exact ⟨state, stateOf_discoveryQuery hencode hnone, hlength⟩

/-- A SAML redirect is no authorization URL. -/
theorem buildSamlRedirect_long {tenantId returnTo : String} {config : Value} :
    (buildSamlRedirect tenantId config returnTo).run.Sat (federation env) AnyAnswers
      (Prog.OnOk fun found _ => found.LongState) w := by
  unfold buildSamlRedirect
  apply Prog.onOk_run_bind (Prog.onOk_true fun _ _ _ => trivial)
  intro providerId w₁ _
  apply Prog.onOk_run_bind (Prog.onOk_true fun _ _ _ => trivial)
  intro provider w₂ _
  apply Prog.onOk_run_pure
  rintro url ⟨⟩

theorem discoverConnection_long {connection : TenantConnectionRow} {returnTo : String} :
    (discoverConnection connection returnTo).run.Sat (federation env) AnyAnswers
      (Prog.OnOk fun found _ => found.LongState) w := by
  unfold discoverConnection
  split
  · refine Prog.onOk_run_map (buildDiscoveryUrl_long.post fun r w' hr => hr.mono ?_)
    rintro url w' hurl _ ⟨⟩
    exact hurl
  · refine Prog.onOk_run_map (buildDiscoveryUrl_long.post fun r w' hr => hr.mono ?_)
    rintro url w' hurl _ ⟨⟩
    exact hurl
  · exact buildSamlRedirect_long

/-- Whatever the stores hold, a URL that discovery ends in has a state of sixty-four characters. -/
theorem discover_long {lib : FederationLibraries} {publicBaseUrl email returnTo : String} :
    (discover lib publicBaseUrl email returnTo).run.Sat (federation env) AnyAnswers
      (Prog.OnOk fun found _ => found.LongState) w := by
  unfold discover
  apply Prog.onOk_run_bind (Prog.onOk_true fun _ _ _ => trivial)
  intro _ w₁ _
  apply Prog.onOk_run_bind (Prog.onOk_true fun _ _ _ => trivial)
  intro _ w₂ _
  apply Prog.onOk_run_bind (Prog.onOk_true fun _ _ _ => trivial)
  intro verified w₃ _
  split
  · apply Prog.onOk_run_pure
    rintro url ⟨⟩
  · apply Prog.onOk_run_bind (Prog.onOk_true fun _ _ _ => trivial)
    intro found w₄ _
    split
    · exact discoverConnection_long
    · apply Prog.onOk_run_pure
      rintro url ⟨⟩
    · trivial

end discovery

/-! ## The callback -/

section callback

variable {env : FederationEnv} {lib : FederationLibraries} {cfg : CallbackConfig}

/-- A callback with a state that no token of a pending login can be. -/
theorem handleOauthCallback_unknown {code state connectionType : String} (hstate : state.length ≠ 26)
    (o : ℕ → FederationChoice) (w : FederationWorld) (response : Response) :
    ((handleOauthCallback env lib cfg code state connectionType).run.run (federation env) o w).1 ≠
      .ok response := by
  have hread : ∃ e, (selectRow (o 0).base w.loginStates
      (fun r => r.stateToken.text = state ∧ (o 0).base.now < r.expiresAt) .loginStateNotFound) =
      .error e := by
    rcases hfound : selectRow (o 0).base w.loginStates
      (fun r => r.stateToken.text = state ∧ (o 0).base.now < r.expiresAt) .loginStateNotFound with e | r
    · exact ⟨e, rfl⟩
    · obtain ⟨-, hr, -⟩ := selectRow_ok hfound
      exact absurd (hr ▸ r.stateToken.length_text) hstate
  obtain ⟨e, he⟩ := hread
  show (Prog.run (federation env) (Prog.call (S := FederationSig) (.getLoginState state) _) o w).1 ≠ _
  simp only [Prog.run, federation, he]
  intro h
  cases h

end callback

/-! ## What a discovered login comes to -/

/-- The login that a URL begins can be completed from a world: some callback with the URL's state ends in
a redirect, whatever code the provider sends and whatever it answers. -/
def CanComplete (env : FederationEnv) (lib : FederationLibraries) (cfg : CallbackConfig)
    (w : FederationWorld) (url : String) : Prop :=
  ∃ state code connectionType o response, StateOf url state ∧
    ((handleOauthCallback env lib cfg code state connectionType).run.run (federation env) o w).1 =
      .ok response

/-- **A discovered login cannot be completed.** The URL that a discovery ends in has a state; no pending
login of any world has it, and no callback with it succeeds from any world. -/
theorem discovered_never_completes {env : FederationEnv} {lib : FederationLibraries}
    {publicBaseUrl email returnTo url : String} {o : ℕ → FederationChoice} {w : FederationWorld}
    {found : DiscoveryResult}
    (hfound : ((discover lib publicBaseUrl email returnTo).run.run (federation env) o w).1 = .ok found)
    (hurl : found.authorizationUrl = some url) :
    ∃ state, StateOf url state ∧ ∀ (w' : FederationWorld) (cfg : CallbackConfig),
      (∀ row ∈ w'.loginStates.rows, row.stateToken.text ≠ state) ∧ ¬ CanComplete env lib cfg w' url := by
  have hlong : Prog.OnOk (fun found _ => found.LongState)
      ((discover lib publicBaseUrl email returnTo).run.run (federation env) o w).1
      ((discover lib publicBaseUrl email returnTo).run.run (federation env) o w).2 :=
    discover_long.run_of_choices fun _ _ _ => trivial
  rw [hfound] at hlong
  obtain ⟨state, hstate, hlength⟩ := hlong url hurl
  refine ⟨state, hstate, fun w' cfg => ⟨fun row _ htoken => ?_, ?_⟩⟩
  · have htext := row.stateToken.length_text
    rw [htoken] at htext
    omega
  · rintro ⟨state', code, connectionType, o', response, hstate', hresponse⟩
    obtain rfl := hstate.unique hstate'
    exact handleOauthCallback_unknown (by omega) o' w' response hresponse

/-! ### An email that is led to its connection -/

/-- The state of thirty-two bytes that are zero. -/
def zeroState : String := hexEncode (List.replicate 32 0)

/-- The URL that Ada's email leads to. -/
def adasUrl : String :=
  "https://idp.example/oauth2/authorize?client_id=gateway&response_type=code&scope=openid" ++
    "&redirect_uri=https%3A%2F%2Fsso.example%2Fcallbacks%2Foidc&state=" ++ zeroState

/-- Discovery leads Ada to her provider. -/
theorem ada_discovers :
    ((discover .plain "https://sso.example" "ada@acme.example" "https://app.example/").run.run
      (federation .plain) (fun _ => .plain 'A' 0) acmeFederation).1 = .ok (.oidc adasUrl) := by
  decide +kernel

/-- The URL ends with that state. -/
theorem adasUrl_state : StateOf adasUrl zeroState := by
  refine ⟨"https://idp.example/oauth2/authorize?client_id=gateway&response_type=code&scope=openid" ++
    "&redirect_uri=https%3A%2F%2Fsso.example%2Fcallbacks%2Foidc", ?_, ?_⟩
  · decide +kernel
  · decide +kernel

/-- Her URL can be completed in no world. -/
theorem ada_never_completes :
    ∃ state, StateOf adasUrl state ∧ ∀ (w' : FederationWorld) (cfg : CallbackConfig),
      (∀ row ∈ w'.loginStates.rows, row.stateToken.text ≠ state) ∧ ¬ CanComplete .plain .plain cfg w' adasUrl :=
  discovered_never_completes ada_discovers rfl

/-- Discovery leads Ada to her provider, with a state that nothing remembers; and when the provider has
sent her back with it, and would answer every question about her, the callback refuses. -/
theorem discovered_login_refused :
    ((discover .plain "https://sso.example" "ada@acme.example" "https://app.example/").run.run
        (federation .plain) (fun _ => .plain 'A' 0) acmeFederation).1 = .ok (.oidc adasUrl) ∧
      StateOf adasUrl zeroState ∧ acmeFederation.loginStates.rows = [] ∧
      ((handleOauthCallback .plain .plain .plain "code" zeroState "oidc").run.run (federation .plain)
        (fun _ => .plain 'A' 0) acmeFederation).1 = .error (.database .loginStateNotFound) :=
  ⟨ada_discovers, adasUrl_state, rfl, rfl⟩

end SsoGateway
