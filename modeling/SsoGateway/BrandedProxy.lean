import SsoGateway.Branding
import SsoGateway.Lib.Url

/-!
# Branded paths and email links

One table maps the routes of Kratos to the configured paths and back; a path and what lies under it go
together. An email link of Kratos' own shape is bounced to its branded path, and the proxy behind that
sends it on to Kratos.

* `BrandedFlow`, `kratosRoutes` — the table by the flows.
* `redirectToBranded`, `proxyBranded`, `bounce` — the two handlers, and a browser between them.
* `kratosPath_spec`, `kratosPath_of_undisturbed` — the first path of the table that a request lies under.
* `branded_faithful_iff` — the configurations and queries for which everything comes back as it was.
* `branded_recovery_captured` — an accepted configuration in which the login takes the recovery's requests.

Source: `services/self_service_url_rewriter.rs`, `services/handlers/self_service.rs`.
-/

namespace SsoGateway

open Lib

/-! ## The table -/

/-- The flows that have a branded path, in the order of the configuration. -/
inductive BrandedFlow where
  | login
  | registration
  | settings
  | recovery
  | verification
  | logout
  | errors
  | oidcCallback
  | webauthnJs
deriving DecidableEq, Repr

namespace BrandedFlow

/-- All of them. -/
def all : List BrandedFlow :=
  [login, registration, settings, recovery, verification, logout, errors, oidcCallback, webauthnJs]

theorem mem_all (flow : BrandedFlow) : flow ∈ all := by
  cases flow <;> decide

/-- The place in the order. -/
def index (flow : BrandedFlow) : ℕ := all.idxOf flow

/-- The route of Kratos that begins the flow. -/
def initRoute : BrandedFlow → String
  | login => "/self-service/login/browser"
  | registration => "/self-service/registration/browser"
  | settings => "/self-service/settings/browser"
  | recovery => "/self-service/recovery/browser"
  | verification => "/self-service/verification/browser"
  | logout => "/self-service/logout/browser"
  | errors => "/self-service/errors"
  | oidcCallback => "/self-service/methods/oidc/callback"
  | webauthnJs => "/.well-known/ory/webauthn.js"

end BrandedFlow

open BrandedFlow

namespace SelfServicePaths

/-- The configured path of a flow. -/
def pathOf (paths : SelfServicePaths) : BrandedFlow → String
  | .login => paths.login
  | .registration => paths.registration
  | .settings => paths.settings
  | .recovery => paths.recovery
  | .verification => paths.verification
  | .logout => paths.logout
  | .errors => paths.errors
  | .oidcCallback => paths.oidcCallback
  | .webauthnJs => paths.webauthnJs

/-- Source: `gateway_path_for_kratos`. -/
def gatewayPathForKratos (paths : SelfServicePaths) (kratosPath : String) : Option String :=
  paths.kratosTable.findSome? fun entry =>
    (matchPrefix kratosPath entry.1).map fun suffix => entry.2 ++ suffix

end SelfServicePaths

/-- The routes of Kratos, in the order of the table, with their flows. -/
def kratosRoutes : List (String × BrandedFlow) :=
  [("/self-service/login/browser", login), ("/self-service/registration/browser", registration),
    ("/self-service/settings/browser", settings), ("/self-service/recovery/browser", recovery),
    ("/self-service/verification/browser", verification), ("/self-service/logout/browser", logout),
    ("/self-service/recovery", recovery), ("/self-service/verification", verification),
    ("/self-service/logout", logout), ("/self-service/errors", errors),
    ("/self-service/methods/oidc/callback", oidcCallback), ("/.well-known/ory/webauthn.js", webauthnJs)]

/-! ## The handlers -/

/-- Source: `SelfServiceState`, the fields that say where requests go. -/
structure SelfServiceState where
  kratosPublicUrl : String
  gatewayPublicUrl : String
  paths : SelfServicePaths
deriving DecidableEq, Repr

/-- Source: `carries_token`. -/
def carriesToken (query : Option String) : Bool :=
  match query with
  | some q => (formPairs q).any fun pair => pair.1 = "token"
  | none => false

/-- Source: `token_submission_path`. -/
def tokenSubmissionPath (kratosPath : String) : String :=
  if kratosPath = "/self-service/recovery/browser" then "/self-service/recovery"
  else if kratosPath = "/self-service/verification/browser" then "/self-service/verification"
  else if kratosPath = "/self-service/logout/browser" then "/self-service/logout"
  else kratosPath

/-- `str::trim_start_matches`. -/
def trimStartMatches (s : String) (c : Char) : String := String.ofList (s.toList.dropWhile (· = c))

/-- Source: `build_upstream_url`. -/
def buildUpstreamUrl (hosts : String → Option String) (base path : String) : Option Url :=
  Url.parse hosts (trimEndMatches base '/' ++ "/" ++ trimStartMatches path '/')

/-- Source: `proxy_branded`. The path at Kratos and the URL that is requested, or no request. -/
def proxyBranded (hosts : String → Option String) (st : SelfServiceState) (path : String)
    (query : Option String) : Option (String × Url) :=
  (st.paths.kratosPathForGateway path).bind fun kratosPath =>
    let kratosPath := if carriesToken query then tokenSubmissionPath kratosPath else kratosPath
    (buildUpstreamUrl hosts st.kratosPublicUrl kratosPath).map fun url =>
      (kratosPath, url.setQuery query)

/-- Source: `redirect_to_branded`. The location, or no redirect. -/
def redirectToBranded (st : SelfServiceState) (path : String) (query : Option String) : Option String :=
  (st.paths.gatewayPathForKratos path).map fun branded =>
    let location := trimEndMatches st.gatewayPublicUrl '/' ++ branded
    match query with
    | some q => location ++ "?" ++ q
    | none => location

/-- The request that a browser makes for a location: its path and its query. -/
def followLocation (hosts : String → Option String) (location : String) : Option (String × Option String) :=
  (Url.parse hosts location).map fun url => (url.path, url.query)

/-- What Kratos is asked for a request that is bounced to its branded path. -/
def bounce (hosts : String → Option String) (st : SelfServiceState) (path query : String) :
    Option (String × Url) :=
  (redirectToBranded st path (some query)).bind fun location =>
    (followLocation hosts location).bind fun target => proxyBranded hosts st target.1 target.2

/-! ## What lies under a path -/

theorem matchPrefix_eq_some {path start suffix : String} :
    SelfServicePaths.matchPrefix path start = some suffix ↔
      path = start ++ suffix ∧ (suffix = "" ∨ startsWith suffix "/" = true) := by
  unfold SelfServicePaths.matchPrefix
  by_cases hsame : path = start
  · rw [if_pos hsame, hsame, Option.some.injEq]
    constructor
    · rintro rfl
      simp
    · rintro ⟨h, -⟩
      have hnil : suffix.toList = [] := by simpa using congrArg String.toList h
      rw [← String.toList_inj, hnil]
      rfl
  · rw [if_neg hsame, Option.filter_eq_some_iff, stripStart_eq_some]
    constructor
    · rintro ⟨h, hslash⟩
      exact ⟨h, .inr (by simpa using hslash)⟩
    · rintro ⟨h, rfl | hslash⟩
      · exact absurd (by simpa using h) hsame
      · exact ⟨h, by simpa using hslash⟩

theorem matchPrefix_eq_none {path start : String} :
    SelfServicePaths.matchPrefix path start = none ↔ ¬ Under '/' start path := by
  rw [← matchPrefix_isSome_iff]
  simp

section table

variable {paths : SelfServicePaths}

theorem kratosTable_eq (paths : SelfServicePaths) :
    paths.kratosTable = kratosRoutes.map fun r => (r.1, paths.pathOf r.2) := rfl

theorem kratosPathForGateway_eq (paths : SelfServicePaths) (path : String) :
    paths.kratosPathForGateway path = kratosRoutes.findSome? fun r =>
      (SelfServicePaths.matchPrefix path (paths.pathOf r.2)).map fun suffix => r.1 ++ suffix := by
  rw [SelfServicePaths.kratosPathForGateway, kratosTable_eq, List.findSome?_map]
  rfl

theorem gatewayPathForKratos_eq (paths : SelfServicePaths) (path : String) :
    paths.gatewayPathForKratos path = kratosRoutes.findSome? fun r =>
      (SelfServicePaths.matchPrefix path r.1).map fun suffix => paths.pathOf r.2 ++ suffix := by
  rw [SelfServicePaths.gatewayPathForKratos, kratosTable_eq, List.findSome?_map]
  rfl

/-- Before the first route of a flow come those of the flows before it, and only those. -/
theorem routes_before (flow : BrandedFlow) : ∃ before after,
    kratosRoutes = before ++ (flow.initRoute, flow) :: after ∧ ∀ r ∈ before, r.2.index < flow.index := by
  cases flow
  · exact ⟨kratosRoutes.take 0, kratosRoutes.drop 1, rfl, by decide⟩
  · exact ⟨kratosRoutes.take 1, kratosRoutes.drop 2, rfl, by decide⟩
  · exact ⟨kratosRoutes.take 2, kratosRoutes.drop 3, rfl, by decide⟩
  · exact ⟨kratosRoutes.take 3, kratosRoutes.drop 4, rfl, by decide⟩
  · exact ⟨kratosRoutes.take 4, kratosRoutes.drop 5, rfl, by decide⟩
  · exact ⟨kratosRoutes.take 5, kratosRoutes.drop 6, rfl, by decide⟩
  · exact ⟨kratosRoutes.take 9, kratosRoutes.drop 10, rfl, by decide⟩
  · exact ⟨kratosRoutes.take 10, kratosRoutes.drop 11, rfl, by decide⟩
  · exact ⟨kratosRoutes.take 11, kratosRoutes.drop 12, rfl, by decide⟩

/-- A route that does not begin its flow comes after the one that does, and after those of all flows before
it. -/
theorem routes_after {before after : List (String × BrandedFlow)} {r : String × BrandedFlow}
    (h : kratosRoutes = before ++ r :: after) :
    (r.1 = r.2.initRoute ∨ (r.2.initRoute, r.2) ∈ before) ∧
      ∀ flow : BrandedFlow, flow.index < r.2.index → (flow.initRoute, flow) ∈ before := by
  have hall : ∀ i < 12, ∀ r ∈ kratosRoutes[i]?,
      (r.1 = r.2.initRoute ∨ (r.2.initRoute, r.2) ∈ kratosRoutes.take i) ∧
        ∀ flow ∈ BrandedFlow.all, flow.index < r.2.index →
          (flow.initRoute, flow) ∈ kratosRoutes.take i := by
    decide
  have hlength : before.length < 12 := by
    have hlength := congrArg List.length h
    simp [kratosRoutes] at hlength
    omega
  have htake : kratosRoutes.take before.length = before := by rw [h, List.take_left']; rfl
  have hget : kratosRoutes[before.length]? = some r := by rw [h]; simp
  obtain ⟨hfirst, hbefore⟩ := hall before.length hlength r hget
  rw [htake] at hfirst hbefore
  exact ⟨hfirst, fun flow => hbefore flow flow.mem_all⟩

/-- **A request goes to the flow of the first path it lies under**, with what it has behind that path. -/
theorem kratosPath_spec {path kratosPath : String} (h : paths.kratosPathForGateway path = some kratosPath) :
    ∃ flow suffix, kratosPath = initRoute flow ++ suffix ∧ path = paths.pathOf flow ++ suffix ∧
      ∀ earlier : BrandedFlow, earlier.index < flow.index → ¬ Under '/' (paths.pathOf earlier) path := by
  rw [kratosPathForGateway_eq, List.findSome?_eq_some_iff] at h
  obtain ⟨before, r, after, hroutes, hmatch, hbefore⟩ := h
  obtain ⟨suffix, hsuffix, rfl⟩ := Option.map_eq_some_iff.mp hmatch
  obtain ⟨hfirst, hearlier⟩ := routes_after hroutes
  have hnone : ∀ flow : BrandedFlow, (flow.initRoute, flow) ∈ before →
      ¬ Under '/' (paths.pathOf flow) path := by
    intro flow hflow
    rw [← matchPrefix_eq_none]
    simpa using hbefore _ hflow
  have hinit : r.1 = r.2.initRoute := by
    apply hfirst.resolve_right
    intro hmem
    apply hnone r.2 hmem
    rw [← matchPrefix_isSome_iff, hsuffix]
    rfl
  refine ⟨r.2, suffix, by rw [hinit], (matchPrefix_eq_some.mp hsuffix).1, ?_⟩
  intro earlier hindex
  exact hnone earlier (hearlier earlier hindex)

/-- A request that lies under no earlier path goes to the flow. -/
theorem kratosPath_of_undisturbed {path suffix : String} {flow : BrandedFlow}
    (hearlier : ∀ earlier : BrandedFlow, earlier.index < flow.index →
      ¬ Under '/' (paths.pathOf earlier) path)
    (hpath : path = paths.pathOf flow ++ suffix) (hsuffix : suffix = "" ∨ startsWith suffix "/" = true) :
    paths.kratosPathForGateway path = some (flow.initRoute ++ suffix) := by
  obtain ⟨before, after, hroutes, hbefore⟩ := routes_before flow
  rw [kratosPathForGateway_eq, List.findSome?_eq_some_iff]
  refine ⟨before, _, after, hroutes, ?_, fun r hr => ?_⟩
  · rw [matchPrefix_eq_some.mpr ⟨hpath, hsuffix⟩]
    rfl
  · rw [matchPrefix_eq_none.mpr (hearlier r.2 (hbefore r hr))]
    rfl

/-! ## Routes -/

/-- A route lies under no earlier one, and none earlier than the OIDC callback has anything in common with
it. -/
theorem routes_apart {before after : List (String × BrandedFlow)} {r : String × BrandedFlow}
    (h : kratosRoutes = before ++ r :: after) : ∀ x ∈ before, ¬ Under '/' x.1 r.1 ∧
      (r.2 = .oidcCallback → ¬ Under '/' r.1 x.1) := by
  have hall : ∀ i < 12, ∀ r ∈ kratosRoutes[i]?, ∀ x ∈ kratosRoutes.take i, ¬ Under '/' x.1 r.1 ∧
      (r.2 = .oidcCallback → ¬ Under '/' r.1 x.1) := by
    decide
  have hlength : before.length < 12 := by
    have hlength := congrArg List.length h
    simp [kratosRoutes] at hlength
    omega
  have htake : kratosRoutes.take before.length = before := by rw [h, List.take_left']; rfl
  have hget : kratosRoutes[before.length]? = some r := by rw [h]; simp
  intro x hx
  rw [← htake] at hx
  exact hall before.length hlength r hget x hx

/-- What lies under a route, and under none before it. -/
theorem gatewayPath_of_undisturbed {before after : List (String × BrandedFlow)} {r : String × BrandedFlow}
    (h : kratosRoutes = before ++ r :: after) {suffix : String}
    (hbefore : ∀ x ∈ before, ¬ Under '/' x.1 (r.1 ++ suffix))
    (hsuffix : suffix = "" ∨ startsWith suffix "/" = true) :
    paths.gatewayPathForKratos (r.1 ++ suffix) = some (paths.pathOf r.2 ++ suffix) := by
  rw [gatewayPathForKratos_eq, List.findSome?_eq_some_iff]
  refine ⟨before, r, after, h, ?_, fun x hx => ?_⟩
  · rw [matchPrefix_eq_some.mpr ⟨rfl, hsuffix⟩]
    rfl
  · rw [matchPrefix_eq_none.mpr (hbefore x hx)]
    rfl

/-- A route of Kratos is shown under the path of its flow. -/
theorem gatewayPath_of_mem {r : String × BrandedFlow} (hr : r ∈ kratosRoutes) :
    paths.gatewayPathForKratos r.1 = some (paths.pathOf r.2) := by
  obtain ⟨before, after, hroutes⟩ := List.append_of_mem hr
  have hpath : paths.gatewayPathForKratos (r.1 ++ "") = some (paths.pathOf r.2 ++ "") :=
    gatewayPath_of_undisturbed hroutes (fun x hx => by simpa using (routes_apart hroutes x hx).1) (.inl rfl)
  simpa using hpath

theorem under_append_slash (base suffix : String) : Under '/' base (base ++ ("/" ++ suffix)) := by
  right
  simp [startsWith]

/-- So is what follows the route of the OIDC callback. -/
theorem gatewayPath_oidc (provider : String) :
    paths.gatewayPathForKratos ("/self-service/methods/oidc/callback" ++ ("/" ++ provider)) =
      some (paths.oidcCallback ++ ("/" ++ provider)) := by
  obtain ⟨before, after, hroutes, -⟩ := routes_before .oidcCallback
  refine gatewayPath_of_undisturbed hroutes (fun x hx hunder => ?_) (.inr (by simp [startsWith]))
  obtain ⟨hunder', hapart⟩ := routes_apart hroutes x hx
  rcases hunder.comparable (under_append_slash _ provider) with hlong | hshort
  · exact hunder' hlong
  · exact hapart rfl hshort

/-! ## There and back -/

/-- The path of the flow is sent to a route of the flow, whose path it is. -/
def RoundTrip (paths : SelfServicePaths) (flow : BrandedFlow) : Prop :=
  ∃ k, (k, flow) ∈ kratosRoutes ∧ paths.kratosPathForGateway (paths.pathOf flow) = some k ∧
    paths.gatewayPathForKratos k = some (paths.pathOf flow)

/-- So is what follows the path of the OIDC callback. -/
def ProviderTrip (paths : SelfServicePaths) : Prop :=
  ∀ provider : String, ∃ k, paths.kratosPathForGateway (paths.oidcCallback ++ ("/" ++ provider)) =
      some (k ++ ("/" ++ provider)) ∧ (k, .oidcCallback) ∈ kratosRoutes ∧
    paths.gatewayPathForKratos (k ++ ("/" ++ provider)) = some (paths.oidcCallback ++ ("/" ++ provider))

/-- No path lies under that of an earlier flow. -/
def NoCapture (paths : SelfServicePaths) : Prop :=
  ∀ a ∈ BrandedFlow.all, ∀ b ∈ BrandedFlow.all, a.index < b.index →
    ¬ Under '/' (paths.pathOf a) (paths.pathOf b)

instance (paths : SelfServicePaths) : Decidable (NoCapture paths) :=
  inferInstanceAs (Decidable (∀ a ∈ BrandedFlow.all, ∀ b ∈ BrandedFlow.all, _ → ¬ _))

theorem initRoute_mem (flow : BrandedFlow) : (flow.initRoute, flow) ∈ kratosRoutes := by
  cases flow <;> decide

/-- A route that the first route of a flow begins is one of the flow. -/
theorem flow_of_route {k suffix : String} {flow flow' : BrandedFlow} (hk : (k, flow) ∈ kratosRoutes)
    (hroute : k = flow'.initRoute ++ suffix) : flow' = flow := by
  have hall : ∀ r ∈ kratosRoutes, ∀ flow ∈ BrandedFlow.all,
      flow.initRoute.toList <+: r.1.toList → flow = r.2 := by decide
  apply hall _ hk _ flow'.mem_all
  rw [hroute, String.toList_append]
  exact List.prefix_append _ _

theorem roundTrip_of_noCapture (h : NoCapture paths) (flow : BrandedFlow) : RoundTrip paths flow := by
  refine ⟨flow.initRoute, initRoute_mem flow, ?_, gatewayPath_of_mem (initRoute_mem flow)⟩
  have hpath : paths.kratosPathForGateway (paths.pathOf flow) = some (flow.initRoute ++ "") :=
    kratosPath_of_undisturbed (fun earlier => h earlier earlier.mem_all flow flow.mem_all) (by simp) (.inl rfl)
  simpa using hpath

/-- **Each path leads to its own flow just if no path lies under an earlier one.** -/
theorem roundTrip_iff : (∀ flow, RoundTrip paths flow) ↔ NoCapture paths := by
  refine ⟨fun h a _ b _ hindex hunder => ?_, roundTrip_of_noCapture⟩
  obtain ⟨k, hk, hpath, -⟩ := h b
  obtain ⟨flow, suffix, hroute, -, hearlier⟩ := kratosPath_spec hpath
  obtain rfl := flow_of_route hk hroute
  exact hearlier a hindex hunder

/-- No path of an accepted configuration continues that of the OIDC callback. -/
theorem not_under_of_validatePairs {oidc : String} {vars : List (String × String)}
    (h : SelfServicePaths.validatePairs oidc vars = .ok ()) :
    ∀ v ∈ vars, Under '/' oidc v.2 → v.2 = oidc := by
  induction vars with
  | nil => simp
  | cons v vars ih =>
      obtain ⟨var, path⟩ := v
      simp only [SelfServicePaths.validatePairs, except_bind_eq_ok, forbid_eq_ok] at h
      obtain ⟨_, -, _, hpath, hrest⟩ := h
      intro v hv hunder
      rcases List.mem_cons.mp hv with rfl | hv
      · by_contra hne
        apply hpath
        exact ⟨hne, hunder.resolve_left hne⟩
      · exact ih hrest v hv hunder

theorem pathOf_mem_vars (paths : SelfServicePaths) (flow : BrandedFlow) : ∃ v ∈ paths.vars, v.2 = paths.pathOf flow := by
  cases flow <;> simp [SelfServicePaths.vars, SelfServicePaths.pathOf]

theorem eq_oidc_of_under (h : paths.validate = .ok ()) {flow : BrandedFlow}
    (hunder : Under '/' paths.oidcCallback (paths.pathOf flow)) : paths.pathOf flow = paths.oidcCallback := by
  unfold SelfServicePaths.validate at h
  obtain ⟨_, -, hpairs⟩ := except_bind_eq_ok.mp h
  obtain ⟨v, hv, hpath⟩ := pathOf_mem_vars paths flow
  rw [← hpath] at hunder ⊢
  exact not_under_of_validatePairs hpairs v hv hunder

/-- What the callback is asked for a provider comes from no other flow. -/
theorem providerTrip_of_noCapture (hvalid : paths.validate = .ok ()) (h : NoCapture paths) :
    ProviderTrip paths := by
  intro provider
  refine ⟨_, ?_, initRoute_mem .oidcCallback, gatewayPath_oidc provider⟩
  refine kratosPath_of_undisturbed (fun earlier hindex hunder => ?_) rfl (.inr (by simp [startsWith]))
  have hapart := h earlier earlier.mem_all .oidcCallback (BrandedFlow.mem_all _) hindex
  rcases hunder.comparable (under_append_slash _ provider) with hlong | hshort
  · exact hapart hlong
  · apply hapart
    left
    exact (eq_oidc_of_under hvalid hshort).symm

end table

/-! ## Links -/

/-- The text at the base, with the query, is a URL of exactly this path and this query. -/
def AddressedAs (hosts : String → Option String) (base path query : String) : Prop :=
  ∃ url, Url.parse hosts (trimEndMatches base '/' ++ path ++ "?" ++ query) = some url ∧
    url.path = path ∧ url.query = some query

instance (hosts : String → Option String) (base path query : String) :
    Decidable (AddressedAs hosts base path query) :=
  decidable_of_iff
    (((Url.parse hosts (trimEndMatches base '/' ++ path ++ "?" ++ query)).any fun url =>
      url.path = path ∧ url.query = some query) = true)
    (by simp [AddressedAs, Option.any_eq_true])

/-- A request that is bounced comes to Kratos as it was. -/
def Reaches (hosts : String → Option String) (st : SelfServiceState) (path query : String) : Prop :=
  ∃ url, buildUpstreamUrl hosts st.kratosPublicUrl path = some url ∧
    bounce hosts st path query = some (path, { url with query := some query })

/-- The flows whose emails carry links of Kratos' own shape. -/
def linkRoutes : List (String × BrandedFlow) :=
  [("/self-service/recovery", recovery), ("/self-service/verification", verification)]

/-- A URL's query holds nothing that is escaped in a query. -/
theorem querySet_of_escaped {c : Char} {l : List Char} (hc : c ∈ l.flatMap (escape querySet)) :
    querySet c = false := by
  obtain ⟨d, -, hd⟩ := List.mem_flatMap.mp hc
  unfold escape at hd
  split at hd
  · have hdigits : ∀ n, querySet (upperHexDigit n) = false := by decide
    rcases mem_percentEncodeChar hd with rfl | ⟨n, rfl⟩
    · decide
    · exact hdigits n
  · rename_i hset
    rw [List.mem_singleton] at hd
    rw [hd]
    simpa using hset

/-- The query of a URL is set on another as it is. -/
theorem setQuery_of_parse {hosts : String → Option String} {s : String} {u : Url}
    (hu : Url.parse hosts s = some u) (url : Url) : url.setQuery u.query = { url with query := u.query } := by
  obtain ⟨head, tail, hclean, hhead, htail⟩ := exists_head_tail (cleanUrl s.toList)
  rw [parse_of_clean hclean hhead htail, Option.map_eq_some_iff] at hu
  obtain ⟨r, -, rfl⟩ := hu
  rcases hquery : queryText tail with _ | q
  · rfl
  · have hplain : ∀ c ∈ q.flatMap (escape querySet), querySet c = false := fun c hc => querySet_of_escaped hc
    have htabs : withoutTabs (q.flatMap (escape querySet)) = q.flatMap (escape querySet) := by
      rw [withoutTabs, List.filter_eq_self]
      intro c hc
      have hset := hplain c hc
      simp only [isTabOrNewline, decide_eq_true_eq, Bool.or_eq_false_iff, decide_eq_false_iff_not]
      refine ⟨⟨?_, ?_⟩, ?_⟩ <;> (rintro rfl; exact absurd hset (by decide))
    simp [Url.setQuery, htabs, flatMap_escape hplain]

section links

variable {hosts : String → Option String} {st : SelfServiceState} {r : String × BrandedFlow} {query : String}

/-- What is submitted to a link's route comes from the first route of its flow. -/
theorem eq_of_tokenSubmissionPath (hr : r ∈ linkRoutes) {flow : BrandedFlow} {suffix : String}
    (h : tokenSubmissionPath (flow.initRoute ++ suffix) = r.1) : flow = r.2 ∧ suffix = "" := by
  have hroutes : ∀ r ∈ linkRoutes, ∀ k, tokenSubmissionPath k = r.1 → k = r.2.initRoute ∨ k = r.1 := by
    intro r hr k hk
    unfold tokenSubmissionPath at hk
    simp only [linkRoutes, List.mem_cons, List.not_mem_nil, or_false] at hr
    split_ifs at hk with h1 h2 h3
    · left
      rcases hr with rfl | rfl
      · exact h1
      · exact absurd hk (by decide)
    · left
      rcases hr with rfl | rfl
      · exact absurd hk (by decide)
      · exact h2
    · rcases hr with rfl | rfl <;> exact absurd hk (by decide)
    · exact .inr hk
  have hnone : ∀ r ∈ linkRoutes, ∀ flow ∈ BrandedFlow.all, ¬ flow.initRoute.toList <+: r.1.toList := by
    decide
  rcases hroutes r hr _ h with hinit | hsame
  · obtain rfl := flow_of_route (initRoute_mem r.2) hinit.symm
    refine ⟨rfl, ?_⟩
    have hlist := congrArg String.toList hinit
    rw [String.toList_append, List.append_right_eq_self] at hlist
    rw [← String.toList_inj, hlist]
    rfl
  · refine absurd ?_ (hnone r hr flow flow.mem_all)
    rw [← hsame, String.toList_append]
    exact List.prefix_append _ _

theorem tokenSubmissionPath_initRoute (hr : r ∈ linkRoutes) : tokenSubmissionPath r.2.initRoute = r.1 := by
  revert r
  decide

theorem redirectToBranded_link (hr : r ∈ linkRoutes) : redirectToBranded st r.1 (some query) =
    some (trimEndMatches st.gatewayPublicUrl '/' ++ st.paths.pathOf r.2 ++ "?" ++ query) := by
  have hroutes : ∀ r ∈ linkRoutes, r ∈ kratosRoutes := by decide
  rw [redirectToBranded, gatewayPath_of_mem (hroutes r hr)]
  rfl

/-- **A link comes to Kratos as it was** just if its branded location has exactly the branded path and the
query, provided that this path leads to its own flow. -/
theorem reaches_iff (hr : r ∈ linkRoutes) (htoken : carriesToken (some query) = true)
    (hown : st.paths.kratosPathForGateway (st.paths.pathOf r.2) = some r.2.initRoute) :
    Reaches hosts st r.1 query ↔ AddressedAs hosts st.gatewayPublicUrl (st.paths.pathOf r.2) query ∧
      (buildUpstreamUrl hosts st.kratosPublicUrl r.1).isSome := by
  unfold Reaches bounce
  rw [redirectToBranded_link hr, Option.bind_some]
  constructor
  · rintro ⟨url, hurl, hbounce⟩
    obtain ⟨target, htarget, hproxy⟩ := Option.bind_eq_some_iff.mp hbounce
    obtain ⟨u, hu, rfl⟩ := Option.map_eq_some_iff.mp htarget
    obtain ⟨k, hk, hrequest⟩ := Option.bind_eq_some_iff.mp hproxy
    obtain ⟨url', -, hsame⟩ := Option.map_eq_some_iff.mp hrequest
    rw [Prod.mk.injEq, setQuery_of_parse hu] at hsame
    obtain ⟨hroute, hquery⟩ := hsame
    have hsent : u.query = some query := congrArg Url.query hquery
    rw [hsent, if_pos htoken] at hroute
    obtain ⟨flow, suffix, rfl, hpath, -⟩ := kratosPath_spec hk
    obtain ⟨rfl, rfl⟩ := eq_of_tokenSubmissionPath hr hroute
    refine ⟨⟨u, hu, by simpa using hpath, hsent⟩, ?_⟩
    rw [hurl]
    rfl
  · rintro ⟨⟨u, hu, hpath, hquery⟩, hsome⟩
    obtain ⟨url, hurl⟩ := Option.isSome_iff_exists.mp hsome
    refine ⟨url, hurl, ?_⟩
    have hset : url.setQuery u.query = { url with query := u.query } := setQuery_of_parse hu url
    have htarget : followLocation hosts (trimEndMatches st.gatewayPublicUrl '/' ++ st.paths.pathOf r.2 ++ "?" ++
        query) = some (st.paths.pathOf r.2, some query) := by
      rw [followLocation, hu, Option.map_some, hpath, hquery]
    rw [htarget, Option.bind_some, proxyBranded, hown, Option.bind_some, if_pos htoken,
      tokenSubmissionPath_initRoute hr]
    dsimp only
    rw [hurl, Option.map_some, ← hquery, hset]

end links

/-- **Branded paths and email links translate faithfully just if** no configured path lies under that of an
earlier flow, each branded location is read as its path and the query, and the base of Kratos is one. -/
theorem branded_faithful_iff {hosts : String → Option String} {st : SelfServiceState} {query : String}
    (hvalid : st.paths.validate = .ok ()) (htoken : carriesToken (some query) = true) :
    ((∀ flow, RoundTrip st.paths flow) ∧ ProviderTrip st.paths ∧
        ∀ r ∈ linkRoutes, Reaches hosts st r.1 query) ↔
      NoCapture st.paths ∧ ∀ r ∈ linkRoutes,
        AddressedAs hosts st.gatewayPublicUrl (st.paths.pathOf r.2) query ∧
          (buildUpstreamUrl hosts st.kratosPublicUrl r.1).isSome := by
  have hown : NoCapture st.paths → ∀ flow,
      st.paths.kratosPathForGateway (st.paths.pathOf flow) = some flow.initRoute := by
    intro h flow
    have hpath : st.paths.kratosPathForGateway (st.paths.pathOf flow) = some (flow.initRoute ++ "") :=
      kratosPath_of_undisturbed (fun earlier => h earlier earlier.mem_all flow flow.mem_all) (by simp)
        (.inl rfl)
    simpa using hpath
  constructor
  · rintro ⟨htrip, -, hlinks⟩
    have hapart : NoCapture st.paths := roundTrip_iff.mp htrip
    exact ⟨hapart, fun r hr => (reaches_iff hr htoken (hown hapart r.2)).mp (hlinks r hr)⟩
  · rintro ⟨hapart, hlinks⟩
    refine ⟨roundTrip_iff.mpr hapart, providerTrip_of_noCapture hvalid hapart, fun r hr => ?_⟩
    exact (reaches_iff hr htoken (hown hapart r.2)).mpr (hlinks r hr)

/-- An installation with the default paths. -/
def defaultSelfService : SelfServiceState := ⟨"http://kratos:4433", "https://sso.example.com/", .default⟩

/-- Under the default paths, every path and the links of Kratos come back as they were. -/
theorem branded_faithful_default : (∀ flow, RoundTrip defaultSelfService.paths flow) ∧
    ProviderTrip defaultSelfService.paths ∧
      ∀ r ∈ linkRoutes, Reaches asciiHosts defaultSelfService r.1 "token=abc" := by
  refine (branded_faithful_iff ?_ ?_).mpr ⟨?_, ?_⟩
  · exact validate_default
  · decide +kernel
  · decide
  · decide +kernel

/-- Paths that are accepted although the login's begins the recovery's. -/
def capturingPaths : SelfServicePaths :=
  { SelfServicePaths.default with login := "/identity" }

/-- **The login takes the requests for the recovery**: its path begins the other, and it comes first. A link
with a token ends at Kratos' login. -/
theorem branded_recovery_captured : capturingPaths.validate = .ok () ∧
    capturingPaths.kratosPathForGateway capturingPaths.recovery =
      some "/self-service/login/browser/recovery" ∧
    carriesToken (some "token=abc") = true ∧
    (bounce asciiHosts ⟨"http://kratos:4433", "https://sso.example.com", capturingPaths⟩
      "/self-service/recovery" "token=abc").map Prod.fst = some "/self-service/login/browser/recovery" ∧
    ¬ RoundTrip capturingPaths .recovery := by
  have hlogin : capturingPaths.kratosPathForGateway capturingPaths.recovery =
      some "/self-service/login/browser/recovery" := by decide
  refine ⟨by decide, hlogin, by decide +kernel, by decide +kernel, ?_⟩
  rintro ⟨k, hk, hpath, -⟩
  have hroute : k = "/self-service/login/browser/recovery" := by
    have hsame := hpath.symm.trans hlogin
    simpa using hsame
  subst hroute
  revert hk
  decide

end SsoGateway
