import SsoGateway.UpstreamOauth

/-!
# The addresses that are dialled

Which addresses a login callback makes the gateway dial. The guard looks at the address a configured
URL names, and at those a name resolves to; it does not look at the address a redirect names, nor at
any of a request for the provider's keys, and it takes `fc00::/7` for public.

* `IpAddr.Internal` — the addresses that are to stay out of reach.
* `internal_iff` — what the guard forbids of them.
* `ExternalConfig`, `Benign` — a configuration, and an answer, with nothing internal that the guard
  lets through.
* `dials_external` — the run of a callback that meets no other.
* `internal_dialled` — three ways to an internal address.
-/

namespace SsoGateway

open Lib

/-! ## Internal addresses -/

namespace IpAddr

/-- The IPv4 address that a mapped one stands for, or the address itself. -/
def canonical : IpAddr → IpAddr
  | .v4 ip => .v4 ip
  | .v6 ip => (ip.toIpv4Mapped.map .v4).getD (.v6 ip)

/-- `fc00::/7`. -/
def isUniqueLocal : IpAddr → Bool
  | .v4 _ => false
  | .v6 ip => ip.isUniqueLocal

/-- Unspecified, loopback, link-local or private, in either form. -/
def isInternal (ip : IpAddr) : Bool :=
  match ip.canonical with
  | .v4 ip => ip.isUnspecified || ip.isLoopback || ip.isLinkLocal || ip.isPrivate
  | .v6 ip => ip.isUnspecified || ip.isLoopback || ip.isLinkLocal || ip.isUniqueLocal

/-- See `isInternal`. -/
def Internal (ip : IpAddr) : Prop := ip.isInternal = true

instance : DecidablePred Internal := fun ip => inferInstanceAs (Decidable (ip.isInternal = true))

end IpAddr

theorem isUniqueLocal_of_mapped {ip : Ipv6Addr} {a : Ipv4Addr} (h : ip.toIpv4Mapped = some a) :
    ip.isUniqueLocal = false ∧ ip.isUnspecified = false := by
  unfold Ipv6Addr.toIpv4Mapped at h
  split at h
  · rename_i hmapped
    obtain ⟨h0, -, -, -, -, h5⟩ := hmapped
    refine ⟨?_, ?_⟩
    · simp [Ipv6Addr.isUniqueLocal, h0]
    · simp only [Ipv6Addr.isUnspecified, decide_eq_false_iff_not]
      rintro rfl
      exact absurd h5 (by decide)
  · cases h

/-- The guard forbids the internal addresses but those of `fc00::/7`. -/
theorem internal_iff (ip : IpAddr) :
    ip.Internal ↔ isForbiddenIp ip = true ∨ ip.isUniqueLocal = true := by
  unfold IpAddr.Internal IpAddr.isInternal isForbiddenIp
  cases ip with
  | v4 ip =>
      simp only [IpAddr.canonical, IpAddr.isUniqueLocal, IpAddr.isUnspecified]
      by_cases hunspecified : ip.isUnspecified = true <;> simp [hunspecified]
  | v6 ip =>
      rcases hmapped : ip.toIpv4Mapped with _ | a
      · simp only [IpAddr.canonical, hmapped, IpAddr.isUniqueLocal, IpAddr.isUnspecified]
        by_cases hunspecified : ip.isUnspecified = true <;> simp [hunspecified]
      · obtain ⟨hlocal, hspecified⟩ := isUniqueLocal_of_mapped hmapped
        simp only [IpAddr.canonical, hmapped, IpAddr.isUniqueLocal, IpAddr.isUnspecified, hlocal,
          hspecified, isForbiddenIpv4]
        by_cases hunspecified : a.isUnspecified = true <;> simp [hunspecified]

/-! ## What the guard lets through -/

/-- The URL names no internal address. -/
def UpstreamUrl.External (url : UpstreamUrl) : Prop := ∀ ip, url.host = some (.ip ip) → ¬ ip.Internal

/-- The URL that a configuration has under a key, as it is parsed. -/
def ConfiguredUrl (lib : UpstreamLibraries) (config : Value) (key : String) (url : UpstreamUrl) : Prop :=
  ∃ text, (config.index key).asStr = some text ∧ lib.parseUrl text = .ok url

/-- The configured URLs name no internal address that the guard does not refuse. -/
structure ExternalConfig (lib : UpstreamLibraries) (connectionType : String) (config : Value) : Prop where
  guarded : ∀ key ∈ ["token_url", "userinfo_url"], ∀ url, ConfiguredUrl lib config key url →
    ∀ ip, url.host = some (.ip ip) → ip.isUniqueLocal = false
  jwks : connectionType = "oidc" → ∀ url, ConfiguredUrl lib config "jwks_url" url → url.External

/-- An answer brings no internal address that the guard does not refuse: a client is given none of
`fc00::/7`, and none at all for the provider's keys, and no redirect names one. -/
def Benign : NetOp → NetChoice → Prop
  | .lookupHost (.connect endpoint) _, c => ∀ ips, c.addresses = .ok ips → ∀ ip ∈ ips,
      ip.isUniqueLocal = false ∧ (endpoint = .jwks → ¬ ip.Internal)
  | .dial _, c => ∀ response, c.response = .ok response → ∀ next, response.location = some next →
      next.External
  | _, _ => True

/-- Under benign answers, no internal address is dialled. -/
abbrev NetContract : Contract NetSig NetChoice JwksCache :=
  .alone (fun op c _ => Benign op c) fun op _ _ => ∀ d, op = .dial d → ¬ d.address.Internal

section heeds

variable {ε α β : Type} {P : α → Prop} {Q : β → Prop}

/-- A program keeps the contract, and what it yields has a property. -/
def Heeds (P : α → Prop) (p : ExceptT ε (Prog NetSig) α) : Prop :=
  ∀ cache, p.run.Sat network NetContract (Prog.OnOk fun a _ => P a) cache

theorem Heeds.mk {r : Except ε α} (hr : ∀ a, r = .ok a → P a) :
    Heeds P (ExceptT.mk (pure r) : ExceptT ε (Prog NetSig) α) :=
  fun _ => Prog.onOk_run_mk hr

theorem Heeds.throw (e : ε) : Heeds P (MonadExcept.throw e : ExceptT ε (Prog NetSig) α) :=
  fun _ => trivial

theorem Heeds.return {a : α} (ha : P a) : Heeds P (pure a : ExceptT ε (Prog NetSig) α) :=
  fun _ => ha

theorem Heeds.bind {p : ExceptT ε (Prog NetSig) α} {f : α → ExceptT ε (Prog NetSig) β}
    (hp : Heeds P p) (hf : ∀ a, P a → Heeds Q (f a)) : Heeds Q (p >>= f) :=
  fun cache => Prog.onOk_run_bind (hp cache) fun a cache' ha => hf a ha cache'

theorem Heeds.orThrow {ε' : Type} {f : ε → ε'} {p : ExceptT ε (Prog NetSig) α} (hp : Heeds P p) :
    Heeds P (Prog.orThrow f p.run) :=
  fun cache => Prog.onOk_run_orThrow (hp cache)

/-- A call that dials nothing. -/
theorem Heeds.call {op : NetOp} (hop : ∀ d, op ≠ .dial d) :
    Heeds (fun _ => True) (Prog.attempt (netCall op) : ExceptT ε (Prog NetSig) op.Res) := by
  intro cache
  refine Prog.onOk_run_attempt (Prog.sat_perform.mpr ?_)
  rintro _ rfl c -
  exact ⟨fun d hd => absurd hd (hop d), trivial⟩

end heeds

/-! ## The client -/

section client

variable {resolver : DnsResolver} {endpoint : UpstreamEndpoint} {redirected : Bool} {url : UpstreamUrl}

/-- An answer to a client's question, when it is benign. -/
theorem heeds_lookupHost {ε : Type} {f : String → ε} (name : String) :
    Heeds (fun ips => ∀ ip ∈ ips, ip.isUniqueLocal = false ∧ (endpoint = .jwks → ¬ ip.Internal))
      (Prog.orThrow f (netCall (.lookupHost (.connect endpoint) (.domain name)))) := by
  intro cache
  refine Prog.onOk_run_orThrow (Prog.sat_perform.mpr ?_)
  rintro _ rfl c hbenign
  refine ⟨fun d hd => ?_, Prog.onOk_iff.mpr hbenign⟩
  cases hd

/-- The safe resolver leaves out the addresses that are forbidden. -/
theorem heeds_safeResolve (name : String) :
    Heeds (fun ips => ∀ ip ∈ ips, ¬ ip.Internal) (safeResolve endpoint (.domain name)) := by
  unfold safeResolve
  apply (heeds_lookupHost name).bind
  intro addrs haddrs
  dsimp only
  split
  · exact Heeds.throw _
  · refine Heeds.return fun ip hip => ?_
    obtain ⟨hmem, hallowed⟩ := List.mem_filter.mp hip
    rw [internal_iff, (haddrs ip hmem).1]
    simpa using hallowed

/-- The addresses a client is given, by the safe resolver or for the provider's keys. -/
theorem heeds_clientAddresses (hresolver : resolver = .safe ∨ endpoint = .jwks) {host : NetHost}
    (hhost : ∀ ip, host = .ip ip → ¬ ip.Internal) :
    Heeds (fun ips => ∀ ip ∈ ips, ¬ ip.Internal) (clientAddresses resolver endpoint host) := by
  cases host with
  | ip ip =>
      refine Heeds.return ?_
      simpa using hhost ip rfl
  | domain name =>
      cases resolver with
      | safe => exact heeds_safeResolve name
      | system =>
          have hjwks : endpoint = .jwks := by simpa using hresolver
          intro cache
          refine (heeds_lookupHost name cache).post fun r _ hr => ?_
          exact Prog.OnOk.mono (fun ips _ hips ip hip => (hips ip hip).2 hjwks) hr

/-- Where an answer redirects to. -/
theorem heeds_dialAll {ips : List IpAddr} (hips : ∀ ip ∈ ips, ¬ ip.Internal) :
    Heeds (fun response => ∀ next, response.location = some next → next.External)
      (dialAll endpoint url redirected ips) := by
  induction ips with
  | nil => exact Heeds.throw _
  | cons ip ips ih =>
      intro cache
      refine Prog.sat_run_bind.mpr (Prog.sat_run_attempt.mpr (Prog.sat_perform.mpr ?_))
      rintro _ rfl c hbenign
      refine ⟨?_, ?_⟩
      · rintro d hd
        cases hd
        exact hips ip List.mem_cons_self
      · rcases hanswer : c.response with e | response
        · simp only [network, hanswer]
          exact ih (fun ip hip => hips ip (List.mem_cons_of_mem _ hip)) cache
        · simp only [network, hanswer]
          exact hbenign response hanswer

theorem heeds_requestOnce (hresolver : resolver = .safe ∨ endpoint = .jwks) (hurl : url.External) :
    Heeds (fun response => ∀ next, response.location = some next → next.External)
      (requestOnce resolver endpoint redirected url) := by
  unfold requestOnce
  rcases hhost : url.host with _ | host
  · exact Heeds.throw _
  · refine (heeds_clientAddresses hresolver fun ip hip => hurl ip ?_).bind fun ips hips => heeds_dialAll hips
    rw [hhost, hip]

/-- By induction on the redirects that are left: each leads to a URL that names no internal address. -/
theorem heeds_sendWithin (hresolver : resolver = .safe ∨ endpoint = .jwks) (left : ℕ)
    (hurl : url.External) :
    Heeds (fun _ => True) (sendWithin resolver endpoint left redirected url) := by
  induction left generalizing redirected url with
  | zero =>
      apply (heeds_requestOnce hresolver hurl).bind
      intro response _
      split
      · exact Heeds.throw _
      · exact Heeds.return trivial
  | succ left ih =>
      apply (heeds_requestOnce hresolver hurl).bind
      intro response hresponse
      rcases hnext : response.location with _ | next
      · exact Heeds.return trivial
      · exact ih (hresponse next hnext)

theorem heeds_send (hresolver : resolver = .safe ∨ endpoint = .jwks) (hurl : url.External) :
    Heeds (fun _ => True) (send resolver endpoint url) := heeds_sendWithin hresolver 10 hurl

end client

/-! ## The fetches -/

section fetches

variable {lib : UpstreamLibraries}

/-- The check of a URL refuses an address that is forbidden. -/
theorem validateUpstreamUrl_ok {text : String} {url : UpstreamUrl} {ip : IpAddr}
    (h : validateUpstreamUrl lib text = .ok ()) (hparse : lib.parseUrl text = .ok url)
    (hhost : url.host = some (.ip ip)) : isForbiddenIp ip = false := by
  simp only [validateUpstreamUrl, hparse, hhost] at h
  by_contra hforbidden
  rw [Bool.not_eq_false] at hforbidden
  simp only [NetHost.isForbiddenLiteral, hforbidden, if_true] at h
  split at h
  · cases h
  · split at h
    · cases h
    · cases h

theorem heeds_validateResolvedIpsForUrl (text : String) :
    Heeds (fun _ => True) (validateResolvedIpsForUrl lib text) := by
  unfold validateResolvedIpsForUrl
  refine (Heeds.mk fun _ _ => trivial).bind fun parsed _ => ?_
  split
  · exact Heeds.throw _
  · intro cache
    refine Prog.onOk_run_bind (P := fun _ _ => True) (Prog.onOk_run_orThrow (Prog.sat_perform.mpr ?_)) ?_
    · rintro _ rfl c -
      refine ⟨fun d hd => ?_, Prog.onOk_iff.mpr fun _ _ => trivial⟩
      cases hd
    · intro addrs cache' _
      split
      · exact trivial
      · exact trivial

/-- A guarded request, where the URL is none of `fc00::/7`. -/
theorem heeds_guardedSend {endpoint : UpstreamEndpoint} {text : String}
    (hurl : ∀ url, lib.parseUrl text = .ok url → ∀ ip, url.host = some (.ip ip) →
      ip.isUniqueLocal = false) :
    Heeds (fun _ => True) (guardedSend lib endpoint text) := by
  unfold guardedSend
  refine Heeds.bind (P := fun _ => validateUpstreamUrl lib text = .ok ()) (Heeds.mk ?_) ?_
  · intro u h
    rcases hvalid : validateUpstreamUrl lib text with e | u'
    · rw [hvalid] at h
      cases h
    · rfl
  intro _ hvalid
  refine (heeds_validateResolvedIpsForUrl text).bind fun _ _ => ?_
  split
  · exact Heeds.throw _
  · rename_i parsed hparse
    refine (heeds_send (.inl rfl) fun ip hip => ?_).orThrow
    rw [internal_iff, validateUpstreamUrl_ok hvalid hparse hip, hurl parsed hparse ip hip]
    simp

variable {connectionType : String} {config : Value}

theorem configText_ok {key text : String} (h : configText config key = .ok text) :
    (config.index key).asStr = some text := by
  unfold configText at h
  split at h
  · rename_i hfound
    rw [hfound, Except.ok.inj h]
  · cases h

theorem heeds_exchangeCode (hconfig : ExternalConfig lib connectionType config) :
    Heeds (fun _ => True) (exchangeCode lib config) := by
  unfold exchangeCode
  refine (Heeds.mk fun _ h => h).bind fun tokenUrl htoken => ?_
  refine (Heeds.mk fun _ _ => trivial).bind fun _ _ => ?_
  refine (Heeds.mk fun _ _ => trivial).bind fun _ _ => ?_
  refine (heeds_guardedSend fun url hparse => ?_).bind fun _ _ => Heeds.mk fun _ _ => trivial
  exact hconfig.guarded "token_url" (by simp) url ⟨tokenUrl, configText_ok htoken, hparse⟩

theorem heeds_fetchUserinfo (hconfig : ExternalConfig lib connectionType config) :
    Heeds (fun _ => True) (fetchUserinfo lib config) := by
  unfold fetchUserinfo
  refine (Heeds.mk fun _ h => h).bind fun userinfoUrl huserinfo => ?_
  refine (heeds_guardedSend fun url hparse => ?_).bind fun _ _ => ?_
  · exact hconfig.guarded "userinfo_url" (by simp) url ⟨userinfoUrl, configText_ok huserinfo, hparse⟩
  · exact (Heeds.mk fun _ _ => trivial).bind fun _ _ => Heeds.return trivial

/-- The request for the keys has no guard. -/
theorem heeds_requestJwks {text : String} (hurl : ∀ url, lib.parseUrl text = .ok url → url.External) :
    Heeds (fun _ => True) (requestJwks lib text) := by
  unfold requestJwks
  split
  · exact Heeds.throw _
  · rename_i parsed hparse
    refine (heeds_send (.inr rfl) (hurl parsed hparse)).orThrow.bind fun response _ => ?_
    split
    · exact Heeds.return trivial
    · exact Heeds.throw _

theorem heeds_fetchJwks {text : String} (hurl : ∀ url, lib.parseUrl text = .ok url → url.External) :
    Heeds (fun _ => True) (fetchJwks lib text) := by
  unfold fetchJwks
  refine (Heeds.call fun d hd => ?_).bind fun now _ => ?_
  · cases hd
  refine (Heeds.call fun d hd => ?_).bind fun cached _ => ?_
  · cases hd
  split
  · exact Heeds.return trivial
  · refine (heeds_requestJwks hurl).bind fun keys _ => ?_
    refine (Heeds.call fun d hd => ?_).bind fun _ _ => Heeds.return trivial
    cases hd

theorem tokenConfig_ok {key text : String} (h : tokenConfig config key = .ok text) :
    (config.index key).asStr = some text := by
  unfold tokenConfig at h
  split at h
  · rename_i hfound
    rw [hfound, Except.ok.inj h]
  · cases h

theorem heeds_decodingKeyForToken {idToken text : String}
    (hurl : ∀ url, lib.parseUrl text = .ok url → url.External) :
    Heeds (fun _ => True) (decodingKeyForToken lib idToken text) := by
  unfold decodingKeyForToken
  split
  · exact Heeds.throw _
  · refine (heeds_fetchJwks hurl).bind fun keys _ => ?_
    split
    · exact Heeds.return trivial
    · exact Heeds.throw _

theorem heeds_validateIdToken {idToken : String} {nonce : Option String}
    (hjwks : ∀ url, ConfiguredUrl lib config "jwks_url" url → url.External) :
    Heeds (fun _ => True) (validateIdToken lib idToken config nonce) := by
  unfold validateIdToken
  refine (Heeds.mk fun _ h => h).bind fun jwksUrl htext => ?_
  refine (Heeds.mk fun _ _ => trivial).bind fun _ _ => ?_
  refine (Heeds.mk fun _ _ => trivial).bind fun _ _ => ?_
  split
  · exact Heeds.throw _
  refine (heeds_decodingKeyForToken fun url hparse => hjwks url ⟨jwksUrl, tokenConfig_ok htext, hparse⟩).bind
    fun key _ => ?_
  refine (Heeds.call fun d hd => ?_).bind fun now _ => ?_
  · cases hd
  split
  · exact Heeds.throw _
  · split
    · exact Heeds.return trivial
    · exact Heeds.throw _

/-- The keys of a provider are asked for on an OIDC connection only. -/
theorem heeds_checkIdToken {nonce idToken : Option String}
    (hconfig : ExternalConfig lib connectionType config) :
    Heeds (fun _ => True) (checkIdToken lib connectionType config nonce idToken) := by
  unfold checkIdToken
  split
  · rename_i hoidc
    split
    · exact heeds_validateIdToken (hconfig.jwks hoidc)
    · split
      · exact Heeds.throw _
      · exact Heeds.return trivial
  · exact Heeds.return trivial

theorem heeds_upstreamLogin {nonce : Option String} (hconfig : ExternalConfig lib connectionType config) :
    Heeds (fun _ => True) (upstreamLogin lib connectionType config nonce) := by
  unfold upstreamLogin
  apply (heeds_exchangeCode hconfig).orThrow.bind
  intro response _
  apply (heeds_checkIdToken hconfig).bind
  intro _ _
  exact (heeds_fetchUserinfo hconfig).orThrow

end fetches

/-! ## What a callback dials -/

/-- The connections that a callback's fetches open, in order. -/
def dials (lib : UpstreamLibraries) (connectionType : String) (config : Value) (nonce : Option String)
    (o : ℕ → NetChoice) (cache : JwksCache) : List Dial :=
  ((upstreamLogin lib connectionType config nonce).run.events network o cache).filterMap fun ev =>
    match ev.op with
    | .dial d => some d
    | _ => none

/-- **No internal address is dialled** by a callback whose configuration names none that the guard lets
through, and that is not answered with one. -/
theorem dials_external (lib : UpstreamLibraries) (connectionType : String) (config : Value)
    (nonce : Option String) (o : ℕ → NetChoice) (cache : JwksCache)
    (hconfig : ExternalConfig lib connectionType config)
    (hanswers : ∀ ev ∈ (upstreamLogin lib connectionType config nonce).run.events network o cache,
      Benign ev.op ev.choice) :
    ∀ d ∈ dials lib connectionType config nonce o cache, ¬ d.address.Internal := by
  intro d hd
  obtain ⟨ev, hev, hdial⟩ := List.mem_filterMap.mp hd
  have hguar := ((heeds_upstreamLogin hconfig cache).run_events (fun _ => rfl) hanswers).1 ev hev
  apply hguar d
  split at hdial
  · rename_i hop
    rw [hop, Option.some.inj hdial]
  · cases hdial

/-! ### Runs -/

/-- A provider at `idp.example`, whose answers are JSON. -/
def exampleLibraries : UpstreamLibraries where
  parseUrl text :=
    if text = "https://idp.example/" then .ok ⟨text, "https", some (.domain "idp.example")⟩
    else if text = "http://169.254.169.254/" then
      .ok ⟨text, "http", some (.ip (.v4 ⟨169, 254, 169, 254⟩))⟩
    else .error "relative URL without a base"
  hostText _ := ""
  displayServiceError _ := ""
  Key := Unit
  decodeHeader _ := some ⟨none, "RS256"⟩
  decodingKey _ := some ()
  decode _ _ _ _ _ _ := some ⟨none, none⟩
  parseJwks document := some [⟨none, document⟩]

/-- A connection whose keys are at a given URL. -/
def exampleConfig (jwksUrl : String) : Value :=
  .obj [("token_url", .str "https://idp.example/"), ("client_id", .str "gateway"),
    ("client_secret", .str "secret"), ("userinfo_url", .str "https://idp.example/"),
    ("jwks_url", .str jwksUrl), ("issuer", .str "idp")]

/-- An environment that answers everything the same way. -/
def always (addresses : List IpAddr) (location : Option UpstreamUrl) : ℕ → NetChoice := fun _ =>
  ⟨.ok addresses,
    .ok ⟨true, "200", "", some (.obj [("access_token", .str "a"), ("id_token", .str "i")]), location⟩, 0⟩

/-- A public address. -/
def publicAddress : IpAddr := .v4 ⟨93, 184, 216, 34⟩

/-- The URLs of that connection are those of its provider. -/
theorem example_external :
    ExternalConfig exampleLibraries "oidc" (exampleConfig "https://idp.example/") := by
  have htexts : ∀ key ∈ ["token_url", "userinfo_url", "jwks_url"],
      ((exampleConfig "https://idp.example/").index key).asStr = some "https://idp.example/" := by
    decide
  have hname : ∀ key ∈ ["token_url", "userinfo_url", "jwks_url"], ∀ url,
      ConfiguredUrl exampleLibraries (exampleConfig "https://idp.example/") key url →
      ∀ ip, url.host ≠ some (.ip ip) := by
    intro key hkey url hurl ip
    have htext := htexts key hkey
    obtain ⟨text, htext', hparse⟩ := hurl
    obtain rfl : text = "https://idp.example/" := Option.some.inj (htext'.symm.trans htext)
    obtain rfl : UpstreamUrl.mk "https://idp.example/" "https" (some (.domain "idp.example")) = url := by
      simpa [exampleLibraries] using hparse
    simp
  refine ⟨fun key hkey url hurl ip hip => ?_, fun _ url hurl ip hip => ?_⟩
  · have hkeys : key ∈ ["token_url", "userinfo_url", "jwks_url"] := by
      simp only [List.mem_cons] at hkey ⊢
      exact hkey.imp_right fun h => h.imp_right fun h => absurd h List.not_mem_nil
    exact absurd hip (hname key hkeys url hurl ip)
  · exact absurd hip (hname "jwks_url" (by simp) url hurl ip)

/-- A connection that dials its provider only. -/
theorem dials_external_public :
    (dials exampleLibraries "oidc" (exampleConfig "https://idp.example/") none
        (always [publicAddress] none) []).map Dial.endpoint = [.token, .jwks, .userinfo] ∧
      ∀ d ∈ dials exampleLibraries "oidc" (exampleConfig "https://idp.example/") none
        (always [publicAddress] none) [], ¬ d.address.Internal := by
  refine ⟨by decide, dials_external _ _ _ _ _ _ example_external fun ev hev => ?_⟩
  obtain ⟨n, hn⟩ := Prog.choice_of_mem_events hev
  have hpublic : publicAddress.isUniqueLocal = false ∧ ¬ publicAddress.Internal := by decide
  rw [hn]
  rcases ev with ⟨⟨⟨⟩ | _, _⟩ | _ | _ | _ | _, _, _⟩ <;> simp [Benign, always, hpublic]

/-- An internal address is dialled for the keys of a provider, where a redirect leads, and where a
name resolves to one of `fc00::/7`. -/
theorem internal_dialled :
    (∃ d ∈ dials exampleLibraries "oidc" (exampleConfig "http://169.254.169.254/") none
        (always [publicAddress] none) [],
      d.endpoint = .jwks ∧ d.address = .v4 ⟨169, 254, 169, 254⟩ ∧ d.address.Internal) ∧
    (∃ d ∈ dials exampleLibraries "oauth2" (exampleConfig "") none
        (always [publicAddress] (some ⟨"http://127.0.0.1/", "http", some (.ip (.v4 ⟨127, 0, 0, 1⟩))⟩)) [],
      d.endpoint = .token ∧ d.redirected = true ∧ d.address = .v4 ⟨127, 0, 0, 1⟩ ∧ d.address.Internal) ∧
    ∃ d ∈ dials exampleLibraries "oauth2" (exampleConfig "") none
        (always [.v6 ⟨0xfd00, 0, 0, 0, 0, 0, 0, 1⟩] none) [],
      d.endpoint = .token ∧ d.address = .v6 ⟨0xfd00, 0, 0, 0, 0, 0, 0, 1⟩ ∧ d.address.Internal := by
  decide

end SsoGateway
