import SsoGateway.Federation
import SsoGateway.Lib.UrlHead

/-!
# Authorization URLs

The URL that a login is sent to is the connection's endpoint, a question mark and the encoded parameters.

* `loginPairs`, `loginQuery_toList` — the parameters, and that they are what is written.
* `CarriesExactly` — a URL with an endpoint's origin, path and pairs, and some further pairs.
* `PlainEndpoint` — an endpoint that a query may be put behind.
* `authorization_url_iff` — the authorization URL carries exactly its parameters where the endpoint is plain.
* `authorization_url_query` — an endpoint with a query of its own loses `client_id`.

Source: `services/federation.rs`.
-/

namespace SsoGateway

open Lib

/-! ## The parameters -/

/-- The parameters of both authorization URLs. -/
def loginPairs (lib : FederationLibraries) (clientId scope redirectUri state codeVerifier : String) :
    List (String × String) :=
  [("client_id", clientId), ("response_type", "code"), ("scope", scope), ("redirect_uri", redirectUri),
    ("state", state), ("code_challenge", lib.codeChallenge codeVerifier),
    ("code_challenge_method", "S256")]

/-- The piece of a parameter whose name stands for itself. -/
theorem formPiece_urlEncode {name : String} (hname : urlEncode name = name) (value : String) :
    formPiece urlEncodeChar (name, value) = name.toList ++ '=' :: (urlEncode value).toList := by
  have hlist : name.toList.flatMap urlEncodeChar = name.toList := by
    rw [← String.toList_ofList (l := name.toList.flatMap urlEncodeChar), ← urlEncode_eq, hname]
  rw [formPiece, hlist, urlEncode_eq, String.toList_ofList]

/-- What is put behind the endpoint of an OAuth2 connection is the text of the parameters. -/
theorem loginQuery_toList (lib : FederationLibraries)
    (clientId scope redirectUri state codeVerifier : String) :
    (loginQuery lib clientId scope redirectUri state codeVerifier).toList =
      '?' :: formText urlEncodeChar (loginPairs lib clientId scope redirectUri state codeVerifier) := by
  have hfirst : "?client_id=".toList = '?' :: ("client_id".toList ++ ['=']) := by decide
  have hscope : "&response_type=code&scope=".toList = '&' :: ("response_type".toList ++
      '=' :: ((urlEncode "code").toList ++ '&' :: ("scope".toList ++ ['=']))) := by decide
  have hredirect : "&redirect_uri=".toList = '&' :: ("redirect_uri".toList ++ ['=']) := by decide
  have hstate : "&state=".toList = '&' :: ("state".toList ++ ['=']) := by decide
  have hchallenge : "&code_challenge=".toList = '&' :: ("code_challenge".toList ++ ['=']) := by decide
  have hlast : "&code_challenge_method=S256".toList =
      '&' :: ("code_challenge_method".toList ++ '=' :: (urlEncode "S256").toList) := by decide
  simp (disch := decide) only [loginPairs, formText_cons_cons, formText_singleton, formPiece_urlEncode]
  unfold loginQuery
  simp only [String.toList_append]
  rw [hfirst, hscope, hredirect, hstate, hchallenge, hlast]
  -- the names are put out of sight: they would be read character by character
  generalize "client_id".toList = clientIdName, "response_type".toList = responseTypeName,
    "scope".toList = scopeName, "redirect_uri".toList = redirectUriName, "state".toList = stateName,
    "code_challenge".toList = challengeName, "code_challenge_method".toList = methodName
  simp only [List.append_assoc, List.cons_append, List.nil_append]

/-- The nonce is one more parameter. -/
theorem oidcQuery_toList (lib : FederationLibraries)
    (clientId scope redirectUri state codeVerifier nonce : String) :
    (loginQuery lib clientId scope redirectUri state codeVerifier ++ "&nonce=" ++ urlEncode nonce).toList =
      '?' :: formText urlEncodeChar
        (loginPairs lib clientId scope redirectUri state codeVerifier ++ [("nonce", nonce)]) := by
  have hnonce : "&nonce=".toList = '&' :: ("nonce".toList ++ ['=']) := by decide
  rw [String.toList_append, String.toList_append, loginQuery_toList, hnonce,
    formText_append_singleton _ (by simp [loginPairs]),
    formPiece_urlEncode (by decide : urlEncode "nonce" = "nonce")]
  generalize "nonce".toList = nonceName
  simp only [List.append_assoc, List.cons_append, List.nil_append]

/-! ## Endpoints -/

/-- The URL has the origin and the path of the endpoint, its pairs followed by `pairs`, and no fragment. -/
def CarriesExactly (hosts : String → Option String) (endpoint url : String)
    (pairs : List (String × String)) : Prop :=
  ∃ e u, Url.parse hosts endpoint = some e ∧ Url.parse hosts url = some u ∧ u.origin = e.origin ∧
    u.path = e.path ∧ u.queryPairs = e.queryPairs ++ pairs ∧ u.fragment = none

/-- The endpoint has neither a query nor a fragment, and what is written of it is read as the endpoint is
where a query follows. -/
def PlainEndpoint (hosts : String → Option String) (endpoint written : String) : Prop :=
  '?' ∉ endpoint.toList ∧ '#' ∉ endpoint.toList ∧
    ∃ e w, Url.parse hosts endpoint = some e ∧ Url.parse hosts (written ++ "?") = some w ∧
      w.origin = e.origin ∧ w.path = e.path

section endpoint

variable {hosts : String → Option String} {endpoint written url : String}
  {pairs : List (String × String)}

/-- Behind a text without a query, the parameters are the query. -/
theorem parse_written (hurl : url.toList = written.toList ++ '?' :: formText urlEncodeChar pairs)
    (hwritten : ∀ c ∈ written.toList, endsPath c = false) :
    Url.parse hosts url = (Url.parse hosts (written ++ "?")).map fun w =>
      { w with query := some (String.ofList (formText urlEncodeChar pairs)) } := by
  have hchars : ∀ c ∈ formText urlEncodeChar pairs, querySet c = false ∧ isC0OrSpace c = false ∧
      c ≠ '#' ∧ c ≠ '?' :=
    fun c hc => isFormChar_spec (formEncoding_urlEncodeChar.isFormChar_of_mem hc)
  have hempty : (written ++ "?").toList = written.toList ++ '?' :: [] := by simp
  rw [parse_append_query hurl hwritten fun c hc => ⟨(hchars c hc).2.1, (hchars c hc).2.2.1⟩,
    parse_append_query hempty hwritten (by simp), flatMap_escape fun c hc => (hchars c hc).1,
    Option.map_map]
  rfl

/-- A plain endpoint carries its parameters. -/
theorem carriesExactly_of_plain (hurl : url.toList = written.toList ++ '?' :: formText urlEncodeChar pairs)
    (hsub : ∀ c ∈ written.toList, c ∈ endpoint.toList) (hplain : PlainEndpoint hosts endpoint written) :
    CarriesExactly hosts endpoint url pairs := by
  obtain ⟨hquestion, hsharp, e, w, he, hw, horigin, hpath⟩ := hplain
  have hends : ∀ l : List Char, '?' ∉ l → '#' ∉ l → ∀ c ∈ l, endsPath c = false := by
    intro l h₁ h₂ c hc
    simp only [endsPath, Bool.or_eq_false_iff, decide_eq_false_iff_not]
    exact ⟨fun h => h₁ (h ▸ hc), fun h => h₂ (h ▸ hc)⟩
  have hwritten : ∀ c ∈ written.toList, endsPath c = false :=
    fun c hc => hends endpoint.toList hquestion hsharp c (hsub c hc)
  -- the endpoint itself has no pairs
  have hclean : ∀ c ∈ cleanUrl endpoint.toList, endsPath c = false := by
    intro c hc
    refine hends endpoint.toList hquestion hsharp c ?_
    exact (List.dropWhile_sublist _).subset ((List.rdropWhile_prefix _ _).subset (mem_withoutTabs.mp hc).1)
  have hnone : e.query = none := by
    have hparse : Url.parse hosts endpoint = _ :=
      parse_of_clean (List.append_nil (cleanUrl endpoint.toList)).symm hclean (by simp)
    rw [he, eq_comm, Option.map_eq_some_iff] at hparse
    obtain ⟨r, -, rfl⟩ := hparse
    rfl
  have hfragment : w.fragment = none := by
    rw [fragment_eq_none hw]
    simpa using fun h => hsharp (hsub _ h)
  refine ⟨e, { w with query := some (String.ofList (formText urlEncodeChar pairs)) }, he, ?_, horigin, hpath,
    ?_, hfragment⟩
  · rw [parse_written hurl hwritten, hw, Option.map_some]
  · simp [Url.queryPairs, hnone, formEncoding_urlEncodeChar.formPairs_formText]

/-- A query of the endpoint's own swallows the first name. The two texts `own` and `front` are the query as
the endpoint has it and as it is written: without the white space at its end, and without slashes. -/
theorem formPairs_swallowed {own front space slashes : List Char} (value : String)
    (h : own ++ space = front ++ slashes) (hspace : ∀ c ∈ space, isC0OrSpace c = true)
    (hslashes : ∀ c ∈ slashes, c = '/') :
    formPairs (String.ofList (front ++ '?' :: formText urlEncodeChar (("client_id", value) :: pairs))) ≠
      formPairs (String.ofList own) ++ ("client_id", value) :: pairs := by
  obtain ⟨first, last, F, rfl, hlast, hend, hpairs⟩ := exists_last_piece own
  have hspaceAmp : '&' ∉ space := fun hmem => absurd (hspace _ hmem) (by decide)
  have hslash : ∀ x c, first = x ++ [c] → c ∉ slashes := by
    intro x c hfirst hmem
    exact absurd ((hend x c hfirst).symm.trans (hslashes c hmem)) (by decide)
  rw [List.append_assoc] at h
  obtain ⟨rest, rfl, hrest⟩ := append_eq_append_of_last h hslash
  have hrestAmp : '&' ∉ rest := by
    intro hmem
    have : '&' ∈ last ++ space := hrest ▸ List.mem_append_left _ hmem
    rcases List.mem_append.mp this with hmem | hmem
    · exact hlast hmem
    · exact hspaceAmp hmem
  have hfront : '&' ∉ rest ++ ['?'] := by simp [hrestAmp]
  have hswallow : rest ++ '?' :: formText urlEncodeChar (("client_id", value) :: pairs) =
      (rest ++ ['?']) ++ formText urlEncodeChar (("client_id", value) :: pairs) := by simp
  intro heq
  rw [List.append_assoc, hpairs, hpairs, List.append_assoc, List.append_cancel_left_eq, hswallow,
    formEncoding_urlEncodeChar.formPairs_append_formText hfront] at heq
  -- the endpoint has no last piece: there would be one pair more
  have hnil : last = [] := by
    by_contra hne
    have hlength := congrArg List.length heq
    rw [formPairs_piece hlast hne] at hlength
    simp at hlength
  subst hnil
  have hrestSpace : ∀ c ∈ rest, isC0OrSpace c = true := by
    intro c hc
    rw [List.nil_append] at hrest
    exact hspace c (hrest ▸ List.mem_append_left _ hc)
  have hname : formPiece urlEncodeChar ("client_id", value) =
      "client_id".toList ++ '=' :: (urlEncode value).toList := formPiece_urlEncode (by decide) value
  have hkey : '=' ∉ rest ++ '?' :: "client_id".toList := by
    rw [List.mem_append, not_or]
    exact ⟨fun hmem => absurd (hrestSpace _ hmem) (by decide), by decide⟩
  have hliteral : ∀ c ∈ '?' :: "client_id".toList, c ≠ '%' ∧ c ≠ '+' := by
    intro c hc
    have hall : ('?' :: "client_id".toList).all (fun c => c ≠ '%' ∧ c ≠ '+') = true := by decide
    simpa using List.all_eq_true.mp hall c hc
  have hsigns : ∀ c ∈ rest ++ '?' :: "client_id".toList, c ≠ '%' ∧ c ≠ '+' := by
    intro c hc
    rcases List.mem_append.mp hc with hc | hc
    · exact ⟨fun h => absurd (hrestSpace _ (h ▸ hc)) (by decide),
        fun h => absurd (hrestSpace _ (h ▸ hc)) (by decide)⟩
    · exact hliteral c hc
  have hpair : formPair ((rest ++ ['?']) ++ formPiece urlEncodeChar ("client_id", value)) =
      ("client_id", value) := by
    simpa using congrArg List.head? heq
  have hsplit : (rest ++ ['?']) ++ formPiece urlEncodeChar ("client_id", value) =
      (rest ++ '?' :: "client_id".toList) ++ '=' :: (urlEncode value).toList := by
    rw [hname]
    generalize "client_id".toList = name
    simp
  rw [hsplit, formPair_append hkey, decodeComponent_of_no_sign (fun h => (hsigns _ h).1 rfl)
    fun h => (hsigns _ h).2 rfl] at hpair
  have hlength := congrArg (fun p => p.1.toList.length) hpair
  simp at hlength

/-- An endpoint that carries its parameters is plain. -/
theorem plain_of_carriesExactly {value : String} {slashes : List Char}
    (hurl : url.toList = written.toList ++ '?' :: formText urlEncodeChar (("client_id", value) :: pairs))
    (hendpoint : endpoint.toList = written.toList ++ slashes) (hslashes : ∀ c ∈ slashes, c = '/')
    (h : CarriesExactly hosts endpoint url (("client_id", value) :: pairs)) :
    PlainEndpoint hosts endpoint written := by
  obtain ⟨e, u, he, hu, horigin, hpath, hpairs, hfragment⟩ := h
  rw [fragment_eq_none hu, hurl, List.mem_append, List.mem_cons, not_or, not_or] at hfragment
  obtain ⟨hsharp, -, htext⟩ := hfragment
  have hslash : ∀ c, c ≠ '/' → c ∉ slashes := fun c hc hmem => hc (hslashes c hmem)
  have hquestion : '?' ∉ written.toList := by
    intro hmem
    rw [← mem_openUrl (by decide : isC0OrSpace '?' = false)] at hmem
    obtain ⟨head, front, hopen, hhead⟩ := List.eq_append_cons_of_mem hmem
    have hsharpOpen : '#' ∉ head ++ '?' :: front := by
      rwa [← hopen, mem_openUrl (by decide : isC0OrSpace '#' = false)]
    simp only [List.mem_append, List.mem_cons, not_or] at hsharpOpen
    obtain ⟨hsharpHead, -, hsharpFront⟩ := hsharpOpen
    have hends : ∀ c ∈ head, endsPath c = false := by
      intro c hc
      simp only [endsPath, Bool.or_eq_false_iff, decide_eq_false_iff_not]
      exact ⟨fun h => hhead (h ▸ hc), fun h => hsharpHead (h ▸ hc)⟩
    -- the URL: the parameters follow the query that is there
    have hcleanUrl : cleanUrl url.toList = head ++ '?' ::
        (front ++ '?' :: formText urlEncodeChar (("client_id", value) :: pairs)) := by
      rw [hurl, cleanUrl_append _ (by simp), hopen, List.append_assoc, List.cons_append]
      intro c hc
      rcases List.mem_cons.mp hc with rfl | hc
      · decide
      · exact (isFormChar_spec (formEncoding_urlEncodeChar.isFormChar_of_mem hc)).2.1
    have huPairs := queryPairs_of_clean hu hcleanUrl hends (by simp [hsharpFront, htext])
    -- the endpoint: its query ends before the white space
    obtain ⟨space, hspace, hallSpace⟩ := openUrl_eq_cleanUrl endpoint.toList
    rw [hendpoint, openUrl_append fun c hc => by rw [hslashes c hc]; decide, hopen] at hspace
    have hparts : (head ++ ['?']) ++ (front ++ slashes) =
        cleanUrl (written.toList ++ slashes) ++ space := by
      rw [← hspace]
      simp
    obtain ⟨own, hown, hfront⟩ := append_eq_append_of_last hparts fun x c hx hc => by
      obtain ⟨-, hlast⟩ := List.append_inj' hx rfl
      obtain rfl : '?' = c := by simpa using hlast
      exact absurd (hallSpace _ hc) (by decide)
    have hsharpOwn : '#' ∉ own := by
      intro hmem
      have : '#' ∈ front ++ slashes := hfront ▸ List.mem_append_left _ hmem
      rcases List.mem_append.mp this with h | h
      · exact hsharpFront h
      · exact hslash _ (by decide) h
    have hcleanEndpoint : cleanUrl endpoint.toList = head ++ '?' :: own := by
      rw [hendpoint, hown]
      simp
    have hePairs := queryPairs_of_clean he hcleanEndpoint hends hsharpOwn
    rw [huPairs, hePairs] at hpairs
    exact formPairs_swallowed value hfront.symm hallSpace hslashes hpairs
  have hwritten : ∀ c ∈ written.toList, endsPath c = false := by
    intro c hc
    simp only [endsPath, Bool.or_eq_false_iff, decide_eq_false_iff_not]
    exact ⟨fun h => hquestion (h ▸ hc), fun h => hsharp (h ▸ hc)⟩
  rw [parse_written hurl hwritten, Option.map_eq_some_iff] at hu
  obtain ⟨w, hw, rfl⟩ := hu
  refine ⟨?_, ?_, e, w, he, hw, horigin, hpath⟩
  · rw [hendpoint, List.mem_append, not_or]
    exact ⟨hquestion, hslash _ (by decide)⟩
  · rw [hendpoint, List.mem_append, not_or]
    exact ⟨hsharp, hslash _ (by decide)⟩

/-- **Where the endpoint is plain, and only there**, the URL carries exactly its parameters. -/
theorem carriesExactly_iff {value : String} {slashes : List Char}
    (hurl : url.toList = written.toList ++ '?' :: formText urlEncodeChar (("client_id", value) :: pairs))
    (hendpoint : endpoint.toList = written.toList ++ slashes) (hslashes : ∀ c ∈ slashes, c = '/') :
    CarriesExactly hosts endpoint url (("client_id", value) :: pairs) ↔
      PlainEndpoint hosts endpoint written := by
  refine ⟨plain_of_carriesExactly hurl hendpoint hslashes, carriesExactly_of_plain hurl ?_⟩
  intro c hc
  rw [hendpoint]
  exact List.mem_append_left _ hc

end endpoint

/-! ## The two kinds of connections -/

/-- **An authorization URL carries exactly its parameters** where the endpoint is plain, and only there: it
has no query and no fragment, and as it is written (for OIDC, without the slashes at its end) it is read with
its own origin and path. -/
theorem authorization_url_iff (lib : FederationLibraries) (hosts : String → Option String) (config : Value)
    (redirectUri state codeVerifier nonce : String) :
    (∀ url, buildOidcAuthorizationUrl lib config redirectUri state codeVerifier nonce = .ok url →
      ∃ endpoint clientId scope, authorizationEndpoint config = .ok endpoint ∧
        loginConfig config "client_id" = .ok clientId ∧ loginScope config = .ok scope ∧
        (CarriesExactly hosts endpoint url
            (loginPairs lib clientId scope redirectUri state codeVerifier ++ [("nonce", nonce)]) ↔
          PlainEndpoint hosts endpoint (trimEndMatches endpoint '/'))) ∧
    ∀ url, buildOauth2AuthorizationUrl lib config redirectUri state codeVerifier = .ok url →
      ∃ endpoint clientId scope, loginConfig config "authorization_url" = .ok endpoint ∧
        loginConfig config "client_id" = .ok clientId ∧ loginScope config = .ok scope ∧
        (CarriesExactly hosts endpoint url
            (loginPairs lib clientId scope redirectUri state codeVerifier) ↔
          PlainEndpoint hosts endpoint endpoint) := by
  constructor
  · intro url h
    unfold buildOidcAuthorizationUrl at h
    obtain ⟨endpoint, hendpoint, h⟩ := except_bind_eq_ok.mp h
    obtain ⟨clientId, hclient, h⟩ := except_bind_eq_ok.mp h
    obtain ⟨scope, hscope, h⟩ := except_bind_eq_ok.mp h
    obtain ⟨-, -, h⟩ := except_bind_eq_ok.mp h
    obtain ⟨-, -, h⟩ := except_bind_eq_ok.mp h
    obtain ⟨-, -, h⟩ := except_bind_eq_ok.mp h
    obtain ⟨-, -, h⟩ := except_bind_eq_ok.mp h
    refine ⟨endpoint, clientId, scope, hendpoint, hclient, hscope, ?_⟩
    obtain ⟨slashes, htrim, hslashes⟩ := trimEndMatches_append endpoint '/'
    refine carriesExactly_iff ?_ htrim hslashes
    rw [← Except.ok.inj h, String.append_assoc, String.append_assoc, String.toList_append,
      ← String.append_assoc, oidcQuery_toList]
    rfl
  · intro url h
    unfold buildOauth2AuthorizationUrl at h
    obtain ⟨endpoint, hendpoint, h⟩ := except_bind_eq_ok.mp h
    obtain ⟨clientId, hclient, h⟩ := except_bind_eq_ok.mp h
    obtain ⟨scope, hscope, h⟩ := except_bind_eq_ok.mp h
    obtain ⟨-, -, h⟩ := except_bind_eq_ok.mp h
    obtain ⟨-, -, h⟩ := except_bind_eq_ok.mp h
    obtain ⟨-, -, h⟩ := except_bind_eq_ok.mp h
    refine ⟨endpoint, clientId, scope, hendpoint, hclient, hscope, ?_⟩
    refine carriesExactly_iff ?_ (List.append_nil _).symm (by simp)
    rw [← Except.ok.inj h, String.toList_append, loginQuery_toList]
    rfl

/-! ## Two endpoints -/

/-- Libraries that read URLs, and know the challenge of one code verifier. -/
def readingLibraries : FederationLibraries :=
  { FederationLibraries.plain with
    upstream := { FederationLibraries.plain.upstream with
      parseUrl := fun text => match Url.parse asciiHosts text with
        | some u => .ok ⟨text, u.origin.scheme, some (.domain u.origin.host)⟩
        | none => .error "relative URL without a base" }
    codeChallenge := fun verifier =>
      if verifier = "dBjftJeZ4CVP-mB92K27uhbUJU1p1r_wW1gFWFOEjXk" then
        "E9Melhoa2OwvFrEMTJguCHaoeK1t8URbuGJSstw-cM"
      else "" }

/-- An OAuth2 connection with this endpoint. -/
def oauth2Config (authorizationUrl : String) : Value :=
  .obj [("authorization_url", .str authorizationUrl), ("client_id", .str "gateway"),
    ("scopes", .arr [.str "openid", .str "email"])]

/-- The authorization URL of a login through that connection. -/
def oauth2Login (authorizationUrl : String) : Except ServiceError String :=
  buildOauth2AuthorizationUrl readingLibraries (oauth2Config authorizationUrl)
    "https://sso.example/callbacks/oauth2" "state" "dBjftJeZ4CVP-mB92K27uhbUJU1p1r_wW1gFWFOEjXk"

/-- The parameters of that login. -/
def oauth2LoginPairs : List (String × String) :=
  loginPairs readingLibraries "gateway" "openid email" "https://sso.example/callbacks/oauth2" "state"
    "dBjftJeZ4CVP-mB92K27uhbUJU1p1r_wW1gFWFOEjXk"

/-- What is written behind the endpoint. -/
def oauth2LoginText : String :=
  "client_id=gateway&response_type=code&scope=openid%20email&redirect_uri=" ++
    "https%3A%2F%2Fsso.example%2Fcallbacks%2Foauth2&state=state&code_challenge=" ++
    "E9Melhoa2OwvFrEMTJguCHaoeK1t8URbuGJSstw-cM&code_challenge_method=S256"

theorem oauth2Login_query : loginQuery readingLibraries "gateway" "openid email" "https://sso.example/callbacks/oauth2"
    "state" "dBjftJeZ4CVP-mB92K27uhbUJU1p1r_wW1gFWFOEjXk" = "?" ++ oauth2LoginText := by decide +kernel

/-- The text is written behind an endpoint that is accepted. -/
theorem oauth2Login_eq {endpoint written : String}
    (hlogin : oauth2Login endpoint = .ok (endpoint ++ loginQuery readingLibraries "gateway" "openid email"
      "https://sso.example/callbacks/oauth2" "state" "dBjftJeZ4CVP-mB92K27uhbUJU1p1r_wW1gFWFOEjXk"))
    (hwritten : endpoint ++ "?" = written) : oauth2Login endpoint = .ok (written ++ oauth2LoginText) := by
  rw [hlogin, oauth2Login_query, ← String.append_assoc, hwritten]

/-- The URL of a login whose endpoint has neither a query nor a fragment. -/
theorem authorization_url_iff_plain :
    (∃ endpoint clientId scope,
      loginConfig (oauth2Config "https://idp.example/authorize") "authorization_url" = .ok endpoint ∧
        loginConfig (oauth2Config "https://idp.example/authorize") "client_id" = .ok clientId ∧
        loginScope (oauth2Config "https://idp.example/authorize") = .ok scope ∧
        (CarriesExactly asciiHosts endpoint ("https://idp.example/authorize?" ++ oauth2LoginText)
            (loginPairs readingLibraries clientId scope "https://sso.example/callbacks/oauth2" "state"
              "dBjftJeZ4CVP-mB92K27uhbUJU1p1r_wW1gFWFOEjXk") ↔
          PlainEndpoint asciiHosts endpoint endpoint)) ∧
    PlainEndpoint asciiHosts "https://idp.example/authorize" "https://idp.example/authorize" :=
  ⟨(authorization_url_iff readingLibraries asciiHosts (oauth2Config "https://idp.example/authorize")
      "https://sso.example/callbacks/oauth2" "state" "dBjftJeZ4CVP-mB92K27uhbUJU1p1r_wW1gFWFOEjXk" "").2
      ("https://idp.example/authorize?" ++ oauth2LoginText) (oauth2Login_eq rfl rfl),
    by decide, by decide, ⟨⟨"https", "idp.example", none⟩, "/authorize", none, none⟩,
    ⟨⟨"https", "idp.example", none⟩, "/authorize", some "", none⟩, by decide, by decide,
    rfl, rfl⟩

/-- It is the text of the parameters. -/
theorem oauth2LoginText_toList : oauth2LoginText.toList = formText urlEncodeChar oauth2LoginPairs := by
  have hquery := loginQuery_toList readingLibraries "gateway" "openid email" "https://sso.example/callbacks/oauth2"
    "state" "dBjftJeZ4CVP-mB92K27uhbUJU1p1r_wW1gFWFOEjXk"
  have hmark : "?".toList = ['?'] := by decide
  rw [oauth2Login_query, String.toList_append, hmark, List.singleton_append, List.cons.injEq] at hquery
  exact hquery.2

/-- Behind an endpoint with a query, the first name is the end of that query. -/
theorem oauth2Login_swallowed :
    (Url.parse asciiHosts ("https://idp.example/authorize?tenant=acme?" ++ oauth2LoginText)).map
      Url.queryPairs = some (("tenant", "acme?client_id=gateway") :: oauth2LoginPairs.tail) := by
  have hurl : ("https://idp.example/authorize?tenant=acme?" ++ oauth2LoginText).toList =
      "https://idp.example/authorize".toList ++
        '?' :: ("tenant=acme?".toList ++ formText urlEncodeChar oauth2LoginPairs) := by
    have hendpoint : "https://idp.example/authorize?tenant=acme?".toList =
        "https://idp.example/authorize".toList ++ '?' :: "tenant=acme?".toList := by decide
    rw [String.toList_append, oauth2LoginText_toList, hendpoint, List.append_assoc, List.cons_append]
  have hquery : ∀ c ∈ "tenant=acme?".toList ++ formText urlEncodeChar oauth2LoginPairs,
      isC0OrSpace c = false ∧ c ≠ '#' := by
    intro c hc
    rcases List.mem_append.mp hc with hown | htext
    · have hall : "tenant=acme?".toList.all (fun c => isC0OrSpace c = false ∧ c ≠ '#') = true := by decide
      simpa using List.all_eq_true.mp hall c hown
    · have hspec := isFormChar_spec (formEncoding_urlEncodeChar.isFormChar_of_mem htext)
      exact ⟨hspec.2.1, hspec.2.2.1⟩
  have hpath : ∀ c ∈ "https://idp.example/authorize".toList, endsPath c = false := by
    have hall : "https://idp.example/authorize".toList.all (fun c => endsPath c = false) = true := by decide
    intro c hc
    simpa using List.all_eq_true.mp hall c hc
  have hhead : (parseHead asciiHosts (openUrl "https://idp.example/authorize".toList)).isSome = true := by
    decide
  obtain ⟨head, hhead⟩ := Option.isSome_iff_exists.mp hhead
  have hfirst : formPair ("tenant=acme?".toList ++ formPiece urlEncodeChar ("client_id", "gateway")) =
      ("tenant", "acme?client_id=gateway") := by decide
  rw [parse_append_query hurl hpath hquery, hhead, Option.map_some, Option.map_some, Option.some.injEq,
    Url.queryPairs, Option.map_some, Option.getD_some, queryEscape_querySet.formPairs_flatMap,
    show oauth2LoginPairs = ("client_id", "gateway") :: oauth2LoginPairs.tail from rfl,
    formEncoding_urlEncodeChar.formPairs_append_formText (by decide), hfirst]
  rfl

/-- **An endpoint with a query of its own** is accepted, and `client_id` ends in the value of its last
parameter. -/
theorem authorization_url_query :
    oauth2Login "https://idp.example/authorize?tenant=acme" =
      .ok ("https://idp.example/authorize?tenant=acme?" ++ oauth2LoginText) ∧
    (Url.parse asciiHosts ("https://idp.example/authorize?tenant=acme?" ++ oauth2LoginText)).map
      Url.queryPairs = some (("tenant", "acme?client_id=gateway") :: oauth2LoginPairs.tail) ∧
    ¬ CarriesExactly asciiHosts "https://idp.example/authorize?tenant=acme"
      ("https://idp.example/authorize?tenant=acme?" ++ oauth2LoginText) oauth2LoginPairs := by
  refine ⟨oauth2Login_eq rfl rfl, oauth2Login_swallowed, ?_⟩
  rintro ⟨e, u, he, hu, -, -, hpairs, -⟩
  have hown : (Url.parse asciiHosts "https://idp.example/authorize?tenant=acme").map Url.queryPairs =
      some [("tenant", "acme")] := by decide
  have hall := oauth2Login_swallowed
  rw [he, Option.map_some, Option.some.injEq] at hown
  rw [hu, Option.map_some, Option.some.injEq, hpairs, hown] at hall
  exact absurd hall (by decide)

end SsoGateway
