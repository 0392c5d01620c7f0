import SsoGateway.Errors
import SsoGateway.Lib.Contract
import SsoGateway.Lib.Json
import SsoGateway.Lib.Text
import Mathlib.Data.Int.Notation

/-!
# The calls to upstream providers

What the gateway fetches on behalf of a login callback: tokens, the provider's keys, and userinfo.
The network is an environment that may answer anything; an HTTP client resolves the name of a host,
dials the addresses it is given until one answers, and follows redirects. A host that is an address
is dialled as it is.

* `IpAddr`, `isForbiddenIp` — addresses, and those that are not to be dialled.
* `validateUpstreamUrl`, `validateResolvedIpsForUrl`, `safeResolve` — the three layers of the guard.
* `HttpClient.send` — a request, with its redirects.
* `exchangeCode`, `fetchUserinfo`, `fetchJwks`, `validateIdToken` — the fetches.
* `upstreamLogin` — the order a callback makes them in.

Source: `upstream_oauth.rs`, `jwks.rs`, `services/handlers/callback.rs`; `app.rs` gives the key
service a client of its own.
-/

namespace SsoGateway

open Lib

/-! ## Addresses -/

/-- Source: `std::net::Ipv4Addr`, by its octets. -/
structure Ipv4Addr where
  a : UInt8
  b : UInt8
  c : UInt8
  d : UInt8
deriving DecidableEq, Repr

/-- Source: `std::net::Ipv6Addr`, by its segments. -/
structure Ipv6Addr where
  s0 : UInt16
  s1 : UInt16
  s2 : UInt16
  s3 : UInt16
  s4 : UInt16
  s5 : UInt16
  s6 : UInt16
  s7 : UInt16
deriving DecidableEq, Repr

/-- Source: `std::net::IpAddr`. -/
inductive IpAddr where
  | v4 (ip : Ipv4Addr)
  | v6 (ip : Ipv6Addr)
deriving DecidableEq, Repr

namespace Ipv4Addr

/-- `0.0.0.0`. -/
def isUnspecified (ip : Ipv4Addr) : Bool := ip = ⟨0, 0, 0, 0⟩

/-- `127.0.0.0/8`. -/
def isLoopback (ip : Ipv4Addr) : Bool := ip.a = 127

/-- `169.254.0.0/16`. -/
def isLinkLocal (ip : Ipv4Addr) : Bool := ip.a = 169 ∧ ip.b = 254

/-- `10.0.0.0/8`, `172.16.0.0/12`, `192.168.0.0/16`. -/
def isPrivate (ip : Ipv4Addr) : Bool :=
  ip.a = 10 ∨ (ip.a = 172 ∧ 16 ≤ ip.b ∧ ip.b ≤ 31) ∨ (ip.a = 192 ∧ ip.b = 168)

end Ipv4Addr

namespace Ipv6Addr

/-- `::`. -/
def isUnspecified (ip : Ipv6Addr) : Bool := ip = ⟨0, 0, 0, 0, 0, 0, 0, 0⟩

/-- `::1`. -/
def isLoopback (ip : Ipv6Addr) : Bool := ip = ⟨0, 0, 0, 0, 0, 0, 0, 1⟩

/-- `fe80::/10`. -/
def isLinkLocal (ip : Ipv6Addr) : Bool := ip.s0 &&& 0xffc0 = 0xfe80

/-- `fc00::/7`. -/
def isUniqueLocal (ip : Ipv6Addr) : Bool := ip.s0 &&& 0xfe00 = 0xfc00

/-- Source: `to_ipv4_mapped`, of the addresses `::ffff:a.b.c.d`. -/
def toIpv4Mapped (ip : Ipv6Addr) : Option Ipv4Addr :=
  if ip.s0 = 0 ∧ ip.s1 = 0 ∧ ip.s2 = 0 ∧ ip.s3 = 0 ∧ ip.s4 = 0 ∧ ip.s5 = 0xffff then
    some ⟨(ip.s6 >>> 8).toUInt8, ip.s6.toUInt8, (ip.s7 >>> 8).toUInt8, ip.s7.toUInt8⟩
  else none

end Ipv6Addr

/-- Source: `IpAddr::is_unspecified`. -/
def IpAddr.isUnspecified : IpAddr → Bool
  | .v4 ip => ip.isUnspecified
  | .v6 ip => ip.isUnspecified

/-- Source: `is_forbidden_ip`, of an IPv4 address. -/
def isForbiddenIpv4 (ip : Ipv4Addr) : Bool :=
  if ip.isUnspecified then true else ip.isLoopback || ip.isLinkLocal || ip.isPrivate

/-- Source: `is_forbidden_ip`. -/
def isForbiddenIp (ip : IpAddr) : Bool :=
  if ip.isUnspecified then true
  else match ip with
    | .v4 ip => ip.isLoopback || ip.isLinkLocal || ip.isPrivate
    | .v6 ip =>
        match ip.toIpv4Mapped with
        | some ip => isForbiddenIpv4 ip
        | none => ip.isLoopback || ip.isLinkLocal

/-! ## The network -/

/-- The host of a URL. -/
inductive NetHost where
  | domain (name : String)
  | ip (ip : IpAddr)
deriving DecidableEq, Repr

/-- A parsed URL, as far as it is looked at. -/
structure UpstreamUrl where
  text : String
  scheme : String
  host : Option NetHost
deriving DecidableEq, Repr

/-- Source: `Url::host_str`, of a name; an address is no forbidden name. -/
def NetHost.name : NetHost → String
  | .domain name => name
  | .ip _ => ""

/-- What a fetch is for. -/
inductive UpstreamEndpoint where
  | token
  | userinfo
  | jwks
deriving DecidableEq, Repr

/-- A connection: the fetch it belongs to, the URL that is requested, whether a redirect named it, and
the address. -/
structure Dial where
  endpoint : UpstreamEndpoint
  url : UpstreamUrl
  redirected : Bool
  address : IpAddr
deriving DecidableEq, Repr

/-- An answer, as far as it is looked at. `location` is where a redirect leads, as the client resolves
it; `json` is the body, where it is JSON. -/
structure HttpResponse where
  success : Bool
  status : String
  body : String
  json : Option Value
  location : Option UpstreamUrl

/-- A key of a provider. Source: `jsonwebtoken::jwk::Jwk`. -/
structure Jwk where
  keyId : Option String
  document : Value

/-- Who asks for the addresses of a host: the check of a URL, or the client that is to connect. -/
inductive LookupPurpose where
  | check
  | connect (endpoint : UpstreamEndpoint)
deriving DecidableEq, Repr

/-- What the fetches ask of their environment. -/
inductive NetOp where
  | lookupHost (purpose : LookupPurpose) (host : NetHost)
  | dial (d : Dial)
  | now
  | cachedJwks (url : String)
  | cacheJwks (url : String) (keys : List Jwk) (fetchedAt : ℤ)

/-- The answers. -/
@[reducible] def NetOp.Res : NetOp → Type
  | .lookupHost _ _ => Except String (List IpAddr)
  | .dial _ => Except String HttpResponse
  | .now => ℤ
  | .cachedJwks _ => Option (List Jwk × ℤ)
  | .cacheJwks _ _ _ => Unit

/-- The signature. -/
@[reducible] def NetSig : Sig := ⟨NetOp, NetOp.Res⟩

/-- What the environment decides for one call. -/
structure NetChoice where
  addresses : Except String (List IpAddr)
  response : Except String HttpResponse
  now : ℤ

/-- Source: `JwksCache`. -/
abbrev JwksCache := List (String × List Jwk × ℤ)

/-- What the calls do. An IPv4 address resolves to itself; the text of an IPv6 one is in brackets, and
goes the way of a name. -/
def network : Handler NetSig NetChoice JwksCache
  | .lookupHost _ (.ip (.v4 ip)), _, cache => (.ok [.v4 ip], cache)
  | .lookupHost _ _, c, cache => (c.addresses, cache)
  | .dial _, c, cache => (c.response, cache)
  | .now, c, cache => (c.now, cache)
  | .cachedJwks url, _, cache => (cache.lookup url, cache)
  | .cacheJwks url keys fetchedAt, _, cache => ((), (url, keys, fetchedAt) :: cache)

/-- One call. -/
abbrev netCall (op : NetOp) : Prog NetSig op.Res := Prog.perform (S := NetSig) op

/-! ## The client -/

/-- How a client resolves names. -/
inductive DnsResolver where
  | safe
  | system
deriving DecidableEq, Repr

/-- Source: `SafeDnsResolver::resolve`. -/
def safeResolve (endpoint : UpstreamEndpoint) (host : NetHost) :
    ExceptT String (Prog NetSig) (List IpAddr) := do
  let addrs ← Prog.orThrow id (netCall (.lookupHost (.connect endpoint) host))
  let safeAddrs := addrs.filter fun ip => ¬ isForbiddenIp ip
  if safeAddrs = [] then throw "host resolved to forbidden IP addresses" else return safeAddrs

/-- The addresses a client dials for a host: the custom resolver is asked for names only. -/
def clientAddresses (resolver : DnsResolver) (endpoint : UpstreamEndpoint) :
    NetHost → ExceptT String (Prog NetSig) (List IpAddr)
  | .ip ip => return [ip]
  | .domain name =>
      match resolver with
      | .safe => safeResolve endpoint (.domain name)
      | .system => Prog.orThrow id (netCall (.lookupHost (.connect endpoint) (.domain name)))

/-- The addresses are dialled in order, until one answers. -/
def dialAll (endpoint : UpstreamEndpoint) (url : UpstreamUrl) (redirected : Bool) :
    List IpAddr → ExceptT String (Prog NetSig) HttpResponse
  | [] => throw "error trying to connect"
  | ip :: ips => do
      match ← Prog.attempt (netCall (.dial ⟨endpoint, url, redirected, ip⟩)) with
      | .ok response => return response
      | .error _ => dialAll endpoint url redirected ips

/-- One request. -/
def requestOnce (resolver : DnsResolver) (endpoint : UpstreamEndpoint) (redirected : Bool)
    (url : UpstreamUrl) : ExceptT String (Prog NetSig) HttpResponse :=
  match url.host with
  | none => throw "builder error"
  | some host => do
      let addrs ← clientAddresses resolver endpoint host
      dialAll endpoint url redirected addrs

/-- A request and its redirects, of which so many are followed. -/
def sendWithin (resolver : DnsResolver) (endpoint : UpstreamEndpoint) :
    ℕ → Bool → UpstreamUrl → ExceptT String (Prog NetSig) HttpResponse
  | 0, redirected, url => do
      let response ← requestOnce resolver endpoint redirected url
      if response.location.isSome then throw "error following redirect" else return response
  | left + 1, redirected, url => do
      let response ← requestOnce resolver endpoint redirected url
      match response.location with
      | none => return response
      | some next => sendWithin resolver endpoint left true next

/-- Source: `RequestBuilder::send`, under the client's own redirect policy. -/
def send (resolver : DnsResolver) (endpoint : UpstreamEndpoint) (url : UpstreamUrl) :
    ExceptT String (Prog NetSig) HttpResponse := sendWithin resolver endpoint 10 false url

/-! ## The guard -/

/-- Source: `UpstreamOAuthError`. -/
inductive UpstreamOAuthError where
  | missingConfig (message : String)
  | tokenExchange (message : String)
  | userinfo (message : String)
  | invalidUrl (message : String)
  | http (message : String)
deriving DecidableEq, Repr

/-- The header of a token, as far as it is looked at. -/
structure TokenHeader where
  kid : Option String
  alg : String
deriving DecidableEq, Repr

/-- Source: `IdTokenClaims`. -/
structure IdTokenClaims where
  nonce : Option String
  iat : Option ℕ
deriving DecidableEq, Repr

/-- The functions of other libraries that the fetches call. -/
structure UpstreamLibraries where
  /-- `reqwest::Url::parse`, with the text of its error. -/
  parseUrl : String → Except String UpstreamUrl
  /-- The display text of a host. -/
  hostText : NetHost → String
  /-- The display text of a service error. -/
  displayServiceError : ServiceError → String
  /-- The type of `jsonwebtoken::DecodingKey`. -/
  Key : Type
  /-- `jsonwebtoken::decode_header`. -/
  decodeHeader : String → Option TokenHeader
  /-- `DecodingKey::from_jwk`. -/
  decodingKey : Jwk → Option Key
  /-- `jsonwebtoken::decode` at an instant, under the algorithm of the header, an issuer and an
  audience. -/
  decode : ℤ → String → Key → String → String → String → Option IdTokenClaims
  /-- A key set read from JSON. -/
  parseJwks : Value → Option (List Jwk)

/-- The names that are never asked for. -/
def isForbiddenName (name : String) : Bool :=
  name = "localhost" ∨ name = "metadata" ∨ name = "metadata.google.internal" ∨
    ".metadata".toList <:+ name.toList

/-- The host is an address that is not to be dialled. -/
def NetHost.isForbiddenLiteral : NetHost → Bool
  | .domain _ => false
  | .ip address => isForbiddenIp address

/-- Source: `validate_upstream_url`. -/
def validateUpstreamUrl (lib : UpstreamLibraries) (url : String) : Except ServiceError Unit :=
  match lib.parseUrl url with
  | .error e => .error (.invalidArgument ("invalid upstream URL '" ++ url ++ "': " ++ e))
  | .ok parsed =>
      if parsed.scheme ≠ "https" then .error (.invalidArgument "upstream URL must use HTTPS")
      else
        match parsed.host with
        | none => .error (.invalidArgument "upstream URL is missing a host")
        | some host =>
            if isForbiddenName (toAsciiLowercase host.name) then
              .error (.invalidArgument "upstream URL resolves to a forbidden hostname")
            else if host.isForbiddenLiteral then
              .error (.invalidArgument "upstream URL resolves to a forbidden IP address")
            else .ok ()

/-- Source: `validate_resolved_ips_for_url`. -/
def validateResolvedIpsForUrl (lib : UpstreamLibraries) (url : String) :
    ExceptT UpstreamOAuthError (Prog NetSig) Unit := do
  let parsed ← ExceptT.mk (pure ((lib.parseUrl url).mapError fun e =>
    .invalidUrl ("invalid upstream URL '" ++ url ++ "': " ++ e)))
  match parsed.host with
  | none => throw (.invalidUrl "upstream URL is missing a host")
  | some host => do
      let addrs ← Prog.orThrow
        (fun e => .invalidUrl ("DNS resolution failed for '" ++ lib.hostText host ++ "': " ++ e))
        (netCall (.lookupHost .check host))
      match addrs.find? fun ip => isForbiddenIp ip with
      | some ip => throw (.invalidUrl ("upstream host '" ++ lib.hostText host ++
          "' resolved to forbidden IP " ++ lib.hostText (.ip ip)))
      | none => return ()

/-! ## The fetches -/

/-- A text of a connection's configuration. -/
def configText (config : Value) (key : String) : Except UpstreamOAuthError String :=
  match (config.index key).asStr with
  | some text => .ok text
  | none => .error (.missingConfig ("missing " ++ key))

/-- The checks of a URL, and the request. -/
def guardedSend (lib : UpstreamLibraries) (endpoint : UpstreamEndpoint) (url : String) :
    ExceptT UpstreamOAuthError (Prog NetSig) HttpResponse := do
  ExceptT.mk (pure ((validateUpstreamUrl lib url).mapError fun e => .invalidUrl (lib.displayServiceError e)))
  validateResolvedIpsForUrl lib url
  match lib.parseUrl url with
  | .error e => throw (.http e)
  | .ok parsed => Prog.orThrow .http (send .safe endpoint parsed).run

/-- Source: `UpstreamTokenResponse`. -/
structure UpstreamTokenResponse where
  accessToken : String
  tokenType : String
  idToken : Option String
  raw : Value

/-- The JSON body of a successful answer. -/
def jsonBody (failed : String → UpstreamOAuthError) (response : HttpResponse) :
    Except UpstreamOAuthError Value :=
  if response.success then
    match response.json with
    | some raw => .ok raw
    | none => .error (.http "error decoding response body")
  else .error (failed ("upstream returned " ++ response.status ++ ": " ++ response.body))

/-- What `exchange_code` makes of the answer. -/
def tokenResponse (raw : Value) : Except UpstreamOAuthError UpstreamTokenResponse :=
  match (raw.index "access_token").asStr with
  | none => .error (.tokenExchange "missing access_token")
  | some accessToken => .ok
      { accessToken := accessToken
        tokenType := (raw.index "token_type").asStr.getD "Bearer"
        idToken := (raw.index "id_token").asStr
        raw := raw }

/-- Source: `exchange_code`. The form that is posted is not looked at. -/
def exchangeCode (lib : UpstreamLibraries) (config : Value) :
    ExceptT UpstreamOAuthError (Prog NetSig) UpstreamTokenResponse := do
  let tokenUrl ← ExceptT.mk (pure (configText config "token_url"))
  let _ ← ExceptT.mk (pure (configText config "client_id"))
  let _ ← ExceptT.mk (pure (configText config "client_secret"))
  let response ← guardedSend lib .token tokenUrl
  ExceptT.mk (pure (jsonBody .tokenExchange response >>= tokenResponse))

/-- The email of a provider that has it elsewhere, where it is configured. -/
def normalizeEmail (config userinfo : Value) : Value :=
  match (config.index "userinfo_email_path").asStr with
  | none => userinfo
  | some path =>
      match ((splitAt path '.').foldl (fun value key => value.bind fun v => v.get key)
          (some userinfo)).bind Value.asStr with
      | some email => userinfo.setIndex "email" (.str email)
      | none => userinfo

/-- Source: `fetch_userinfo`. -/
def fetchUserinfo (lib : UpstreamLibraries) (config : Value) :
    ExceptT UpstreamOAuthError (Prog NetSig) Value := do
  let userinfoUrl ← ExceptT.mk (pure (configText config "userinfo_url"))
  let response ← guardedSend lib .userinfo userinfoUrl
  let userinfo ← ExceptT.mk (pure (jsonBody .userinfo response))
  return normalizeEmail config userinfo

/-! ## The keys of a provider -/

/-- Source: `CallbackError`, of the errors that come before an identity is provisioned. -/
inductive UpstreamFailure where
  | tokenExchange
  | userinfo
  | invalidIdToken
  | configuration (message : String)
deriving DecidableEq, Repr

/-- Source: `JWKS_CACHE_TTL`, in seconds. -/
def jwksCacheTtl : ℤ := 15 * 60

/-- The request of `fetch_jwks`: no check of the URL, and a client with the system's resolver. -/
def requestJwks (lib : UpstreamLibraries) (url : String) :
    ExceptT UpstreamFailure (Prog NetSig) (List Jwk) :=
  match lib.parseUrl url with
  | .error _ => throw .invalidIdToken
  | .ok parsed => do
      let response ← Prog.orThrow (fun _ => .invalidIdToken) (send .system .jwks parsed).run
      match if response.success then response.json.bind lib.parseJwks else none with
      | some keys => return keys
      | none => throw .invalidIdToken

/-- Source: `fetch_jwks`. -/
def fetchJwks (lib : UpstreamLibraries) (url : String) :
    ExceptT UpstreamFailure (Prog NetSig) (List Jwk) := do
  let now ← Prog.attempt (netCall .now)
  let cached ← Prog.attempt (netCall (.cachedJwks url))
  match cached.filter fun entry => now - entry.2 < jwksCacheTtl with
  | some entry => return entry.1
  | none => do
      let keys ← requestJwks lib url
      Prog.attempt (netCall (.cacheJwks url keys now))
      return keys

/-- The key of a token: the one its header names, or the only one. -/
def jwkFor (kid : Option String) (keys : List Jwk) : Option Jwk :=
  match kid with
  | some kid => keys.find? fun key => key.keyId = some kid
  | none => if keys.length = 1 then keys.head? else none

/-- Source: `decoding_key_for_token`. -/
def decodingKeyForToken (lib : UpstreamLibraries) (idToken jwksUrl : String) :
    ExceptT UpstreamFailure (Prog NetSig) lib.Key :=
  match lib.decodeHeader idToken with
  | none => throw .invalidIdToken
  | some header => do
      let keys ← fetchJwks lib jwksUrl
      match (jwkFor header.kid keys).bind lib.decodingKey with
      | some key => return key
      | none => throw .invalidIdToken

/-- The claims of a token are those of the login. The leeway is that of `Validation::new`. -/
def claimsMatch (claims : IdTokenClaims) (expectedNonce : Option String) (now : ℤ) : Bool :=
  (claims.iat.all fun iat => (iat : ℤ) ≤ now + 60) && expectedNonce.all fun nonce => claims.nonce = some nonce

/-- A text of the configuration that a token is checked against. -/
def tokenConfig (config : Value) (key : String) : Except UpstreamFailure String :=
  match (config.index key).asStr with
  | some text => .ok text
  | none => .error (.configuration ("missing " ++ key))

/-- Source: `validate_id_token`. -/
def validateIdToken (lib : UpstreamLibraries) (idToken : String) (config : Value)
    (expectedNonce : Option String) : ExceptT UpstreamFailure (Prog NetSig) Unit := do
  let jwksUrl ← ExceptT.mk (pure (tokenConfig config "jwks_url"))
  let issuer ← ExceptT.mk (pure (tokenConfig config "issuer"))
  let clientId ← ExceptT.mk (pure (tokenConfig config "client_id"))
  match lib.decodeHeader idToken with
  | none => throw .invalidIdToken
  | some header => do
      let key ← decodingKeyForToken lib idToken jwksUrl
      let now ← Prog.attempt (netCall .now)
      match lib.decode now idToken key header.alg issuer clientId with
      | none => throw .invalidIdToken
      | some claims =>
          if claimsMatch claims expectedNonce now then return () else throw .invalidIdToken

/-- The check of the token that came with the access token. -/
def checkIdToken (lib : UpstreamLibraries) (connectionType : String) (config : Value)
    (nonce idToken : Option String) : ExceptT UpstreamFailure (Prog NetSig) Unit :=
  if connectionType = "oidc" then
    match idToken with
    | some idToken => validateIdToken lib idToken config nonce
    | none => if nonce.isSome then throw .invalidIdToken else return ()
  else return ()

/-- What `handle_oauth_callback` fetches from the provider of a connection; yields the userinfo. -/
def upstreamLogin (lib : UpstreamLibraries) (connectionType : String) (config : Value)
    (nonce : Option String) : ExceptT UpstreamFailure (Prog NetSig) Value := do
  let response ← Prog.orThrow (fun _ => .tokenExchange) (exchangeCode lib config).run
  checkIdToken lib connectionType config nonce response.idToken
  Prog.orThrow (fun _ => .userinfo) (fetchUserinfo lib config).run

end SsoGateway
