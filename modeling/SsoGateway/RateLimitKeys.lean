import SsoGateway.Lib.Text
import SsoGateway.RateLimit

/-!
# The buckets of public requests

Which bucket of the rate limiter a request on the public router is counted in: the one of the client id
that it supplies, or else one for its class of endpoints, which for registrations is one for the address
that they come from. Client ids and the other keys are texts of one kind.

* `bucketKey` — the key of a request; `rateLimitMiddleware` — the request and the limiter.
* `KeysSeparated` — anonymous registrations are counted by address, and no client id is taken for another
  kind of key.
* `keysSeparated_iff` — exactly if anonymous registrations supply no client id, and no client id looks
  like another kind of key.
* `counted_own`, `calls_own` — under that condition, an anonymous bucket is charged for its own requests
  alone, by one request and by any sequence of them.
* `borrowed_bucket` — a registration that is counted for another address.

Source: `middleware.rs` `basic_auth_client_id`, `query_client_id`, `form_body_client_id`, `endpoint_class`,
`client_ip`, `anonymous_bucket_key`, `rate_limit_middleware`.
-/

namespace SsoGateway

open Lib

/-! ## Requests -/

/-- What is used of other crates. -/
structure KeyLibraries where
  /-- Base64 in the standard alphabet, of a text. -/
  decodeBase64 : String → Option String
  /-- `url::form_urlencoded::parse`. -/
  parseForm : List UInt8 → List (String × String)

/-- A request on the public router. A header is its first value, where that is printable. -/
structure RouterRequest where
  method : String
  path : String
  query : Option String
  authorization : Option String
  contentType : Option String
  forwardedFor : Option String
  /-- `ConnectInfo`: the address of the peer, where the server was built with it. -/
  peer : Option String
  /-- The bytes, unless the stream breaks off. -/
  body : Option (List UInt8)
deriving DecidableEq, Repr

variable (lib : KeyLibraries)

/-! ## Client ids -/

/-- Source: `basic_auth_client_id`. -/
def basicAuthClientId (r : RouterRequest) : Option String := do
  let (scheme, payload) ← splitOnce (← r.authorization) ' '
  if eqIgnoreAsciiCase scheme "basic" then
    let (id, _) ← splitOnce (← lib.decodeBase64 (trim payload)) ':'
    if id = "" then none else some id
  else none

/-- The first `client_id` of some fields, unless it is empty. -/
def formClientId (bytes : List UInt8) : Option String :=
  (((lib.parseForm bytes).find? fun kv => kv.1 = "client_id").map (·.2)).filter (· ≠ "")

/-- Source: `query_client_id`. -/
def queryClientId (r : RouterRequest) : Option String :=
  r.query.bind fun query => formClientId lib query.toByteArray.data.toList

/-- Source: `form_body_client_id`. -/
def formBodyClientId (r : RouterRequest) (body : List UInt8) : Option String :=
  r.contentType.bind fun contentType =>
    if startsWith contentType "application/x-www-form-urlencoded" then formClientId lib body else none

/-- The first client id of the header, the query and the body. -/
def suppliedClientId (r : RouterRequest) (body : List UInt8) : Option String :=
  (basicAuthClientId lib r).or ((queryClientId lib r).or (formBodyClientId lib r body))

/-! ## Keys without a client id -/

/-- Source: `endpoint_class`. -/
def endpointClass (path : String) : String :=
  if startsWith path "/.well-known/" then "discovery"
  else if path = "/oauth2/userinfo" ∨ path = "/userinfo" then "userinfo"
  else if path = "/oauth2/register" ∨ startsWith path "/oauth2/register/" = true then "register"
  else if path = "/oauth2/token" then "token"
  else if path = "/oauth2/introspect" then "introspect"
  else if path = "/oauth2/revoke" then "revoke"
  else if path = "/oauth2/device" ∨ startsWith path "/oauth2/device/" = true then "device"
  else if path = "/oauth2/auth" then "auth"
  else if path = "/saml" ∨ startsWith path "/saml/" = true then "saml"
  else if path = "/scim" ∨ startsWith path "/scim/" = true then "scim"
  else if path = "/self-service" ∨ startsWith path "/self-service/" = true then "self-service"
  else if path = "/callbacks" ∨ startsWith path "/callbacks/" = true then "callbacks"
  else if path = "/health" ∨ startsWith path "/health/" = true then "health"
  else "other"

/-- The fixed set of classes. -/
def endpointClasses : List String :=
  ["discovery", "userinfo", "register", "token", "introspect", "revoke", "device", "auth", "saml", "scim",
    "self-service", "callbacks", "health", "other"]

/-- Source: `client_ip`. -/
def clientIp (r : RouterRequest) : Option String :=
  ((r.forwardedFor.map fun hops => trim ((splitAt hops ',').headD "")).filter (· ≠ "")).or r.peer

/-- Source: `anonymous_bucket_key`. -/
def anonymousBucketKey (r : RouterRequest) : String :=
  match if endpointClass r.path = "register" then clientIp r else none with
  | some ip => "register-ip:" ++ ip
  | none => "global:" ++ endpointClass r.path

/-! ## The middleware -/

/-- Source: the key of `rate_limit_middleware`. -/
def bucketKey (r : RouterRequest) (body : List UInt8) : String :=
  (suppliedClientId lib r body).getD (anonymousBucketKey r)

/-- `axum::body::to_bytes(body, 1_048_576)`. -/
def readBody (r : RouterRequest) : Option (List UInt8) := r.body.filter fun bytes => bytes.length ≤ 1048576

/-- The bucket that a request is counted in, if it is counted at all. -/
def countedIn (r : RouterRequest) : Option String := (readBody r).map (bucketKey lib r)

/-- What becomes of a request. -/
inductive RateVerdict where
  | payloadTooLarge
  | tooManyRequests
  /-- It goes on to its handler. -/
  | passed
deriving DecidableEq, Repr

/-- Source: `rate_limit_middleware`, at the instants that a bucket is opened and read at. -/
def rateLimitMiddleware (lim : RateLimiter) (opened now : ℚ) (r : RouterRequest) (buckets : Buckets) :
    RateVerdict × Buckets :=
  match countedIn lib r with
  | none => (.payloadTooLarge, buckets)
  | some key =>
      let (allowed, buckets) := lim.check ⟨key, opened, now⟩ buckets
      (if allowed then .passed else .tooManyRequests, buckets)

/-- A request, with the instants it is counted at. -/
structure TimedRequest where
  request : RouterRequest
  opened : ℚ
  now : ℚ

/-- The limiter after some requests. -/
def limiterAfter (lim : RateLimiter) : Buckets → List TimedRequest → Buckets
  | buckets, [] => buckets
  | buckets, q :: qs =>
      limiterAfter lim (rateLimitMiddleware lib lim q.opened q.now q.request buckets).2 qs

/-- The calls of the limiter that some requests make. -/
def rateCalls (qs : List TimedRequest) : List RateCall :=
  qs.filterMap fun q => (countedIn lib q.request).map fun key => ⟨key, q.opened, q.now⟩

/-- Requests are calls of the limiter, those aside whose body is too large. -/
theorem limiterAfter_eq (lim : RateLimiter) (buckets : Buckets) (qs : List TimedRequest) :
    limiterAfter lib lim buckets qs = lim.after buckets (rateCalls lib qs) := by
  induction qs generalizing buckets with
  | nil => rfl
  | cons q qs ih =>
      rw [limiterAfter, ih, rateLimitMiddleware]
      cases hkey : countedIn lib q.request with
      | none => simp [rateCalls, hkey]
      | some key => simp [rateCalls, hkey, RateLimiter.after]

/-! ## Separate keys -/

/-- The key is one of those for requests without a client id. -/
def AnonymousKey (key : String) : Prop :=
  (∃ c ∈ endpointClasses, key = "global:" ++ c) ∨ ∃ ip, key = "register-ip:" ++ ip

/-- A registration without valid credentials, from a known address. -/
def AnonymousRegistration (Authenticated : RouterRequest → Prop) (r : RouterRequest) : Prop :=
  r.method = "POST" ∧ r.path = "/oauth2/register" ∧ ¬ Authenticated r ∧ (clientIp r).isSome

/-- Anonymous registrations are counted by address, whatever they supply, and a client id is not taken for
another kind of key. -/
structure KeysSeparated (Authenticated : RouterRequest → Prop) (r : RouterRequest) : Prop where
  registers : AnonymousRegistration Authenticated r →
    ∀ ip, clientIp r = some ip → countedIn lib r = some ("register-ip:" ++ ip)
  selects : ∀ body, readBody r = some body → ∀ id, suppliedClientId lib r body = some id →
    ∀ key, countedIn lib r = some key → ¬ AnonymousKey key

/-- A text that looks like a key for requests without a client id. -/
def LooksAnonymous (id : String) : Prop :=
  startsWith id "register-ip:" = true ∨ id ∈ endpointClasses.map ("global:" ++ ·)

instance : DecidablePred LooksAnonymous := fun id => inferInstanceAs (Decidable (_ ∨ _))

/-- An anonymous registration has a body that can be read, and supplies no client id; what is supplied as a
client id does not look like another kind of key. -/
structure KeyedAsMeant (Authenticated : RouterRequest → Prop) (r : RouterRequest) : Prop where
  registration : AnonymousRegistration Authenticated r →
    ∃ body, readBody r = some body ∧ suppliedClientId lib r body = none
  supplied : ∀ body, readBody r = some body → ∀ id ∈ suppliedClientId lib r body, ¬ LooksAnonymous id

section separate

variable {lib} {Authenticated : RouterRequest → Prop} {r : RouterRequest}

theorem startsWith_iff {s start : String} : startsWith s start = true ↔ ∃ rest, s = start ++ rest := by
  unfold startsWith
  rw [List.isPrefixOf_iff_prefix]
  constructor
  · rintro ⟨rest, hrest⟩
    refine ⟨String.ofList rest, ?_⟩
    apply String.toList_injective
    simp [hrest]
  · rintro ⟨rest, rfl⟩
    simp

theorem looksAnonymous_iff {id : String} : LooksAnonymous id ↔ AnonymousKey id := by
  unfold LooksAnonymous AnonymousKey
  rw [startsWith_iff, or_comm, List.mem_map]
  simp [eq_comm]

/-- The class of every path is one of the fixed set. -/
theorem endpointClass_mem (path : String) : endpointClass path ∈ endpointClasses := by
  have hite : ∀ (c : Prop) [Decidable c] (a b : String), a ∈ endpointClasses → b ∈ endpointClasses →
      (if c then a else b) ∈ endpointClasses := by
    intro c _ a b ha hb
    split
    · exact ha
    · exact hb
  unfold endpointClass
  repeat' apply hite
  all_goals decide

theorem anonymousKey_bucket (r : RouterRequest) : AnonymousKey (anonymousBucketKey r) := by
  unfold anonymousBucketKey
  split
  · rename_i ip _
    exact .inr ⟨ip, rfl⟩
  · exact .inl ⟨_, endpointClass_mem r.path, rfl⟩

theorem countedIn_eq_some {key : String} :
    countedIn lib r = some key ↔ ∃ body, readBody r = some body ∧ bucketKey lib r body = key := by
  simp [countedIn]

/-- A registration from an address has the key of the address. -/
theorem anonymousBucketKey_register {ip : String} (hpath : r.path = "/oauth2/register")
    (hip : clientIp r = some ip) : anonymousBucketKey r = "register-ip:" ++ ip := by
  have hclass : endpointClass r.path = "register" := by
    rw [hpath]
    decide
  rw [anonymousBucketKey, if_pos hclass, hip]

/-- **Keys are separate** exactly if anonymous registrations supply no client id, in a body that can be
read, and no request supplies one that looks like another kind of key. -/
theorem keysSeparated_iff (lib : KeyLibraries) (Authenticated : RouterRequest → Prop) (r : RouterRequest) :
    KeysSeparated lib Authenticated r ↔ KeyedAsMeant lib Authenticated r := by
  constructor
  · intro h
    have hsupplied : ∀ body, readBody r = some body → ∀ id ∈ suppliedClientId lib r body,
        ¬ LooksAnonymous id := by
      intro body hbody id hid
      rw [looksAnonymous_iff]
      refine h.selects body hbody id hid id (countedIn_eq_some.mpr ⟨body, hbody, ?_⟩)
      rw [bucketKey, Option.mem_def.mp hid, Option.getD_some]
    refine ⟨fun hreg => ?_, hsupplied⟩
    obtain ⟨ip, hip⟩ := Option.isSome_iff_exists.mp hreg.2.2.2
    obtain ⟨body, hbody, hkey⟩ := countedIn_eq_some.mp (h.registers hreg ip hip)
    refine ⟨body, hbody, ?_⟩
    -- A client id that is the key of the address looks like one.
    by_contra hsome
    obtain ⟨id, hid⟩ := Option.ne_none_iff_exists'.mp hsome
    rw [bucketKey, hid, Option.getD_some] at hkey
    exact hsupplied body hbody id hid (looksAnonymous_iff.mpr (.inr ⟨ip, hkey⟩))
  · intro h
    constructor
    · intro hreg ip hip
      obtain ⟨body, hbody, hnone⟩ := h.registration hreg
      refine countedIn_eq_some.mpr ⟨body, hbody, ?_⟩
      rw [bucketKey, hnone, Option.getD_none]
      exact anonymousBucketKey_register hreg.2.1 hip
    · intro body hbody id hid key hkey hanon
      obtain ⟨body', hbody', rfl⟩ := countedIn_eq_some.mp hkey
      obtain rfl : body = body' := Option.some.inj (hbody.symm.trans hbody')
      rw [bucketKey, hid, Option.getD_some] at hanon
      exact h.supplied body hbody id hid (looksAnonymous_iff.mpr hanon)

/-- **An anonymous bucket is charged for its own requests alone**, where requests are keyed as meant. -/
theorem counted_own (h : KeyedAsMeant lib Authenticated r) {key : String} (hkey : countedIn lib r = some key)
    (hanon : AnonymousKey key) : key = anonymousBucketKey r := by
  obtain ⟨body, hbody, rfl⟩ := countedIn_eq_some.mp hkey
  unfold bucketKey at hanon ⊢
  cases hid : suppliedClientId lib r body with
  | none => rfl
  | some id =>
      rw [hid, Option.getD_some] at hanon
      exact absurd (looksAnonymous_iff.mpr hanon) (h.supplied body hbody id hid)

/-- The calls for an anonymous bucket are made by the requests of its class, or of its address. -/
theorem calls_own {qs : List TimedRequest} (h : ∀ q ∈ qs, KeyedAsMeant lib Authenticated q.request) {key : String}
    (hanon : AnonymousKey key) : ((rateCalls lib qs).filter fun call => call.key = key) =
      (rateCalls lib (qs.filter fun q => anonymousBucketKey q.request = key)).filter fun call => call.key = key := by
  induction qs with
  | nil => rfl
  | cons q qs ih =>
      have hrest := ih fun q' hq' => h q' (List.mem_cons_of_mem q hq')
      unfold rateCalls at hrest ⊢
      cases hkey : countedIn lib q.request with
      | none =>
          by_cases hown : anonymousBucketKey q.request = key
          · simpa [hkey, hown] using hrest
          · simpa [hkey, hown] using hrest
      | some k =>
          by_cases hk : k = key
          · have hown := counted_own (h q List.mem_cons_self) hkey (hk ▸ hanon)
            simpa [hkey, ← hown, hk] using hrest
          · by_cases hown : anonymousBucketKey q.request = key
            · simpa [hkey, hown, hk] using hrest
            · simpa [hkey, hown, hk] using hrest

end separate

/-! ## A borrowed bucket -/

/-- The fields of a form without escapes. -/
def plainForm (bytes : List UInt8) : List (String × String) :=
  (bytes.splitOn 38).map fun field =>
    (String.ofList ((field.takeWhile (· ≠ 61)).map fun b => Char.ofNat b.toNat),
      String.ofList (((field.dropWhile (· ≠ 61)).drop 1).map fun b => Char.ofNat b.toNat))

/-- A registration that names the bucket of another address as its client. -/
def borrowing : RouterRequest :=
  ⟨"POST", "/oauth2/register", some "client_id=register-ip:203.0.113.9", none, some "application/json",
    some "198.51.100.7", none, some []⟩

/-- It is counted for that address, and not for its own. -/
theorem borrowed_bucket : clientIp borrowing = some "198.51.100.7" ∧
    countedIn ⟨fun _ => none, plainForm⟩ borrowing = some "register-ip:203.0.113.9" ∧
    ¬ KeysSeparated ⟨fun _ => none, plainForm⟩ (fun _ => False) borrowing := by
  have hcounted : countedIn ⟨fun _ => none, plainForm⟩ borrowing = some "register-ip:203.0.113.9" := by
    decide +kernel
  refine ⟨by decide +kernel, hcounted, fun h => ?_⟩
  have hregistered := h.registers ⟨rfl, rfl, not_false, by decide +kernel⟩ "198.51.100.7" (by decide +kernel)
  rw [hcounted] at hregistered
  exact absurd hregistered (by decide)

end SsoGateway
