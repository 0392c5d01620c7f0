import SsoGateway.Lib.Base64Url
import SsoGateway.Lib.JsonText
import SsoGateway.Lib.Prog
import SsoGateway.Lib.Text
import SsoGateway.Lib.Utf8

/-!
# Signed cookies and session tokens

A cookie is a payload and its signature, both in base64, with a dot between them. The payload of a
session token is the JSON text of its claims.

* `CookieSigner.sign`, `CookieSigner.verify`, `SessionTokenSigner.issue`, `SessionTokenSigner.verify` —
  the signers.
* `CookieSigner.verify_eq_ok` — a cookie is accepted exactly if it is the one that was signed.
* `session_tokens_exact` — an issued token is accepted up to its expiry, and by no other signer.

Source: `cookie_signer.rs`, `session_token.rs`.
-/

namespace SsoGateway

open Lib

/-! ## Cookies -/

/-- HMAC-SHA256, taken as an injective function of its key and its message. -/
structure Hmac where
  mac : List UInt8 → List UInt8 → List UInt8
  injective : ∀ {k m k' m'}, mac k m = mac k' m' → k = k' ∧ m = m'

/-- Source: `CookieError`. -/
inductive CookieError where
  | invalidFormat
  | invalidBase64
  | invalidSignature
  | weakKey
deriving DecidableEq, Repr

/-- Source: `CookieSigner`. -/
structure CookieSigner where
  key : List UInt8
deriving DecidableEq, Repr

namespace CookieSigner

variable (hmac : Hmac)

/-- Source: `HKDF_INFO`. -/
def hkdfInfo : List UInt8 := utf8Bytes "sso-gateway-cookie-signer-v1"

/-- HKDF with no salt, for as many bytes as the hash has: its extraction and the first block of its
expansion. -/
def hkdf (keyMaterial info : List UInt8) : List UInt8 :=
  hmac.mac (hmac.mac (List.replicate 32 0) keyMaterial) (info ++ [1])

/-- Source: `CookieSigner::new`. -/
def new (keyMaterial : List UInt8) : Except CookieError CookieSigner :=
  if keyMaterial.length < 32 then .error .weakKey else .ok ⟨hkdf hmac keyMaterial hkdfInfo⟩

variable (signer : CookieSigner)

/-- Source: `signature`. -/
def signature (payload : String) : List UInt8 := hmac.mac signer.key (utf8Bytes payload)

/-- Source: `sign`. -/
def sign (payload : String) : String :=
  base64UrlEncode (utf8Bytes payload) ++ "." ++ base64UrlEncode (signer.signature hmac payload)

/-- The answer, or the error in place of none. -/
def orError {α : Type} (e : CookieError) : Option α → Except CookieError α
  | some a => .ok a
  | none => .error e

/-- Source: `verify`. -/
def verify (cookie : String) : Except CookieError String := do
  let (encodedPayload, encodedSignature) ← orError .invalidFormat (splitOnce cookie '.')
  let payloadBytes ← orError .invalidBase64 (base64UrlDecode encodedPayload)
  let payload ← orError .invalidFormat (fromUtf8 payloadBytes)
  let providedSignature ← orError .invalidBase64 (base64UrlDecode encodedSignature)
  if signer.signature hmac payload = providedSignature then .ok payload else .error .invalidSignature

end CookieSigner

/-! ## Session tokens -/

namespace SessionToken

/-- Source: `SessionClaims`. -/
structure SessionClaims where
  sub : String
  tenantId : String
  amr : String
  iss : String
  aud : String
  sid : String
  exp : Int64
deriving DecidableEq, Repr

/-- The claims as a JSON document: `Serialize`. -/
def SessionClaims.toValue (claims : SessionClaims) : Value :=
  .obj [("sub", .str claims.sub), ("tenant_id", .str claims.tenantId), ("amr", .str claims.amr),
    ("iss", .str claims.iss), ("aud", .str claims.aud), ("sid", .str claims.sid),
    ("exp", .number claims.exp.toInt.repr)]

/-- An integer of 64 bits. A minus sign before a zero makes a float of it. -/
def asI64 : Value → Option Int64
  | .number text =>
      if text = "-0" then none
      else (text.toInt?.filter fun i => -2 ^ 63 ≤ i ∧ i < 2 ^ 63).map Int64.ofInt
  | _ => none

/-- The claims with these values. -/
def SessionClaims.build (sub tenantId amr iss aud sid exp : Value) : Option SessionClaims := do
  some ⟨← sub.asStr, ← tenantId.asStr, ← amr.asStr, ← iss.asStr, ← aud.asStr, ← sid.asStr, ← asI64 exp⟩

/-- The field of this name, which must be there once. -/
def soleField (fields : List (String × Value)) (key : String) : Option Value :=
  match fields.filter fun kv => kv.1 = key with
  | [kv] => some kv.2
  | _ => none

/-- The claims in a JSON document: `Deserialize`. Other fields are passed over, and an array stands for
its items in the order of the fields. -/
def SessionClaims.ofValue : Value → Option SessionClaims
  | .obj fields => do
      SessionClaims.build (← soleField fields "sub") (← soleField fields "tenant_id")
        (← soleField fields "amr") (← soleField fields "iss") (← soleField fields "aud")
        (← soleField fields "sid") (← soleField fields "exp")
  | .arr [sub, tenantId, amr, iss, aud, sid, exp] =>
      SessionClaims.build sub tenantId amr iss aud sid exp
  | _ => none

/-- Source: `SessionTokenError`, the variants that are made. -/
inductive SessionTokenError where
  | invalidFormat
  | invalidSignature
  | expired
  | invalidIssuer
  | invalidAudience
  | serialization
deriving DecidableEq, Repr

/-- Source: `From<CookieError>`. -/
def SessionTokenError.ofCookieError : CookieError → SessionTokenError
  | .invalidFormat | .weakKey => .invalidFormat
  | .invalidBase64 | .invalidSignature => .invalidSignature

/-- Source: `SessionTokenSigner`. -/
structure SessionTokenSigner where
  signer : CookieSigner
  ttlSeconds : Int64
  issuer : String
deriving DecidableEq, Repr

namespace SessionTokenSigner

variable (hmac : Hmac)

/-- Source: `SessionTokenSigner::new`, which panics on a short secret. -/
def new (secret : List UInt8) (ttlSeconds : Int64) (issuer : String) : Option SessionTokenSigner :=
  match CookieSigner.new hmac secret with
  | .ok signer => some ⟨signer, ttlSeconds, issuer⟩
  | .error _ => none

variable (st : SessionTokenSigner)

/-- Source: `issue`, at the time `now` and with these random bytes. -/
def issue (entropy : List UInt8) (now : Int64) (sub tenantId amr : String) :
    Except SessionTokenError (String × SessionClaims) :=
  let sid := base64UrlEncode entropy
  let claims : SessionClaims := ⟨sub, tenantId, amr, st.issuer, tenantId, sid, now + st.ttlSeconds⟩
  let payload := claims.toValue.render
  let token := st.signer.sign hmac payload
  .ok (token, claims)

/-- The claims in a payload: `serde_json::from_str`. -/
def readClaims (payload : String) : Except SessionTokenError SessionClaims :=
  match (Value.read payload).bind SessionClaims.ofValue with
  | some claims => .ok claims
  | none => .error .serialization

/-- Source: `verify`, at the time `now`. -/
def verify (now : Int64) (token : String) : Except SessionTokenError SessionClaims := do
  let payload ← (st.signer.verify hmac token).mapError SessionTokenError.ofCookieError
  let claims ← readClaims payload
  if claims.exp < now then .error .expired
  else if claims.iss ≠ st.issuer then .error .invalidIssuer
  else if claims.aud ≠ claims.tenantId then .error .invalidAudience
  else .ok claims

end SessionTokenSigner

end SessionToken

/-! ## A cookie is accepted if it was signed -/

theorem CookieSigner.orError_eq_ok {α : Type} {e : CookieError} {o : Option α} {a : α} :
    CookieSigner.orError e o = .ok a ↔ o = some a := by
  cases o <;> simp [CookieSigner.orError]

theorem dot_not_mem_encode (bytes : List UInt8) : '.' ∉ (base64UrlEncode bytes).toList := by
  intro h
  have hdigit := isBase64Url_of_mem_encode h
  revert hdigit
  unfold IsBase64Url
  decide

/-- **A cookie is accepted exactly if it is the one that was signed.** -/
theorem CookieSigner.verify_eq_ok (hmac : Hmac) (signer : CookieSigner) (c p : String) :
    signer.verify hmac c = .ok p ↔ c = signer.sign hmac p := by
  have hdot : "." = String.singleton '.' := by decide
  unfold CookieSigner.verify CookieSigner.sign
  constructor
  · intro h
    obtain ⟨⟨encodedPayload, encodedSignature⟩, hsplit, h₁⟩ := except_bind_eq_ok.mp h
    obtain ⟨payloadBytes, hpayload, h₂⟩ := except_bind_eq_ok.mp h₁
    obtain ⟨payload, htext, h₃⟩ := except_bind_eq_ok.mp h₂
    obtain ⟨provided, hprovided, h₄⟩ := except_bind_eq_ok.mp h₃
    obtain ⟨-, hcookie⟩ := splitOnce_eq_some.mp (orError_eq_ok.mp hsplit)
    have hsigned := base64UrlDecode_eq_some.mp (orError_eq_ok.mp hprovided)
    have hencoded := base64UrlDecode_eq_some.mp (orError_eq_ok.mp hpayload)
    rw [fromUtf8_eq_some.mp (orError_eq_ok.mp htext)] at hencoded
    by_cases hsame : signer.signature hmac payload = provided
    · rw [if_pos hsame] at h₄
      obtain rfl := Except.ok.inj h₄
      rw [hcookie, hencoded, hsigned, hsame, hdot]
    · rw [if_neg hsame] at h₄
      simp at h₄
  · rintro rfl
    have hsplit := splitOnce_append (b := base64UrlEncode (signer.signature hmac p))
      (dot_not_mem_encode (utf8Bytes p))
    rw [hdot]
    refine except_bind_eq_ok.mpr ⟨_, orError_eq_ok.mpr hsplit, ?_⟩
    refine except_bind_eq_ok.mpr ⟨_, orError_eq_ok.mpr (base64UrlDecode_eq_some.mpr rfl), ?_⟩
    refine except_bind_eq_ok.mpr ⟨_, orError_eq_ok.mpr (fromUtf8_utf8Bytes p), ?_⟩
    refine except_bind_eq_ok.mpr ⟨_, orError_eq_ok.mpr (base64UrlDecode_eq_some.mpr rfl), ?_⟩
    exact if_pos rfl

/-- Equal cookies were signed with equal keys. -/
theorem CookieSigner.key_eq_of_sign_eq {hmac : Hmac} {signer signer' : CookieSigner} {p p' : String}
    (h : signer.sign hmac p = signer'.sign hmac p') : signer.key = signer'.key := by
  have hdot : "." = String.singleton '.' := by decide
  unfold CookieSigner.sign at h
  rw [hdot] at h
  have hsplit := splitOnce_append (b := base64UrlEncode (signer.signature hmac p))
    (dot_not_mem_encode (utf8Bytes p))
  rw [h, splitOnce_append (dot_not_mem_encode (utf8Bytes p'))] at hsplit
  have hsignature := (Prod.mk.inj (Option.some.inj hsplit)).2
  exact (hmac.injective (base64UrlEncode_injective hsignature)).1.symm

/-! ## A token is accepted if it was issued -/

namespace SessionToken

/-- The integers of 64 bits are written as numbers, and read back. -/
theorem asI64_repr (i : Int64) : asI64 (.number i.toInt.repr) = some i := by
  have hread : i.toInt.repr.toInt? = some i.toInt := Int.toInt?_repr i.toInt
  have hlow : -2 ^ 63 ≤ i.toInt := i.le_toInt
  have hhigh : i.toInt < 2 ^ 63 := i.toInt_lt
  rw [asI64, if_neg (Value.repr_ne_minus_zero _), hread, Option.filter_some, if_pos (by simpa using ⟨hlow, hhigh⟩),
    Option.map_some, Int64.ofInt_toInt]

/-- The claims are read back from their document. -/
theorem ofValue_toValue (claims : SessionClaims) : SessionClaims.ofValue claims.toValue = some claims := by
  simp [SessionClaims.toValue, SessionClaims.ofValue, soleField, SessionClaims.build, asI64_repr,
    Value.asStr]

theorem numeric_toValue (claims : SessionClaims) : claims.toValue.Numeric := by
  simp [SessionClaims.toValue, Value.Numeric, Value.NumericFields, Value.isNumber_repr]

namespace SessionTokenSigner

/-- The claims are read back from their text. -/
theorem readClaims_render (claims : SessionClaims) : readClaims claims.toValue.render = .ok claims := by
  rw [readClaims, Value.read_render (numeric_toValue claims), Option.bind_some, ofValue_toValue]

/-- What the check of an accepted cookie is about: the claims that it holds. -/
theorem verify_sign (hmac : Hmac) (st : SessionTokenSigner) (now : Int64) (claims : SessionClaims) :
    st.verify hmac now (st.signer.sign hmac claims.toValue.render) =
      if claims.exp < now then .error .expired
      else if claims.iss ≠ st.issuer then .error .invalidIssuer
      else if claims.aud ≠ claims.tenantId then .error .invalidAudience
      else .ok claims := by
  unfold verify
  rw [(CookieSigner.verify_eq_ok hmac st.signer _ _).mpr rfl]
  simp only [Except.mapError, readClaims_render, bind, Except.bind]

/-- Another key accepts nothing. -/
theorem verify_other_key (hmac : Hmac) (st : SessionTokenSigner) (now : Int64) {signer : CookieSigner}
    (hkey : signer.key ≠ st.signer.key) (payload : String) :
    ∃ e, st.verify hmac now (signer.sign hmac payload) = .error e := by
  cases hverify : st.signer.verify hmac (signer.sign hmac payload) with
  | error e => exact ⟨.ofCookieError e, by unfold verify; rw [hverify]; rfl⟩
  | ok p =>
      have hsame := (CookieSigner.verify_eq_ok hmac st.signer _ _).mp hverify
      exact absurd (CookieSigner.key_eq_of_sign_eq hsame) hkey

/-- Another issuer accepts nothing. -/
theorem verify_other_issuer (hmac : Hmac) (st : SessionTokenSigner) (now : Int64) {claims : SessionClaims}
    (hissuer : claims.iss ≠ st.issuer) :
    ∃ e, st.verify hmac now (st.signer.sign hmac claims.toValue.render) = .error e := by
  rw [verify_sign]
  by_cases hexpired : claims.exp < now
  · exact ⟨.expired, if_pos hexpired⟩
  · exact ⟨.invalidIssuer, by rw [if_neg hexpired, if_pos hissuer]⟩

/-- Different secrets make different keys. -/
theorem key_of_new {hmac : Hmac} {secret secret' : List UInt8} {ttl ttl' : Int64} {issuer issuer' : String}
    {st st' : SessionTokenSigner} (h : new hmac secret ttl issuer = some st)
    (h' : new hmac secret' ttl' issuer' = some st') (hkey : st.signer.key = st'.signer.key) :
    secret = secret' := by
  unfold new CookieSigner.new at h h'
  split_ifs at h h'
  simp at h h'
  subst h h'
  exact (hmac.injective (hmac.injective hkey).1).2

theorem issuer_of_new {hmac : Hmac} {secret : List UInt8} {ttl : Int64} {issuer : String}
    {st : SessionTokenSigner} (h : new hmac secret ttl issuer = some st) :
    st.issuer = issuer ∧ st.ttlSeconds = ttl := by
  unfold new at h
  split at h
  · obtain rfl := Option.some.inj h
    exact ⟨rfl, rfl⟩
  · simp at h

end SessionTokenSigner

end SessionToken

open SessionToken SessionTokenSigner in
/-- **Session tokens are accepted exactly when issued.** A cookie is accepted, with payload `p`, exactly
if it is what signing `p` gives. A token that was issued is accepted, with its claims, up to their
expiry, and refused afterwards; a signer with another secret or another issuer always refuses it. -/
theorem session_tokens_exact (hmac : Hmac) :
    (∀ (signer : CookieSigner) (c p : String), signer.verify hmac c = .ok p ↔ c = signer.sign hmac p) ∧
    ∀ (secret : List UInt8) (ttl : Int64) (issuer : String) (st : SessionTokenSigner),
      SessionTokenSigner.new hmac secret ttl issuer = some st →
      ∀ (entropy : List UInt8) (now : Int64) (sub tenantId amr : String), ∃ token claims,
        st.issue hmac entropy now sub tenantId amr = .ok (token, claims) ∧
        claims = ⟨sub, tenantId, amr, issuer, tenantId, base64UrlEncode entropy, now + ttl⟩ ∧
        (∀ later, later ≤ claims.exp → st.verify hmac later token = .ok claims) ∧
        (∀ later, claims.exp < later → ∃ e, st.verify hmac later token = .error e) ∧
        ∀ (secret' : List UInt8) (ttl' : Int64) (issuer' : String) (st' : SessionTokenSigner),
          SessionTokenSigner.new hmac secret' ttl' issuer' = some st' →
          secret' ≠ secret ∨ issuer' ≠ issuer →
          ∀ later, ∃ e, st'.verify hmac later token = .error e := by
  refine ⟨CookieSigner.verify_eq_ok hmac, fun secret ttl issuer st hst entropy now sub tenantId amr => ?_⟩
  obtain ⟨rfl, rfl⟩ := issuer_of_new hst
  refine ⟨_, _, rfl, rfl, fun later hlater => ?_, fun later hlater => ?_, ?_⟩
  · rw [verify_sign, if_neg (Int64.not_lt.mpr hlater), if_neg (fun h => h rfl), if_neg (fun h => h rfl)]
  · exact ⟨.expired, by rw [verify_sign, if_pos hlater]⟩
  · intro secret' ttl' issuer' st' hst' hother later
    by_cases hkey : st.signer.key = st'.signer.key
    · have hsecret := key_of_new hst hst' hkey
      have hissuer : st'.issuer ≠ st.issuer := by
        rw [(issuer_of_new hst').1]
        exact hother.resolve_left fun h => h hsecret.symm
      have hsigner : st.signer = st'.signer := by
        cases h : st.signer
        cases h' : st'.signer
        simpa [h, h'] using hkey
      rw [hsigner]
      exact verify_other_issuer hmac st' later (Ne.symm hissuer)
    · exact verify_other_key hmac st' later hkey _

/-- A function that writes its key with a mark before each byte, and then its message. -/
def markedMac (key message : List UInt8) : List UInt8 := key.flatMap (fun b => [1, b]) ++ 0 :: message

theorem markedMac_injective : ∀ {k m k' m' : List UInt8}, markedMac k m = markedMac k' m' → k = k' ∧ m = m'
  | [], m, [], m', h => ⟨rfl, (List.cons.inj h).2⟩
  | [], m, b :: k', m', h => absurd (List.cons.inj h).1 (by decide)
  | b :: k, m, [], m', h => absurd (List.cons.inj h).1 (by decide)
  | b :: k, m, b' :: k', m', h => by
      simp only [markedMac, List.flatMap_cons, List.cons_append, List.nil_append, List.cons.injEq,
        true_and] at h
      have hrest : k = k' ∧ m = m' := markedMac_injective h.2
      exact ⟨by rw [h.1, hrest.1], hrest.2⟩

/-- It may stand for HMAC. -/
def markedHmac : Hmac := ⟨markedMac, markedMac_injective⟩

/-- A secret of 32 bytes. -/
def testSecret : List UInt8 := List.replicate 32 115

open SessionToken in
/-- A token of an hour is accepted after an hour, and refused a second later; and so it is at once
where the issuer is another. -/
theorem session_tokens_exact_hour :
    ∃ st other token claims,
      SessionTokenSigner.new markedHmac testSecret 3600 "https://gateway.example.com" = some st ∧
      SessionTokenSigner.new markedHmac testSecret 3600 "https://evil.example.com" = some other ∧
      st.issue markedHmac [7] 0 "sub-1" "tenant-1" "oidc" = .ok (token, claims) ∧
      st.verify markedHmac 3600 token = .ok claims ∧
      (∃ e, st.verify markedHmac 3601 token = .error e) ∧
      ∃ e, other.verify markedHmac 0 token = .error e := by
  obtain ⟨token, claims, hissue, rfl, hlive, hexpired, hother⟩ :=
    (session_tokens_exact markedHmac).2 testSecret 3600 "https://gateway.example.com" _ rfl [7] 0 "sub-1"
      "tenant-1" "oidc"
  refine ⟨_, _, token, _, rfl, rfl, hissue, hlive 3600 (by decide), hexpired 3601 (by decide), ?_⟩
  exact hother testSecret 3600 "https://evil.example.com" _ rfl (.inr (by decide)) 0

end SsoGateway
