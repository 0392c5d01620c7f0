import SsoGateway.Errors
import SsoGateway.Lib.Base64
import SsoGateway.Lib.Text
import SsoGateway.Lib.Utf8Lossy

/-!
# Encryption of columns

Columns are sealed by AES-256-GCM under a key of the environment, and stored as the base64 text of nonce
and ciphertext. A key is loaded from 32 bytes on; the cipher takes one of exactly 32.

* `encryptionKeyFromEnv` — the loader of both stores.
* `CryptoLibrary`, `Documented` — the cipher, and what is documented of it.
* `encrypt`, `decrypt` — source's own.
* `encrypt_ok_iff` — when a text is encrypted.
* `decrypt_encrypt`, `sealedText_ne` — it is read back, and is not what is stored.

Source: `db/crypto.rs`, `encryption_key_from_env` of `db/connection.rs` and `db/saml_idp_key.rs`.
-/

namespace SsoGateway

open Lib

/-! ## Keys -/

/-- Base64 in the alphabet of URLs, with padding. -/
def base64UrlSafeBytes (l : List Char) : Option (List UInt8) :=
  if '+' ∈ l ∨ '/' ∈ l then none
  else base64Bytes (l.map fun c => if c = '-' then '+' else if c = '_' then '/' else c)

/-- Source: `encryption_key_from_env`, for the value of its variable. -/
def encryptionKeyFromEnv (value : Option String) : Option (List UInt8) :=
  (value.bind fun value =>
    (base64Bytes (trim value).toList).or (base64UrlSafeBytes (trim value).toList)).filter fun k =>
      32 ≤ k.length

/-! ## The cipher -/

/-- What is used of the libraries: the cipher, for a key, a nonce and a text, and how errors are shown. -/
structure CryptoLibrary where
  /-- `Aes256Gcm::encrypt`: the ciphertext with its tag. -/
  aesSeal : List UInt8 → List UInt8 → List UInt8 → Option (List UInt8)
  /-- `Aes256Gcm::decrypt`. -/
  aesOpen : List UInt8 → List UInt8 → List UInt8 → Option (List UInt8)
  displayDecodeError : String → String
  displayUtf8Error : List UInt8 → String

/-- The longest text that AES-GCM takes. -/
def maxPlaintext : ℕ := 2 ^ 36

/-- What is documented of the cipher, under keys of 32 bytes and nonces of 12. -/
structure CryptoLibrary.Documented (lib : CryptoLibrary) : Prop where
  opens : ∀ {key nonce plain sealed}, key.length = 32 → nonce.length = 12 →
    lib.aesSeal key nonce plain = some sealed → lib.aesOpen key nonce sealed = some plain
  seals : ∀ {key nonce plain}, key.length = 32 → nonce.length = 12 →
    ((lib.aesSeal key nonce plain).isSome ↔ plain.length ≤ maxPlaintext)
  length : ∀ {key nonce plain sealed}, lib.aesSeal key nonce plain = some sealed →
    sealed.length = plain.length + 16

/-- `sqlx::Error::Configuration`. -/
def configurationError (message : String) : DbError := .sqlx ("error with configuration: " ++ message)

/-- Source: `cipher`. -/
def cipher (key : List UInt8) : Except DbError Unit :=
  if key.length ≠ 32 then .error (configurationError "encryption key must be 32 bytes") else .ok ()

/-- Source: `encrypt`; the nonce is generated. -/
def encrypt (lib : CryptoLibrary) (nonce : List UInt8) (plaintext : String) (key : List UInt8) :
    Except DbError String := do
  cipher key
  match lib.aesSeal key nonce (utf8Bytes plaintext) with
  | none => .error (configurationError "encrypt: aead::Error")
  | some sealed => return String.ofList (base64Digits (nonce ++ sealed))

/-- Source: `decrypt`. -/
def decrypt (lib : CryptoLibrary) (ciphertext : String) (key : List UInt8) : Except DbError String := do
  cipher key
  match base64Bytes ciphertext.toList with
  | none => .error (configurationError ("base64: " ++ lib.displayDecodeError ciphertext))
  | some bytes =>
      if bytes.length < 12 then .error (configurationError "ciphertext too short")
      else
        match lib.aesOpen key (bytes.take 12) (bytes.drop 12) with
        | none => .error (configurationError "decrypt: aead::Error")
        | some plain =>
            match fromUtf8 plain with
            | none => .error (configurationError ("decrypt utf8: " ++ lib.displayUtf8Error plain))
            | some text => return text

/-! ## What is encrypted -/

/-- The text fits the cipher, under this key. -/
def Encryptable (key : List UInt8) (plaintext : String) : Prop :=
  key.length = 32 ∧ (utf8Bytes plaintext).length ≤ maxPlaintext

/-- The text that a nonce and a ciphertext are stored as. -/
def sealedText (nonce sealed : List UInt8) : String := String.ofList (base64Digits (nonce ++ sealed))

section cipher

variable {lib : CryptoLibrary} {nonce key : List UInt8} {plaintext : String}

theorem encrypt_eq_ok {s : String} : encrypt lib nonce plaintext key = .ok s ↔
    key.length = 32 ∧ ∃ sealed, lib.aesSeal key nonce (utf8Bytes plaintext) = some sealed ∧
      s = sealedText nonce sealed := by
  unfold encrypt cipher
  by_cases hkey : key.length = 32
  · rcases hseal : lib.aesSeal key nonce (utf8Bytes plaintext) with _ | sealed
    · simp [hkey, bind, Except.bind]
    · simp [hkey, bind, Except.bind, pure, Except.pure, sealedText, eq_comm]
  · simp [hkey, bind, Except.bind]

/-- **A text is encrypted just if the key has 32 bytes and the text is not too long.** -/
theorem encrypt_ok_iff (h : lib.Documented) (hnonce : nonce.length = 12) :
    (∃ s, encrypt lib nonce plaintext key = .ok s) ↔ Encryptable key plaintext := by
  constructor
  · rintro ⟨s, hs⟩
    obtain ⟨hkey, sealed, hseal, -⟩ := encrypt_eq_ok.mp hs
    refine ⟨hkey, (h.seals hkey hnonce).mp ?_⟩
    rw [hseal]
    rfl
  · rintro ⟨hkey, hlength⟩
    obtain ⟨sealed, hseal⟩ := Option.isSome_iff_exists.mp ((h.seals hkey hnonce).mpr hlength)
    exact ⟨_, encrypt_eq_ok.mpr ⟨hkey, sealed, hseal, rfl⟩⟩

/-- **What was encrypted is decrypted.** -/
theorem decrypt_encrypt (h : lib.Documented) (hnonce : nonce.length = 12) {s : String}
    (hs : encrypt lib nonce plaintext key = .ok s) : decrypt lib s key = .ok plaintext := by
  obtain ⟨hkey, sealed, hseal, rfl⟩ := encrypt_eq_ok.mp hs
  have hdigits : base64Bytes (sealedText nonce sealed).toList = some (nonce ++ sealed) := by
    rw [sealedText, String.toList_ofList, base64Bytes_base64Digits]
  have htake : (nonce ++ sealed).take 12 = nonce := List.take_left' hnonce
  have hdrop : (nonce ++ sealed).drop 12 = sealed := List.drop_left' hnonce
  have hlong : ¬ (nonce ++ sealed).length < 12 := by
    rw [List.length_append]
    omega
  unfold decrypt cipher
  rw [if_neg (by simp [hkey]), hdigits]
  dsimp only [bind, Except.bind]
  rw [if_neg hlong, htake, hdrop, h.opens hkey hnonce hseal]
  dsimp only
  rw [fromUtf8_utf8Bytes]
  rfl

/-- A text has at least as many bytes as characters. -/
theorem length_le_utf8Bytes (s : String) : s.toList.length ≤ (utf8Bytes s).length := by
  rw [utf8Bytes_eq]
  induction s.toList with
  | nil => rfl
  | cons c l ih =>
      have hpos : 0 < (String.utf8EncodeChar c).length := List.length_pos_iff.mpr String.utf8EncodeChar_ne_nil
      rw [List.flatMap_cons, List.length_append, List.length_cons]
      omega

/-- Bytes have at least as many digits. -/
theorem length_le_base64Digits (bytes : List UInt8) : bytes.length ≤ (base64Digits bytes).length := by
  induction bytes using base64Digits.induct with
  | case1 => rfl
  | case2 a => simp [base64Digits]
  | case3 a b => simp [base64Digits]
  | case4 a b c rest ih =>
      simp only [base64Digits, List.length_cons]
      omega

/-- **What is stored is not the text**: it is longer. -/
theorem sealedText_ne (h : lib.Documented) {sealed : List UInt8}
    (hseal : lib.aesSeal key nonce (utf8Bytes plaintext) = some sealed) (start : String) :
    start ++ sealedText nonce sealed ≠ plaintext := by
  intro hsame
  have hbytes := length_le_utf8Bytes plaintext
  have hdigits := length_le_base64Digits (nonce ++ sealed)
  have hsealed := h.length hseal
  have htext := congrArg (fun s => s.toList.length) hsame
  simp only [String.toList_append, List.length_append, sealedText, String.toList_ofList] at htext hdigits
  omega

end cipher

/-! ## An environment for examples -/

/-- A cipher that counts each byte up, with a tag of zeros. -/
def CryptoLibrary.plain : CryptoLibrary where
  aesSeal _ _ plain :=
    if plain.length ≤ maxPlaintext then some (plain.map (· + 1) ++ List.replicate 16 0) else none
  aesOpen _ _ sealed := some ((sealed.take (sealed.length - 16)).map (· - 1))
  displayDecodeError _ := ""
  displayUtf8Error _ := ""

theorem documented_plain : CryptoLibrary.plain.Documented where
  opens := by
    rintro key nonce plain sealed - - hseal
    obtain ⟨-, hsealed⟩ := Option.ite_none_right_eq_some.mp hseal
    obtain rfl := Option.some.inj hsealed
    simp [CryptoLibrary.plain, Function.comp_def]
  seals := by
    rintro key nonce plain - -
    by_cases hplain : plain.length ≤ maxPlaintext <;> simp [CryptoLibrary.plain, hplain]
  length := by
    intro key nonce plain sealed hseal
    obtain ⟨-, hsealed⟩ := Option.ite_none_right_eq_some.mp hseal
    obtain rfl := Option.some.inj hsealed
    simp

end SsoGateway
