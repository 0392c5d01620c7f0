import SsoGateway.Lib.Base64

/-!
# Base64 for URLs

The alphabet of URLs, without padding. The decoder is strict: it refuses a single digit at the end,
and bits that no byte takes up. So every text is the encoding of at most one list of bytes, and every
list of bytes has one encoding only.

* `base64UrlEncode`, `base64UrlDecode` — bytes as a text, and back.
* `base64UrlDecode_eq_some` — a text is decoded exactly if it is an encoding.

Nothing here is about a particular service.
-/

namespace SsoGateway.Lib

/-- The sixty-four digits. -/
def base64UrlAlphabet : List Char :=
  "ABCDEFGHIJKLMNOPQRSTUVWXYZabcdefghijklmnopqrstuvwxyz0123456789-_".toList

/-- The digit of a number below sixty-four. -/
def base64UrlDigit (n : ℕ) : Char := base64UrlAlphabet.getD n '='

/-- The number of a digit. -/
def base64UrlValue (c : Char) : Option ℕ := base64UrlAlphabet.findIdx? (· = c)

/-- Three bytes make four digits. -/
def base64UrlDigits : List UInt8 → List Char
  | [] => []
  | [a] => [base64UrlDigit (a.toNat / 4), base64UrlDigit (a.toNat % 4 * 16)]
  | [a, b] => [base64UrlDigit (a.toNat / 4), base64UrlDigit (a.toNat % 4 * 16 + b.toNat / 16),
      base64UrlDigit (b.toNat % 16 * 4)]
  | a :: b :: c :: rest => base64UrlDigit (a.toNat / 4) ::
      base64UrlDigit (a.toNat % 4 * 16 + b.toNat / 16) ::
      base64UrlDigit (b.toNat % 16 * 4 + c.toNat / 64) :: base64UrlDigit (c.toNat % 64) ::
      base64UrlDigits rest

/-- The bytes of some digits. -/
def base64UrlBytes : List Char → Option (List UInt8)
  | [] => some []
  | [_] => none
  | [c₀, c₁] => do
      let v₀ ← base64UrlValue c₀
      let v₁ ← base64UrlValue c₁
      if v₁ % 16 = 0 then some [UInt8.ofNat (v₀ * 4 + v₁ / 16)] else none
  | [c₀, c₁, c₂] => do
      let v₀ ← base64UrlValue c₀
      let v₁ ← base64UrlValue c₁
      let v₂ ← base64UrlValue c₂
      if v₂ % 4 = 0 then some [UInt8.ofNat (v₀ * 4 + v₁ / 16), UInt8.ofNat (v₁ % 16 * 16 + v₂ / 4)]
      else none
  | c₀ :: c₁ :: c₂ :: c₃ :: rest => do
      let v₀ ← base64UrlValue c₀
      let v₁ ← base64UrlValue c₁
      let v₂ ← base64UrlValue c₂
      let v₃ ← base64UrlValue c₃
      let bytes ← base64UrlBytes rest
      some (UInt8.ofNat (v₀ * 4 + v₁ / 16) :: UInt8.ofNat (v₁ % 16 * 16 + v₂ / 4) ::
        UInt8.ofNat (v₂ % 4 * 64 + v₃) :: bytes)

/-- The text of some bytes. -/
def base64UrlEncode (bytes : List UInt8) : String := String.ofList (base64UrlDigits bytes)

/-- The bytes of a text. -/
def base64UrlDecode (s : String) : Option (List UInt8) := base64UrlBytes s.toList

/-! ## Digits -/

theorem base64UrlValue_eq_some {c : Char} {n : ℕ} :
    base64UrlValue c = some n ↔ n < 64 ∧ c = base64UrlDigit n := by
  constructor
  · intro h
    obtain ⟨hlt, hc, -⟩ := List.findIdx?_eq_some_iff_getElem.mp h
    have hn : n < 64 := hlt
    refine ⟨hn, ?_⟩
    have hget : base64UrlAlphabet.getD n '=' = base64UrlAlphabet[n] := by
      rw [List.getD_eq_getElem?_getD, List.getElem?_eq_getElem hlt]
      rfl
    rw [base64UrlDigit, hget]
    exact (of_decide_eq_true hc).symm
  · rintro ⟨hn, rfl⟩
    have hall : ∀ n : Fin 64, base64UrlValue (base64UrlDigit n) = some n.val := by decide +kernel
    exact hall ⟨n, hn⟩

/-- What stands in an encoding. -/
def IsBase64Url (c : Char) : Prop := c ∈ base64UrlAlphabet

theorem isBase64Url_digit {n : ℕ} (hn : n < 64) : IsBase64Url (base64UrlDigit n) := by
  have hall : ∀ n : Fin 64, base64UrlDigit n ∈ base64UrlAlphabet := by decide +kernel
  exact hall ⟨n, hn⟩

theorem isBase64Url_of_mem_digits (bytes : List UInt8) :
    ∀ c ∈ base64UrlDigits bytes, IsBase64Url c := by
  induction bytes using base64UrlDigits.induct with
  | case1 => simp [base64UrlDigits]
  | case2 a =>
      have := a.toNat_lt
      simp only [base64UrlDigits, List.forall_mem_cons]
      exact ⟨isBase64Url_digit (by omega), isBase64Url_digit (by omega), List.forall_mem_nil _⟩
  | case3 a b =>
      have := a.toNat_lt
      have := b.toNat_lt
      simp only [base64UrlDigits, List.forall_mem_cons]
      exact ⟨isBase64Url_digit (by omega), isBase64Url_digit (by omega), isBase64Url_digit (by omega),
        List.forall_mem_nil _⟩
  | case4 a b c rest ih =>
      have := a.toNat_lt
      have := b.toNat_lt
      have := c.toNat_lt
      simp only [base64UrlDigits, List.forall_mem_cons]
      exact ⟨isBase64Url_digit (by omega), isBase64Url_digit (by omega), isBase64Url_digit (by omega),
        isBase64Url_digit (by omega), ih⟩

/-! ## The decoder is the inverse of the encoder -/

theorem base64UrlBytes_base64UrlDigits (bytes : List UInt8) :
    base64UrlBytes (base64UrlDigits bytes) = some bytes := by
  have hvalue : ∀ {n : ℕ}, n < 64 → base64UrlValue (base64UrlDigit n) = some n := fun hn =>
    base64UrlValue_eq_some.mpr ⟨hn, rfl⟩
  induction bytes using base64UrlDigits.induct with
  | case1 => rfl
  | case2 a =>
      have ha := a.toNat_lt
      simp only [base64UrlDigits, base64UrlBytes, hvalue (n := a.toNat / 4) (by omega),
        hvalue (n := a.toNat % 4 * 16) (by omega), Option.bind_eq_bind, Option.bind_some]
      rw [if_pos (by omega), ofNat_eq (b := a) (by omega)]
  | case3 a b =>
      have ha := a.toNat_lt
      have hb := b.toNat_lt
      simp only [base64UrlDigits, base64UrlBytes, hvalue (n := a.toNat / 4) (by omega),
        hvalue (n := a.toNat % 4 * 16 + b.toNat / 16) (by omega),
        hvalue (n := b.toNat % 16 * 4) (by omega), Option.bind_eq_bind, Option.bind_some]
      rw [if_pos (by omega), ofNat_eq (b := a) (by omega), ofNat_eq (b := b) (by omega)]
  | case4 a b c rest ih =>
      have ha := a.toNat_lt
      have hb := b.toNat_lt
      have hc := c.toNat_lt
      simp only [base64UrlDigits, base64UrlBytes, hvalue (n := a.toNat / 4) (by omega),
        hvalue (n := a.toNat % 4 * 16 + b.toNat / 16) (by omega),
        hvalue (n := b.toNat % 16 * 4 + c.toNat / 64) (by omega),
        hvalue (n := c.toNat % 64) (by omega), ih, Option.bind_eq_bind, Option.bind_some]
      rw [ofNat_eq (b := a) (by omega), ofNat_eq (b := b) (by omega), ofNat_eq (b := c) (by omega)]

theorem toNat_ofNat_lt {n : ℕ} (hn : n < 256) : (UInt8.ofNat n).toNat = n := by
  rw [UInt8.toNat_ofNat']
  omega

/-- Digits that are decoded are those of the bytes. -/
theorem eq_base64UrlDigits {cs : List Char} : ∀ {bytes : List UInt8},
    base64UrlBytes cs = some bytes → cs = base64UrlDigits bytes := by
  induction cs using base64UrlBytes.induct with
  | case1 =>
      intro bytes h
      obtain rfl := Option.some.inj h
      rfl
  | case2 c =>
      intro bytes h
      simp [base64UrlBytes] at h
  | case3 c₀ c₁ =>
      intro bytes h
      simp only [base64UrlBytes, Option.bind_eq_bind, Option.bind_eq_some_iff] at h
      obtain ⟨v₀, h₀, v₁, h₁, h⟩ := h
      obtain ⟨hv₀, rfl⟩ := base64UrlValue_eq_some.mp h₀
      obtain ⟨hv₁, rfl⟩ := base64UrlValue_eq_some.mp h₁
      split at h
      · obtain rfl := Option.some.inj h
        have hbyte := toNat_ofNat_lt (n := v₀ * 4 + v₁ / 16) (by omega)
        simp only [base64UrlDigits, hbyte]
        congr 2
        · omega
        · congr 1
          omega
      · simp at h
  | case4 c₀ c₁ c₂ =>
      intro bytes h
      simp only [base64UrlBytes, Option.bind_eq_bind, Option.bind_eq_some_iff] at h
      obtain ⟨v₀, h₀, v₁, h₁, v₂, h₂, h⟩ := h
      obtain ⟨hv₀, rfl⟩ := base64UrlValue_eq_some.mp h₀
      obtain ⟨hv₁, rfl⟩ := base64UrlValue_eq_some.mp h₁
      obtain ⟨hv₂, rfl⟩ := base64UrlValue_eq_some.mp h₂
      split at h
      · obtain rfl := Option.some.inj h
        have hbyte₀ := toNat_ofNat_lt (n := v₀ * 4 + v₁ / 16) (by omega)
        have hbyte₁ := toNat_ofNat_lt (n := v₁ % 16 * 16 + v₂ / 4) (by omega)
        have e₀ : (v₀ * 4 + v₁ / 16) / 4 = v₀ := by omega
        have e₁ : (v₀ * 4 + v₁ / 16) % 4 * 16 + (v₁ % 16 * 16 + v₂ / 4) / 16 = v₁ := by omega
        have e₂ : (v₁ % 16 * 16 + v₂ / 4) % 16 * 4 = v₂ := by omega
        simp only [base64UrlDigits, hbyte₀, hbyte₁, e₀, e₁, e₂]
      · simp at h
  | case5 c₀ c₁ c₂ c₃ rest ih =>
      intro bytes h
      simp only [base64UrlBytes, Option.bind_eq_bind, Option.bind_eq_some_iff] at h
      obtain ⟨v₀, h₀, v₁, h₁, v₂, h₂, v₃, h₃, tail, htail, h⟩ := h
      obtain ⟨hv₀, rfl⟩ := base64UrlValue_eq_some.mp h₀
      obtain ⟨hv₁, rfl⟩ := base64UrlValue_eq_some.mp h₁
      obtain ⟨hv₂, rfl⟩ := base64UrlValue_eq_some.mp h₂
      obtain ⟨hv₃, rfl⟩ := base64UrlValue_eq_some.mp h₃
      obtain rfl := Option.some.inj h
      have hbyte₀ := toNat_ofNat_lt (n := v₀ * 4 + v₁ / 16) (by omega)
      have hbyte₁ := toNat_ofNat_lt (n := v₁ % 16 * 16 + v₂ / 4) (by omega)
      have hbyte₂ := toNat_ofNat_lt (n := v₂ % 4 * 64 + v₃) (by omega)
      have e₀ : (v₀ * 4 + v₁ / 16) / 4 = v₀ := by omega
      have e₁ : (v₀ * 4 + v₁ / 16) % 4 * 16 + (v₁ % 16 * 16 + v₂ / 4) / 16 = v₁ := by omega
      have e₂ : (v₁ % 16 * 16 + v₂ / 4) % 16 * 4 + (v₂ % 4 * 64 + v₃) / 64 = v₂ := by omega
      have e₃ : (v₂ % 4 * 64 + v₃) % 64 = v₃ := by omega
      simp only [base64UrlDigits, hbyte₀, hbyte₁, hbyte₂, e₀, e₁, e₂, e₃, ← ih htail]

/-- **A text is decoded exactly if it is an encoding.** -/
theorem base64UrlDecode_eq_some {s : String} {bytes : List UInt8} :
    base64UrlDecode s = some bytes ↔ s = base64UrlEncode bytes := by
  constructor
  · intro h
    rw [base64UrlEncode, ← eq_base64UrlDigits h, String.ofList_toList]
  · rintro rfl
    rw [base64UrlDecode, base64UrlEncode, String.toList_ofList, base64UrlBytes_base64UrlDigits]

/-- Different bytes have different encodings. -/
theorem base64UrlEncode_injective : Function.Injective base64UrlEncode := fun bytes bytes' h => by
  have hdecode := base64UrlDecode_eq_some.mpr h
  rw [base64UrlDecode_eq_some.mpr rfl] at hdecode
  exact Option.some.inj hdecode

/-- An encoding has digits only. -/
theorem isBase64Url_of_mem_encode {bytes : List UInt8} {c : Char}
    (hc : c ∈ (base64UrlEncode bytes).toList) : IsBase64Url c := by
  rw [base64UrlEncode, String.toList_ofList] at hc
  exact isBase64Url_of_mem_digits bytes c hc

example : base64UrlEncode [115, 117, 98, 45, 255] = "c3ViLf8" := by decide +kernel

example : base64UrlDecode "c3ViLf9" = none := by decide +kernel

end SsoGateway.Lib
