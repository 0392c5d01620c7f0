import Mathlib.Data.List.Basic

/-!
# Base64

* `base64Encode`, `base64Decode` — the bytes of a text in the standard alphabet, with padding, and
  back. The decoder refuses bits under the padding.
* `base64Decode_base64Encode` — what was encoded is decoded.

Nothing here is about a particular service.
-/

namespace SsoGateway.Lib

/-- The sixty-four digits. -/
def base64Alphabet : List Char :=
  "ABCDEFGHIJKLMNOPQRSTUVWXYZabcdefghijklmnopqrstuvwxyz0123456789+/".toList

/-- The digit of a number below sixty-four. -/
def base64Digit (n : ℕ) : Char := base64Alphabet.getD n '='

/-- The number of a digit. -/
def base64Value (c : Char) : Option ℕ := base64Alphabet.findIdx? (· = c)

/-- Three bytes make four digits. -/
def base64Digits : List UInt8 → List Char
  | [] => []
  | [a] => [base64Digit (a.toNat / 4), base64Digit (a.toNat % 4 * 16), '=', '=']
  | [a, b] => [base64Digit (a.toNat / 4), base64Digit (a.toNat % 4 * 16 + b.toNat / 16),
      base64Digit (b.toNat % 16 * 4), '=']
  | a :: b :: c :: rest => base64Digit (a.toNat / 4) :: base64Digit (a.toNat % 4 * 16 + b.toNat / 16) ::
      base64Digit (b.toNat % 16 * 4 + c.toNat / 64) :: base64Digit (c.toNat % 64) :: base64Digits rest

/-- The bytes of some digits. -/
def base64Bytes : List Char → Option (List UInt8)
  | [] => some []
  | c₀ :: c₁ :: c₂ :: c₃ :: rest => do
      let v₀ ← base64Value c₀
      let v₁ ← base64Value c₁
      if rest = [] ∧ c₂ = '=' ∧ c₃ = '=' then
        if v₁ % 16 = 0 then some [UInt8.ofNat (v₀ * 4 + v₁ / 16)] else none
      else
        let v₂ ← base64Value c₂
        if rest = [] ∧ c₃ = '=' then
          if v₂ % 4 = 0 then some [UInt8.ofNat (v₀ * 4 + v₁ / 16), UInt8.ofNat (v₁ % 16 * 16 + v₂ / 4)]
          else none
        else
          let v₃ ← base64Value c₃
          let bytes ← base64Bytes rest
          some (UInt8.ofNat (v₀ * 4 + v₁ / 16) :: UInt8.ofNat (v₁ % 16 * 16 + v₂ / 4) ::
            UInt8.ofNat (v₂ % 4 * 64 + v₃) :: bytes)
  | _ => none

/-- The UTF-8 bytes of a text in base64. -/
def base64Encode (s : String) : String := String.ofList (base64Digits s.toByteArray.data.toList)

/-- The text whose UTF-8 bytes these are. -/
def base64Decode (token : String) : Option String :=
  (base64Bytes token.toList).bind fun bytes => String.fromUTF8? ⟨bytes.toArray⟩

/-! ## What was encoded is decoded -/

theorem base64Value_base64Digit {n : ℕ} (hn : n < 64) : base64Value (base64Digit n) = some n := by
  have hall : ∀ n : Fin 64, base64Value (base64Digit n) = some n.val := by decide +kernel
  exact hall ⟨n, hn⟩

theorem base64Digit_ne_pad {n : ℕ} (hn : n < 64) : base64Digit n ≠ '=' := by
  have hall : ∀ n : Fin 64, base64Digit n ≠ '=' := by decide +kernel
  exact hall ⟨n, hn⟩

theorem ofNat_eq {b : UInt8} {n : ℕ} (h : n = b.toNat) : UInt8.ofNat n = b := by
  rw [h, UInt8.ofNat_toNat]

theorem base64Bytes_base64Digits (bytes : List UInt8) : base64Bytes (base64Digits bytes) = some bytes := by
  induction bytes using base64Digits.induct with
  | case1 => rfl
  | case2 a =>
      have ha := a.toNat_lt
      have h₀ := base64Value_base64Digit (n := a.toNat / 4) (by omega)
      have h₁ := base64Value_base64Digit (n := a.toNat % 4 * 16) (by omega)
      simp only [base64Digits, base64Bytes, h₀, h₁, Option.bind_eq_bind, Option.bind_some, and_self,
        ↓reduceIte]
      rw [if_pos (by omega), ofNat_eq (b := a) (by omega)]
  | case3 a b =>
      have ha := a.toNat_lt
      have hb := b.toNat_lt
      have h₀ := base64Value_base64Digit (n := a.toNat / 4) (by omega)
      have h₁ := base64Value_base64Digit (n := a.toNat % 4 * 16 + b.toNat / 16) (by omega)
      have h₂ := base64Value_base64Digit (n := b.toNat % 16 * 4) (by omega)
      have hpad := base64Digit_ne_pad (n := b.toNat % 16 * 4) (by omega)
      simp only [base64Digits, base64Bytes, h₀, h₁, h₂, hpad, Option.bind_eq_bind, Option.bind_some,
        false_and, and_false, and_self, ↓reduceIte]
      rw [if_pos (by omega), ofNat_eq (b := a) (by omega), ofNat_eq (b := b) (by omega)]
  | case4 a b c rest ih =>
      have ha := a.toNat_lt
      have hb := b.toNat_lt
      have hc := c.toNat_lt
      have h₀ := base64Value_base64Digit (n := a.toNat / 4) (by omega)
      have h₁ := base64Value_base64Digit (n := a.toNat % 4 * 16 + b.toNat / 16) (by omega)
      have h₂ := base64Value_base64Digit (n := b.toNat % 16 * 4 + c.toNat / 64) (by omega)
      have h₃ := base64Value_base64Digit (n := c.toNat % 64) (by omega)
      have hpad := base64Digit_ne_pad (n := c.toNat % 64) (by omega)
      simp only [base64Digits, base64Bytes, h₀, h₁, h₂, h₃, hpad, ih, Option.bind_eq_bind, Option.bind_some,
        and_false, ↓reduceIte]
      rw [ofNat_eq (b := a) (by omega), ofNat_eq (b := b) (by omega), ofNat_eq (b := c) (by omega)]

/-- **What was encoded is decoded.** -/
theorem base64Decode_base64Encode (s : String) : base64Decode (base64Encode s) = some s := by
  unfold base64Decode base64Encode
  rw [String.toList_ofList, base64Bytes_base64Digits, Option.bind_some]
  simp only [String.fromUTF8?, Array.toArray_toList, dif_pos s.isValidUTF8]
  rfl

example : base64Encode "1700000000000000000:01HV" = "MTcwMDAwMDAwMDAwMDAwMDAwMDowMUhW" := by
  decide +kernel

end SsoGateway.Lib
