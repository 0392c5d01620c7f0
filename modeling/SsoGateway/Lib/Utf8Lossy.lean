import SsoGateway.Lib.Utf8

/-!
# Reading bytes that need not be a text

The decoder that puts U+FFFD for every maximal run of bytes that begins no character
(`String::from_utf8_lossy`). It reads one byte at a time, and remembers what a character still needs.

* `Pending`, `step`, `decode` — the decoder.
* `decode_utf8EncodeChar` — a character among other bytes is read as itself.
* `fromUtf8Lossy_utf8Bytes` — a text is read back from its bytes.

Nothing here is about a particular service.
-/

namespace SsoGateway.Lib

/-- A character that has begun: the bytes it still needs, the bounds of the next one, and what its code
point is so far. -/
structure Pending where
  needed : ℕ
  lower : ℕ
  upper : ℕ
  value : ℕ
  continues : 0x80 ≤ lower ∧ upper ≤ 0xBF

/-- The replacement character. -/
def replacement : Char := '\uFFFD'

/-- After the first byte of a character, the next may be any that continues one. -/
def Pending.any (needed value : ℕ) : Pending := ⟨needed, 0x80, 0xBF, value, by decide⟩

/-- A byte where no character has begun. The bounds after E0, ED, F0 and F4 leave out the overlong forms,
the surrogates and what is above the last code point. -/
def startChar (b : ℕ) : List Char × Option Pending :=
  if b < 0x80 then ([Char.ofNat b], none)
  else if b < 0xC2 then ([replacement], none)
  else if b < 0xE0 then ([], some (.any 1 (b - 0xC0)))
  else if b = 0xE0 then ([], some ⟨2, 0xA0, 0xBF, 0, by decide⟩)
  else if b = 0xED then ([], some ⟨2, 0x80, 0x9F, 0xD, by decide⟩)
  else if b < 0xF0 then ([], some (.any 2 (b - 0xE0)))
  else if b = 0xF0 then ([], some ⟨3, 0x90, 0xBF, 0, by decide⟩)
  else if b < 0xF4 then ([], some (.any 3 (b - 0xF0)))
  else if b = 0xF4 then ([], some ⟨3, 0x80, 0x8F, 4, by decide⟩)
  else ([replacement], none)

/-- One byte: what it adds to the text, and what is pending after it. A byte that does not continue the
character that has begun ends it, and is read anew. -/
def decodeByte : Option Pending → UInt8 → List Char × Option Pending
  | none, b => startChar b.toNat
  | some p, b =>
      if p.lower ≤ b.toNat ∧ b.toNat ≤ p.upper then
        if p.needed ≤ 1 then ([Char.ofNat (p.value * 64 + (b.toNat - 0x80))], none)
        else ([], some (.any (p.needed - 1) (p.value * 64 + (b.toNat - 0x80))))
      else (replacement :: (startChar b.toNat).1, (startChar b.toNat).2)

/-- What is left of a character that has begun, where it breaks off. -/
def flush : Option Pending → List Char
  | none => []
  | some _ => [replacement]

/-- The characters of some bytes. -/
def decodeBytes : Option Pending → List UInt8 → List Char
  | st, [] => flush st
  | st, b :: bs => (decodeByte st b).1 ++ decodeBytes (decodeByte st b).2 bs

/-- `String::from_utf8_lossy`. -/
def fromUtf8Lossy (bytes : List UInt8) : String := String.ofList (decodeBytes none bytes)

/-! ## Characters among other bytes -/

/-- A byte that continues no character ends the one that has begun. -/
theorem decodeByte_of_first {b : UInt8} (h : b.toNat < 0x80 ∨ 0xC0 ≤ b.toNat) (st : Option Pending) :
    decodeByte st b = (flush st ++ (startChar b.toNat).1, (startChar b.toNat).2) := by
  rcases st with _ | p
  · rfl
  · have hp := p.continues
    have hout : ¬ (p.lower ≤ b.toNat ∧ b.toNat ≤ p.upper) := by omega
    simp only [decodeByte, if_neg hout, flush, List.cons_append, List.nil_append]

theorem toNat_ofNat_of_lt {n : ℕ} (h : n < 256) : (UInt8.ofNat n).toNat = n := by
  simp [Nat.mod_eq_of_lt h]

/-- A code point is no surrogate. -/
theorem Char.not_surrogate (c : Char) : ¬ (0xD800 ≤ c.toNat ∧ c.toNat ≤ 0xDFFF) ∧ c.toNat < 0x110000 := by
  have hvalid := c.valid
  simp only [UInt32.isValidChar, Nat.isValidChar] at hvalid
  have hnat : c.toNat = c.val.toNat := rfl
  omega

/-- A byte within the bounds continues the character, or completes it. -/
theorem decodeByte_within {p : Pending} {x : ℕ} (hx : x < 64) (hlow : p.lower ≤ x + 0x80)
    (hup : x + 0x80 ≤ p.upper) : decodeByte (some p) (UInt8.ofNat (x + 0x80)) =
      if p.needed ≤ 1 then ([Char.ofNat (p.value * 64 + x)], none)
      else ([], some (.any (p.needed - 1) (p.value * 64 + x))) := by
  simp only [decodeByte, toNat_ofNat_of_lt (show x + 0x80 < 256 by omega), if_pos (And.intro hlow hup),
    Nat.add_sub_cancel]

/-- Any byte that continues a character completes one that needs no other. -/
theorem decodeByte_any_one {value x : ℕ} (hx : x < 64) :
    decodeByte (some (.any 1 value)) (UInt8.ofNat (x + 0x80)) = ([Char.ofNat (value * 64 + x)], none) := by
  rw [decodeByte_within hx (by simp [Pending.any]) (by simp only [Pending.any]; omega)]
  rfl

/-- Any byte that continues a character continues one that needs two. -/
theorem decodeByte_any_two {value x : ℕ} (hx : x < 64) :
    decodeByte (some (.any 2 value)) (UInt8.ofNat (x + 0x80)) = ([], some (.any 1 (value * 64 + x))) := by
  rw [decodeByte_within hx (by simp [Pending.any]) (by simp only [Pending.any]; omega)]
  rfl

/-- The first byte of a character of three bytes: the bounds let its second one through. -/
theorem startChar_three {n : ℕ} (hlow : 0x800 ≤ n) (hup : n ≤ 0xFFFF)
    (hsurrogate : ¬ (0xD800 ≤ n ∧ n ≤ 0xDFFF)) :
    ∃ p : Pending, startChar (n / 4096 + 0xE0) = ([], some p) ∧ p.needed = 2 ∧ p.value = n / 4096 ∧
      p.lower ≤ n / 64 % 64 + 0x80 ∧ n / 64 % 64 + 0x80 ≤ p.upper := by
  unfold startChar Pending.any
  rw [if_neg (by omega), if_neg (by omega), if_neg (by omega)]
  split
  · exact ⟨_, rfl, rfl, by simp only; omega, by simp only; omega, by simp only; omega⟩
  split
  · exact ⟨_, rfl, rfl, by simp only; omega, by simp only; omega, by simp only; omega⟩
  · rw [if_pos (by omega)]
    exact ⟨_, rfl, rfl, by simp only; omega, by simp only; omega, by simp only; omega⟩

/-- The first byte of a character of four bytes. -/
theorem startChar_four {n : ℕ} (hlow : 0x10000 ≤ n) (hup : n < 0x110000) :
    ∃ p : Pending, startChar (n / 262144 + 0xF0) = ([], some p) ∧ p.needed = 3 ∧ p.value = n / 262144 ∧
      p.lower ≤ n / 4096 % 64 + 0x80 ∧ n / 4096 % 64 + 0x80 ≤ p.upper := by
  unfold startChar Pending.any
  rw [if_neg (by omega), if_neg (by omega), if_neg (by omega), if_neg (by omega), if_neg (by omega),
    if_neg (by omega)]
  split
  · exact ⟨_, rfl, rfl, by simp only; omega, by simp only; omega, by simp only; omega⟩
  split
  · exact ⟨_, rfl, rfl, by simp only; omega, by simp only; omega, by simp only; omega⟩
  · rw [if_pos (by omega)]
    exact ⟨_, rfl, rfl, by simp only; omega, by simp only; omega, by simp only; omega⟩

/-- **A character among other bytes is read as itself**, and breaks off what has begun. -/
theorem decodeBytes_utf8EncodeChar (st : Option Pending) (c : Char) (rest : List UInt8) :
    decodeBytes st (String.utf8EncodeChar c ++ rest) = flush st ++ c :: decodeBytes none rest := by
  obtain ⟨hsurrogate, hmax⟩ := Char.not_surrogate c
  have hc : Char.ofNat c.toNat = c := Char.ofNat_toNat c
  have hnat : c.val.toNat = c.toNat := rfl
  unfold String.utf8EncodeChar
  simp only [hnat]
  generalize c.toNat = n at *
  split
  · rename_i hone
    simp only [List.cons_append, List.nil_append, decodeBytes]
    rw [decodeByte_of_first (.inl (by rw [toNat_ofNat_of_lt (by omega)]; omega)),
      toNat_ofNat_of_lt (by omega), startChar, if_pos (by omega), hc]
    simp
  split
  · rename_i hone htwo
    simp only [List.cons_append, List.nil_append, decodeBytes]
    rw [decodeByte_of_first (.inr (by rw [toNat_ofNat_of_lt (by omega)]; omega)),
      toNat_ofNat_of_lt (by omega), startChar, if_neg (by omega), if_neg (by omega), if_pos (by omega)]
    dsimp only
    rw [decodeByte_any_one (by omega)]
    rw [show (n / 64 % 32 + 192 - 192) * 64 + n % 64 = n by omega, hc]
    simp
  split
  · rename_i hone htwo hthree
    have hfirst : n / 4096 % 16 = n / 4096 := by omega
    obtain ⟨p, hp, hneeded, hvalue, hlow, hup⟩ := startChar_three (by omega) hthree hsurrogate
    simp only [List.cons_append, List.nil_append, decodeBytes, hfirst]
    rw [decodeByte_of_first (.inr (by rw [toNat_ofNat_of_lt (by omega)]; omega)),
      toNat_ofNat_of_lt (by omega), hp]
    dsimp only
    rw [decodeByte_within (by omega) hlow hup, hneeded, hvalue, if_neg (by omega)]
    dsimp only
    rw [decodeByte_any_one (by omega),
      show (n / 4096 * 64 + n / 64 % 64) * 64 + n % 64 = n by omega, hc]
    simp
  · rename_i hone htwo hthree
    have hfirst : n / 262144 % 8 = n / 262144 := by omega
    obtain ⟨p, hp, hneeded, hvalue, hlow, hup⟩ := startChar_four (n := n) (by omega) hmax
    simp only [List.cons_append, List.nil_append, decodeBytes, hfirst]
    rw [decodeByte_of_first (.inr (by rw [toNat_ofNat_of_lt (by omega)]; omega)),
      toNat_ofNat_of_lt (by omega), hp]
    dsimp only
    rw [decodeByte_within (by omega) hlow hup, hneeded, hvalue, if_neg (by omega)]
    dsimp only
    rw [decodeByte_any_two (by omega)]
    dsimp only
    rw [decodeByte_any_one (by omega), show ((n / 262144 * 64 + n / 4096 % 64) * 64 + n / 64 % 64) * 64 +
      n % 64 = n by omega, hc]
    simp

/-- The bytes of a text are those of its characters. -/
theorem utf8Bytes_eq (s : String) : utf8Bytes s = s.toList.flatMap String.utf8EncodeChar := by
  have h : s.toByteArray = (String.ofList s.toList).toByteArray := by rw [String.ofList_toList]
  rw [utf8Bytes, h, String.toByteArray_ofList, List.utf8Encode]
  simp [List.data_toByteArray]

/-- Characters among other bytes are read as themselves. -/
theorem decodeBytes_flatMap (l : List Char) (rest : List UInt8) :
    decodeBytes none (l.flatMap String.utf8EncodeChar ++ rest) = l ++ decodeBytes none rest := by
  induction l with
  | nil => rfl
  | cons c l ih => simp [decodeBytes_utf8EncodeChar, ih, flush]

/-- **A text is read back from its bytes.** -/
@[simp] theorem fromUtf8Lossy_utf8Bytes (s : String) : fromUtf8Lossy (utf8Bytes s) = s := by
  have h := decodeBytes_flatMap s.toList []
  simp only [List.append_nil, decodeBytes, flush] at h
  rw [fromUtf8Lossy, utf8Bytes_eq, h, String.ofList_toList]

end SsoGateway.Lib
