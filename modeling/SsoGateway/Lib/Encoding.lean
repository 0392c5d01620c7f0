import Mathlib.Data.List.Basic

/-!
# Encodings of texts

* `hexEncode` — bytes as lower-case hexadecimal digits.
* `urlEncode` — percent encoding of all but the unreserved characters.
* `length_hexEncode`, `urlEncode_hexEncode` — two digits a byte, none of which is escaped.

Nothing here is about a particular service.
-/

namespace SsoGateway.Lib

/-- The lower-case hexadecimal digit of a number below sixteen. -/
def hexDigit (n : Fin 16) : Char :=
  if n.val < 10 then Char.ofNat (48 + n.val) else Char.ofNat (87 + n.val)

/-- The upper-case hexadecimal digit of a number below sixteen. -/
def upperHexDigit (n : Fin 16) : Char :=
  if n.val < 10 then Char.ofNat (48 + n.val) else Char.ofNat (55 + n.val)

/-- The upper half of a byte. -/
def highNibble (b : UInt8) : Fin 16 := ⟨b.toNat / 16, by have := b.toNat_lt; omega⟩

/-- The lower half of a byte. -/
def lowNibble (b : UInt8) : Fin 16 := ⟨b.toNat % 16, by omega⟩

/-- Lower-case hexadecimal. -/
def hexEncode (bytes : List UInt8) : String :=
  String.ofList (bytes.flatMap fun b => [hexDigit (highNibble b), hexDigit (lowNibble b)])

/-- The characters that stand for themselves in a URL. -/
def isUnreserved (c : Char) : Bool := c.isAlphanum || c = '-' || c = '.' || c = '_' || c = '~'

/-- Percent encoding. -/
def urlEncode (s : String) : String :=
  String.ofList (s.toList.flatMap fun c =>
    if isUnreserved c then [c]
    else (String.utf8EncodeChar c).flatMap fun b =>
      ['%', upperHexDigit (highNibble b), upperHexDigit (lowNibble b)])

theorem isUnreserved_hexDigit (n : Fin 16) : isUnreserved (hexDigit n) = true := by
  revert n
  decide

theorem length_hexEncode (bytes : List UInt8) : (hexEncode bytes).length = 2 * bytes.length := by
  have hlength : ∀ l : List UInt8,
      (l.flatMap fun b => [hexDigit (highNibble b), hexDigit (lowNibble b)]).length = 2 * l.length := by
    intro l
    induction l with
    | nil => rfl
    | cons b l ih =>
        simp only [List.flatMap_cons, List.length_append, ih, List.length_cons, List.length_nil]
        omega
  rw [hexEncode, String.length_ofList, hlength]

theorem isUnreserved_of_mem_hexEncode {bytes : List UInt8} {c : Char}
    (hc : c ∈ (hexEncode bytes).toList) : isUnreserved c = true := by
  rw [hexEncode, String.toList_ofList, List.mem_flatMap] at hc
  obtain ⟨b, -, hc⟩ := hc
  simp only [List.mem_cons, List.not_mem_nil, or_false] at hc
  rcases hc with rfl | rfl
  · exact isUnreserved_hexDigit _
  · exact isUnreserved_hexDigit _

/-- A text of unreserved characters stands for itself. -/
theorem urlEncode_of_unreserved {s : String} (hs : ∀ c ∈ s.toList, isUnreserved c = true) :
    urlEncode s = s := by
  have hlist : ∀ l : List Char, (∀ c ∈ l, isUnreserved c = true) →
      (l.flatMap fun c => if isUnreserved c then [c]
        else (String.utf8EncodeChar c).flatMap fun b =>
          ['%', upperHexDigit (highNibble b), upperHexDigit (lowNibble b)]) = l := by
    intro l hl
    induction l with
    | nil => rfl
    | cons c l ih =>
        rw [List.flatMap_cons, if_pos (hl c List.mem_cons_self),
          ih fun d hd => hl d (List.mem_cons_of_mem c hd)]
        rfl
  rw [urlEncode, hlist s.toList hs, String.ofList_toList]

theorem urlEncode_hexEncode (bytes : List UInt8) : urlEncode (hexEncode bytes) = hexEncode bytes :=
  urlEncode_of_unreserved fun _ => isUnreserved_of_mem_hexEncode

end SsoGateway.Lib
