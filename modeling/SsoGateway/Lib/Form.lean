import Mathlib.Data.List.SplitOn
import Mathlib.Data.List.TakeWhile
import SsoGateway.Lib.Encoding
import SsoGateway.Lib.Utf8Lossy

/-!
# Forms in a query

The pairs of an `application/x-www-form-urlencoded` text, and the text of some pairs
(`form_urlencoded`).

* `percentDecode`, `decodeComponent`, `formPairs` — from the text to the pairs.
* `formText`, `formSerialize` — from the pairs to the text.
* `decodeComponent_flatMap` — what any of the usual encodings wrote is read back.
* `formPairs_formText` — pairs are read back from their text.
* `formPairs_flatMap` — escaping a query once more leaves its pairs as they are.
* `byteLen_decodeComponent` — a component is no longer than what it was read from.

Nothing here is about a particular service.
-/

namespace SsoGateway.Lib

/-! ## Definitions -/

/-- The value of a hexadecimal digit. -/
def hexValue (c : Char) : Option ℕ :=
  if '0' ≤ c ∧ c ≤ '9' then some (c.toNat - '0'.toNat)
  else if 'A' ≤ c ∧ c ≤ 'F' then some (c.toNat - 'A'.toNat + 10)
  else if 'a' ≤ c ∧ c ≤ 'f' then some (c.toNat - 'a'.toNat + 10)
  else none

/-- The byte of two hexadecimal digits. -/
def hexByte (h l : Char) : Option UInt8 :=
  match hexValue h, hexValue l with
  | some x, some y => some (UInt8.ofNat (x * 16 + y))
  | _, _ => none

/-- The bytes of a percent-encoded text. A percent sign before anything but two digits is one. -/
def percentDecode : List Char → List UInt8
  | c :: h :: l :: rest =>
      match if c = '%' then hexByte h l else none with
      | some b => b :: percentDecode rest
      | none => String.utf8EncodeChar c ++ percentDecode (h :: l :: rest)
  | c :: rest => String.utf8EncodeChar c ++ percentDecode rest
  | [] => []

/-- In a form, a plus sign is a space. -/
def plusToSpace (c : Char) : Char := if c = '+' then ' ' else c

/-- The text of a name or a value. -/
def decodeComponent (raw : List Char) : String := fromUtf8Lossy (percentDecode (raw.map plusToSpace))

/-- The pair of one piece. -/
def formPair (piece : List Char) : String × String :=
  (decodeComponent (piece.takeWhile (· ≠ '=')),
    decodeComponent ((piece.dropWhile (· ≠ '=')).drop 1))

/-- `form_urlencoded::parse`. -/
def formPairs (query : String) : List (String × String) :=
  ((query.toList.splitOn '&').filter (· ≠ [])).map formPair

/-- The bytes of a character, percent-encoded. -/
def percentEncodeChar (c : Char) : List Char :=
  (String.utf8EncodeChar c).flatMap fun b =>
    ['%', upperHexDigit (highNibble b), upperHexDigit (lowNibble b)]

/-- One character of a name or a value. -/
def formEncodeChar (c : Char) : List Char :=
  if c.isAlphanum || c = '*' || c = '-' || c = '.' || c = '_' then [c]
  else if c = ' ' then ['+']
  else percentEncodeChar c

/-- The text of one pair, in an encoding of the characters. -/
def formPiece (enc : Char → List Char) (pair : String × String) : List Char :=
  pair.1.toList.flatMap enc ++ '=' :: pair.2.toList.flatMap enc

/-- The text of some pairs. -/
def formText (enc : Char → List Char) (pairs : List (String × String)) : List Char :=
  ['&'].intercalate (pairs.map (formPiece enc))

/-- `form_urlencoded::Serializer`, for a list of pairs. -/
def formSerialize (pairs : List (String × String)) : String :=
  String.ofList (formText formEncodeChar pairs)

/-! ## Percent signs -/

theorem hexValue_upperHexDigit (n : Fin 16) : hexValue (upperHexDigit n) = some n.val := by
  revert n
  decide

theorem hexByte_nibbles (b : UInt8) :
    hexByte (upperHexDigit (highNibble b)) (upperHexDigit (lowNibble b)) = some b := by
  simp only [hexByte, hexValue_upperHexDigit, highNibble, lowNibble, Option.some.injEq]
  rw [Nat.div_add_mod']
  simp

/-- What is no percent sign stands for its bytes. -/
theorem percentDecode_cons_of_ne {c : Char} (hc : c ≠ '%') (rest : List Char) :
    percentDecode (c :: rest) = String.utf8EncodeChar c ++ percentDecode rest := by
  rcases rest with _ | ⟨h, _ | ⟨l, rest⟩⟩
  · simp [percentDecode]
  · simp [percentDecode]
  · simp [percentDecode, hc]

theorem percentDecode_pair {h l : Char} {b : UInt8} (hb : hexByte h l = some b) (rest : List Char) :
    percentDecode ('%' :: h :: l :: rest) = b :: percentDecode rest := by
  simp [percentDecode, hb]

/-- A percent sign that no two digits follow is one. -/
theorem percentDecode_percent {rest : List Char}
    (hrest : ∀ h l r, rest = h :: l :: r → hexByte h l = none) :
    percentDecode ('%' :: rest) = String.utf8EncodeChar '%' ++ percentDecode rest := by
  rcases rest with _ | ⟨h, _ | ⟨l, rest⟩⟩
  · simp [percentDecode]
  · simp [percentDecode]
  · simp [percentDecode, hrest h l rest rfl]

/-- Encoded bytes are read back. -/
theorem percentDecode_encoded (bytes : List UInt8) (rest : List Char) :
    percentDecode (bytes.flatMap (fun b =>
      ['%', upperHexDigit (highNibble b), upperHexDigit (lowNibble b)]) ++ rest) =
        bytes ++ percentDecode rest := by
  induction bytes with
  | nil => rfl
  | cons b bytes ih =>
      simp only [List.flatMap_cons, List.cons_append, List.nil_append, List.append_assoc]
      rw [percentDecode_pair (hexByte_nibbles b), ih]

theorem percentDecode_percentEncodeChar (c : Char) (rest : List Char) :
    percentDecode (percentEncodeChar c ++ rest) = String.utf8EncodeChar c ++ percentDecode rest :=
  percentDecode_encoded _ rest

/-- The characters of an encoded character. -/
theorem mem_percentEncodeChar {c d : Char} (hd : d ∈ percentEncodeChar c) :
    d = '%' ∨ ∃ n, d = upperHexDigit n := by
  simp only [percentEncodeChar, List.mem_flatMap, List.mem_cons, List.not_mem_nil, or_false] at hd
  obtain ⟨b, -, rfl | rfl | rfl⟩ := hd
  · exact .inl rfl
  · exact .inr ⟨_, rfl⟩
  · exact .inr ⟨_, rfl⟩

theorem upperHexDigit_isAlphanum (n : Fin 16) : (upperHexDigit n).isAlphanum = true := by
  revert n
  decide

/-- No character with a meaning in a query, but the percent sign, stands in an encoded one. -/
theorem ne_of_mem_percentEncodeChar {c d e : Char} (hd : d ∈ percentEncodeChar c)
    (he : e.isAlphanum = false) (hpercent : e ≠ '%') : d ≠ e := by
  rintro rfl
  rcases mem_percentEncodeChar hd with rfl | ⟨n, rfl⟩
  · exact hpercent rfl
  · simp [upperHexDigit_isAlphanum] at he

theorem map_plusToSpace_percentEncodeChar (c : Char) :
    (percentEncodeChar c).map plusToSpace = percentEncodeChar c := by
  have hid : ∀ d ∈ percentEncodeChar c, plusToSpace d = d := by
    intro d hd
    have hne : d ≠ '+' := ne_of_mem_percentEncodeChar hd (by decide) (by decide)
    simp [plusToSpace, hne]
  rw [List.map_congr_left hid, List.map_id']

/-! ## Names and values -/

/-- The characters that stand for themselves in some encoding of names and values. -/
def isPlain (c : Char) : Bool := c.isAlphanum || c ∈ ['*', '-', '.', '_', '~']

/-- An encoding of the characters of names and values: each is percent-encoded, or plain and stands for
itself, or is a space and written as a plus sign. -/
def FormEncoding (enc : Char → List Char) : Prop :=
  ∀ c, enc c = percentEncodeChar c ∨ (enc c = [c] ∧ isPlain c = true) ∨ (c = ' ' ∧ enc c = ['+'])

theorem formEncoding_formEncodeChar : FormEncoding formEncodeChar := by
  intro c
  unfold formEncodeChar
  split
  · rename_i hc
    refine .inr (.inl ⟨rfl, ?_⟩)
    simp only [Bool.or_eq_true, decide_eq_true_eq] at hc
    simp only [isPlain, Bool.or_eq_true, List.mem_cons, decide_eq_true_eq]
    tauto
  · split
    · rename_i hc
      exact .inr (.inr ⟨hc, rfl⟩)
    · exact .inl rfl

/-- The characters of `urlEncode`. -/
def urlEncodeChar (c : Char) : List Char := if isUnreserved c then [c] else percentEncodeChar c

theorem urlEncode_eq (s : String) : urlEncode s = String.ofList (s.toList.flatMap urlEncodeChar) := rfl

theorem formEncoding_urlEncodeChar : FormEncoding urlEncodeChar := by
  intro c
  unfold urlEncodeChar
  split
  · rename_i hc
    refine .inr (.inl ⟨rfl, ?_⟩)
    simp only [isUnreserved, Bool.or_eq_true, decide_eq_true_eq] at hc
    simp only [isPlain, Bool.or_eq_true, List.mem_cons, decide_eq_true_eq]
    tauto
  · exact .inl rfl

/-- A plain character is none with a meaning. -/
theorem ne_of_isPlain {c d : Char} (hc : isPlain c = true) (hd : isPlain d = false) : c ≠ d := by
  rintro rfl
  simp [hc] at hd

variable {enc : Char → List Char}

/-- One encoded character is read back. -/
theorem FormEncoding.percentDecode_append (henc : FormEncoding enc) (c : Char) (rest : List Char) :
    percentDecode ((enc c).map plusToSpace ++ rest) = String.utf8EncodeChar c ++ percentDecode rest := by
  rcases henc c with h | ⟨h, hplain⟩ | ⟨rfl, h⟩
  · rw [h, map_plusToSpace_percentEncodeChar, percentDecode_percentEncodeChar]
  · have hplus : c ≠ '+' := ne_of_isPlain hplain (by decide)
    simp [h, plusToSpace, hplus, percentDecode_cons_of_ne (ne_of_isPlain hplain (by decide) : c ≠ '%')]
  · simp [h, plusToSpace, percentDecode_cons_of_ne]

/-- **What an encoding wrote is read back.** -/
theorem FormEncoding.decodeComponent_flatMap (henc : FormEncoding enc) (s : String) :
    decodeComponent (s.toList.flatMap enc) = s := by
  have hdecode : ∀ l : List Char, percentDecode ((l.flatMap enc).map plusToSpace) =
      l.flatMap String.utf8EncodeChar := by
    intro l
    induction l with
    | nil => rfl
    | cons c l ih => simp [henc.percentDecode_append, ih]
  rw [decodeComponent, hdecode, ← utf8Bytes_eq, fromUtf8Lossy_utf8Bytes]

/-- The characters of an encoded text. -/
def isFormChar (c : Char) : Bool := isPlain c || c ∈ ['%', '+', '&', '=']

/-- What an encoded character consists of. -/
theorem FormEncoding.of_mem (henc : FormEncoding enc) {c d : Char} (hd : d ∈ enc c) :
    isPlain d = true ∨ d = '%' ∨ d = '+' := by
  rcases henc c with h | ⟨h, hplain⟩ | ⟨rfl, h⟩
  · rw [h] at hd
    rcases mem_percentEncodeChar hd with rfl | ⟨n, rfl⟩
    · exact .inr (.inl rfl)
    · exact .inl (by simp [isPlain, upperHexDigit_isAlphanum])
  · simp only [h, List.mem_singleton] at hd
    subst hd
    exact .inl hplain
  · simp only [h, List.mem_singleton] at hd
    exact .inr (.inr hd)

/-- An encoded text holds no separator. -/
theorem FormEncoding.not_mem_flatMap (henc : FormEncoding enc) {sep : Char} (hsep : sep = '&' ∨ sep = '=')
    (l : List Char) : sep ∉ l.flatMap enc := by
  intro h
  obtain ⟨c, -, hc⟩ := List.mem_flatMap.mp h
  have hmem := henc.of_mem hc
  rcases hsep with rfl | rfl
  · exact absurd hmem (by decide)
  · exact absurd hmem (by decide)

/-- A text without signs is read as itself. -/
theorem decodeComponent_of_no_sign {l : List Char} (hpercent : '%' ∉ l) (hplus : '+' ∉ l) :
    decodeComponent l = String.ofList l := by
  have hbytes : ∀ l : List Char, '%' ∉ l → '+' ∉ l →
      percentDecode (l.map plusToSpace) = l.flatMap String.utf8EncodeChar := by
    intro l hpercent hplus
    induction l with
    | nil => rfl
    | cons c l ih =>
        simp only [List.mem_cons, not_or] at hpercent hplus
        have hc : plusToSpace c = c := if_neg (Ne.symm hplus.1)
        rw [List.map_cons, hc, percentDecode_cons_of_ne (Ne.symm hpercent.1), ih hpercent.2 hplus.2,
          List.flatMap_cons]
  have hlist : l.flatMap String.utf8EncodeChar = utf8Bytes (String.ofList l) := by
    rw [utf8Bytes_eq, String.toList_ofList]
  rw [decodeComponent, hbytes l hpercent hplus, hlist, fromUtf8Lossy_utf8Bytes]

/-! ## Pieces -/

/-- A piece with a name before its first equals sign. -/
theorem formPair_append {name value : List Char} (hname : '=' ∉ name) :
    formPair (name ++ '=' :: value) = (decodeComponent name, decodeComponent value) := by
  have hkeep : ∀ c ∈ name, (decide (c ≠ '=')) = true := by
    intro c hc
    simp only [decide_eq_true_eq]
    rintro rfl
    exact hname hc
  unfold formPair
  rw [List.takeWhile_append_of_pos hkeep, List.dropWhile_append_of_pos hkeep]
  simp

/-- A piece without an equals sign is a name. -/
theorem formPair_of_not_mem {name : List Char} (hname : '=' ∉ name) :
    formPair name = (decodeComponent name, "") := by
  have hkeep : ∀ c ∈ name, (decide (c ≠ '=')) = true := by
    intro c hc
    simp only [decide_eq_true_eq]
    rintro rfl
    exact hname hc
  unfold formPair
  rw [List.takeWhile_eq_self_iff.mpr hkeep, List.dropWhile_eq_nil_iff.mpr hkeep]
  rfl

/-- The pairs of a text without a separator. -/
theorem formPairs_piece {piece : List Char} (hpiece : '&' ∉ piece) (hne : piece ≠ []) :
    formPairs (String.ofList piece) = [formPair piece] := by
  simp [formPairs, List.splitOn_eq_singleton hpiece, hne]

/-- The pairs on both sides of a separator. -/
theorem formPairs_append (front back : List Char) :
    formPairs (String.ofList (front ++ '&' :: back)) =
      formPairs (String.ofList front) ++ formPairs (String.ofList back) := by
  simp [formPairs, List.splitOn_append_cons_self]

@[simp] theorem formPairs_empty : formPairs "" = [] := by
  simp [formPairs]

theorem FormEncoding.not_mem_formPiece (henc : FormEncoding enc) (pair : String × String) :
    '&' ∉ formPiece enc pair := by
  simp [formPiece, -List.mem_flatMap, henc.not_mem_flatMap]

/-- A pair is read back from its piece. -/
theorem FormEncoding.formPair_formPiece (henc : FormEncoding enc) (pair : String × String) :
    formPair (formPiece enc pair) = pair := by
  rw [formPiece, formPair_append (henc.not_mem_flatMap (.inr rfl) _), henc.decodeComponent_flatMap,
    henc.decodeComponent_flatMap]

/-- **Pairs are read back from their text.** -/
theorem FormEncoding.formPairs_formText (henc : FormEncoding enc) (pairs : List (String × String)) :
    formPairs (String.ofList (formText enc pairs)) = pairs := by
  rcases pairs with _ | ⟨pair, pairs⟩
  · simp [formText, formPairs]
  · have hpieces : ∀ l ∈ (pair :: pairs).map (formPiece enc), '&' ∉ l := by
      intro l hl
      obtain ⟨p, -, rfl⟩ := List.mem_map.mp hl
      exact henc.not_mem_formPiece p
    have hfilter : ((pair :: pairs).map (formPiece enc)).filter (· ≠ []) =
        (pair :: pairs).map (formPiece enc) := by
      rw [List.filter_eq_self]
      intro l hl
      obtain ⟨p, -, rfl⟩ := List.mem_map.mp hl
      simp [formPiece]
    rw [formPairs, formText, String.toList_ofList, List.splitOn_intercalate '&' hpieces (by simp),
      hfilter, List.map_map]
    exact List.map_id'' henc.formPair_formPiece _

@[simp] theorem formPairs_formSerialize (pairs : List (String × String)) :
    formPairs (formSerialize pairs) = pairs := formEncoding_formEncodeChar.formPairs_formText pairs

theorem formText_cons_cons (enc : Char → List Char) (pair pair' : String × String)
    (pairs : List (String × String)) :
    formText enc (pair :: pair' :: pairs) = formPiece enc pair ++ '&' :: formText enc (pair' :: pairs) := by
  simp [formText, List.intercalate_cons_cons]

theorem formText_singleton (enc : Char → List Char) (pair : String × String) :
    formText enc [pair] = formPiece enc pair := by
  simp [formText]

/-- The text of some pairs, and one at their end. -/
theorem formText_append_singleton (enc : Char → List Char) {pairs : List (String × String)}
    (hne : pairs ≠ []) (pair : String × String) :
    formText enc (pairs ++ [pair]) = formText enc pairs ++ '&' :: formPiece enc pair := by
  induction pairs with
  | nil => exact absurd rfl hne
  | cons p pairs ih =>
      rcases pairs with _ | ⟨q, pairs⟩
      · simp [formText_cons_cons, formText_singleton]
      · have hrest := ih (by simp)
        simp only [List.cons_append] at hrest ⊢
        rw [formText_cons_cons, formText_cons_cons, hrest, List.append_assoc, List.cons_append]

/-- The text of some pairs, behind something without a separator: it becomes part of the first name. -/
theorem FormEncoding.formPairs_append_formText (henc : FormEncoding enc) {front : List Char}
    (hfront : '&' ∉ front) (pair : String × String) (pairs : List (String × String)) :
    formPairs (String.ofList (front ++ formText enc (pair :: pairs))) =
      formPair (front ++ formPiece enc pair) :: pairs := by
  have hpiece : '&' ∉ front ++ formPiece enc pair := by
    simp [hfront, henc.not_mem_formPiece]
  have hne : front ++ formPiece enc pair ≠ [] := by simp [formPiece]
  rcases pairs with _ | ⟨q, pairs⟩
  · rw [formText_singleton, formPairs_piece hpiece hne]
  · rw [formText_cons_cons, ← List.append_assoc, formPairs_append, formPairs_piece hpiece hne,
      henc.formPairs_formText]
    rfl

/-- A text up to its last separator, and what follows it. -/
theorem exists_last_piece (l : List Char) : ∃ front last F, l = front ++ last ∧ '&' ∉ last ∧
    (∀ l' c, front = l' ++ [c] → c = '&') ∧
    ∀ x, formPairs (String.ofList (front ++ x)) = F ++ formPairs (String.ofList x) := by
  induction hn : l.length using Nat.strong_induction_on generalizing l with
  | _ n ih =>
    by_cases hamp : '&' ∈ l
    · obtain ⟨first, rest, rfl, hfirst⟩ := List.eq_append_cons_of_mem hamp
      obtain ⟨front, last, F, rfl, hlast, hend, hpairs⟩ :=
        ih rest.length (by simp only [← hn, List.length_append, List.length_cons]; omega) rest rfl
      refine ⟨first ++ '&' :: front, last, formPairs (String.ofList first) ++ F, by simp, hlast, ?_, ?_⟩
      · intro l' c h
        rcases List.eq_nil_or_concat front with rfl | ⟨front', d, rfl⟩
        · obtain ⟨-, h⟩ := List.append_inj' h rfl
          simpa using h.symm
        · rw [List.concat_eq_append] at hend h
          have h' : (first ++ '&' :: front') ++ [d] = l' ++ [c] := by simpa using h
          obtain ⟨-, hlast'⟩ := List.append_inj' h' rfl
          obtain rfl : d = c := by simpa using hlast'
          exact hend front' d rfl
      · intro x
        rw [List.append_assoc, List.cons_append, formPairs_append, hpairs, List.append_assoc]
    · refine ⟨[], l, [], rfl, hamp, ?_, by simp⟩
      intro l' c h
      simp at h

/-- What the text of some pairs consists of. -/
theorem FormEncoding.isFormChar_of_mem (henc : FormEncoding enc) {pairs : List (String × String)}
    {c : Char} (hc : c ∈ formText enc pairs) : isFormChar c = true := by
  have hflat : ∀ s : String, c ∈ s.toList.flatMap enc → isFormChar c = true := by
    intro s hs
    obtain ⟨d, -, hd⟩ := List.mem_flatMap.mp hs
    rcases henc.of_mem hd with h | rfl | rfl
    · simp [isFormChar, h]
    · decide
    · decide
  have hpiece : ∀ p, c ∈ formPiece enc p → isFormChar c = true := by
    intro p hp
    rcases List.mem_append.mp hp with h | h
    · exact hflat p.1 h
    · rcases List.mem_cons.mp h with rfl | h
      · decide
      · exact hflat p.2 h
  induction pairs with
  | nil => simp [formText] at hc
  | cons p pairs ih =>
      rcases pairs with _ | ⟨q, pairs⟩
      · exact hpiece p (by simpa [formText] using hc)
      · rw [formText_cons_cons, List.mem_append, List.mem_cons] at hc
        rcases hc with h | rfl | h
        · exact hpiece p h
        · decide
        · exact ih h

/-! ## Sizes -/

/-- The bytes of some characters. -/
def byteLen : List Char → ℕ
  | [] => 0
  | c :: l => c.utf8Size + byteLen l

@[simp] theorem byteLen_nil : byteLen [] = 0 := rfl

@[simp] theorem byteLen_cons (c : Char) (l : List Char) : byteLen (c :: l) = c.utf8Size + byteLen l :=
  rfl

@[simp] theorem byteLen_append (l l' : List Char) : byteLen (l ++ l') = byteLen l + byteLen l' := by
  induction l with
  | nil => simp
  | cons c l ih =>
      rw [List.cons_append, byteLen_cons, ih, byteLen_cons]
      omega

/-- What a character that has begun comes to, if it breaks off. -/
def pendingLen (st : Option Pending) : ℕ := byteLen (flush st)

theorem pendingLen_le (st : Option Pending) : pendingLen st ≤ 3 := by
  rcases st with _ | p
  · exact Nat.zero_le 3
  · exact le_of_eq rfl

/-- An ASCII character is one byte. -/
theorem utf8Size_ofNat {b : ℕ} (hb : b < 0x80) : (Char.ofNat b).utf8Size = 1 := by
  have hall : ∀ b < 0x80, (Char.ofNat b).utf8Size = 1 := by decide
  exact hall b hb

/-- The first byte of a character comes to three bytes at most. -/
theorem byteLen_startChar (b : ℕ) :
    byteLen (startChar b).1 + pendingLen (startChar b).2 ≤ 3 := by
  unfold startChar
  split
  · rename_i hb
    simp [utf8Size_ofNat hb, pendingLen, flush]
  · repeat' split
    all_goals simp [pendingLen, flush, replacement]
    all_goals decide

/-- One encoded byte comes to three bytes at most. -/
theorem byteLen_decodeByte (st : Option Pending) (b : UInt8) :
    byteLen (decodeByte st b).1 + pendingLen (decodeByte st b).2 ≤ 3 + pendingLen st := by
  have hstart := byteLen_startChar b.toNat
  rcases st with _ | p
  · simp only [decodeByte]
    omega
  · have hpending : pendingLen (some p) = 3 := rfl
    simp only [decodeByte]
    split
    · split
      · have hfour := Char.utf8Size_le_four (Char.ofNat (p.value * 64 + (b.toNat - 0x80)))
        simp only [byteLen_cons, byteLen_nil, hpending]
        simp only [pendingLen, flush, byteLen_nil]
        omega
      · have := pendingLen_le (some (Pending.any (p.needed - 1) (p.value * 64 + (b.toNat - 0x80))))
        simp only [byteLen_nil]
        omega
    · have hreplacement : replacement.utf8Size = 3 := by decide
      simp only [byteLen_cons, hreplacement]
      omega

/-- Three characters of a text are at least three bytes. -/
theorem three_le_byteLen (c h l : Char) (rest : List Char) :
    3 + byteLen rest ≤ byteLen (c :: h :: l :: rest) := by
  have hc := Char.utf8Size_pos c
  have hh := Char.utf8Size_pos h
  have hl := Char.utf8Size_pos l
  simp only [byteLen_cons]
  omega

/-- A percent-encoded text is no shorter than what it decodes to. -/
theorem byteLen_percentDecode (raw : List Char) (st : Option Pending) :
    byteLen (decodeBytes st (percentDecode raw)) ≤ byteLen raw + pendingLen st := by
  fun_induction percentDecode raw generalizing st with
  | case1 c h l rest b hb ih =>
      have hbyte := byteLen_decodeByte st b
      have hrest := ih (decodeByte st b).2
      have hthree := three_le_byteLen c h l rest
      simp only [decodeBytes, byteLen_append]
      omega
  | case2 c h l rest hb ih =>
      have hrest := ih none
      rw [decodeBytes_utf8EncodeChar]
      simp only [byteLen_append, byteLen_cons, pendingLen, flush, byteLen_nil] at hrest ⊢
      omega
  | case3 c rest hshort ih =>
      have hrest := ih none
      rw [decodeBytes_utf8EncodeChar]
      simp only [byteLen_append, byteLen_cons, pendingLen, flush, byteLen_nil] at hrest ⊢
      omega
  | case4 => simp [decodeBytes, pendingLen]

theorem byteLen_map_plusToSpace (raw : List Char) : byteLen (raw.map plusToSpace) = byteLen raw := by
  have hsize : ∀ c, (plusToSpace c).utf8Size = c.utf8Size := by
    intro c
    unfold plusToSpace
    split
    · rename_i h
      subst h
      decide
    · rfl
  induction raw with
  | nil => rfl
  | cons c raw ih => rw [List.map_cons, byteLen_cons, byteLen_cons, hsize, ih]

/-- **A component is no longer than what it was read from.** -/
theorem byteLen_decodeComponent (raw : List Char) :
    byteLen (decodeComponent raw).toList ≤ byteLen raw := by
  have h := byteLen_percentDecode (raw.map plusToSpace) none
  rw [byteLen_map_plusToSpace] at h
  simpa [decodeComponent, fromUtf8Lossy, pendingLen, flush] using h

/-! ## Escaping -/

/-- An encoding of a query that leaves what has a meaning in a form: each character stands for itself, or
is percent-encoded and is no separator, no sign and no digit. -/
def QueryEscape (enc : Char → List Char) : Prop :=
  ∀ c, enc c = [c] ∨ (enc c = percentEncodeChar c ∧ hexValue c = none ∧ c ≠ '%' ∧ c ≠ '+' ∧ c ≠ '&' ∧
    c ≠ '=')

/-- The characters of an escaped text that are digits are the text's. -/
theorem QueryEscape.head_digit (henc : QueryEscape enc) {raw rest : List Char} {h : Char}
    (hraw : (raw.flatMap enc).map plusToSpace = h :: rest) (hh : (hexValue h).isSome) :
    ∃ raw', raw = h :: raw' ∧ (raw'.flatMap enc).map plusToSpace = rest := by
  rcases raw with _ | ⟨c, raw⟩
  · simp at hraw
  · rcases henc c with hc | ⟨hc, hnone, hne⟩
    · simp only [List.flatMap_cons, hc, List.map_cons, List.map_nil, List.cons_append,
        List.nil_append, List.cons.injEq] at hraw
      obtain ⟨hhead, htail⟩ := hraw
      refine ⟨raw, ?_, htail⟩
      have hplus : c ≠ '+' := by
        rintro rfl
        rw [← hhead] at hh
        exact absurd hh (by decide)
      rw [← hhead, plusToSpace, if_neg hplus]
    · exfalso
      rw [List.flatMap_cons, hc, List.map_append, map_plusToSpace_percentEncodeChar] at hraw
      have hhead : h = '%' := by
        rw [percentEncodeChar] at hraw
        rcases hbytes : String.utf8EncodeChar c with _ | ⟨b, bs⟩
        · exact absurd hbytes String.utf8EncodeChar_ne_nil
        · simp only [hbytes, List.flatMap_cons, List.cons_append, List.cons.injEq] at hraw
          exact hraw.1.symm
      rw [hhead] at hh
      exact absurd hh (by decide)

theorem queryEscape_singleton : QueryEscape fun c => [c] := fun _ => .inl rfl

theorem hexByte_eq_some {h l : Char} {b : UInt8} (hb : hexByte h l = some b) :
    (hexValue h).isSome ∧ (hexValue l).isSome := by
  unfold hexByte at hb
  split at hb
  · simp_all
  · simp at hb

/-- Two digits at the beginning of an escaped text are the text's. -/
theorem QueryEscape.head_pair (henc : QueryEscape enc) {raw rest : List Char} {h l : Char} {b : UInt8}
    (hraw : (raw.flatMap enc).map plusToSpace = h :: l :: rest) (hb : hexByte h l = some b) :
    ∃ raw', raw = h :: l :: raw' := by
  obtain ⟨hh, hl⟩ := hexByte_eq_some hb
  obtain ⟨raw₁, rfl, h₁⟩ := henc.head_digit hraw hh
  obtain ⟨raw₂, rfl, -⟩ := henc.head_digit h₁ hl
  exact ⟨raw₂, rfl⟩

/-- A digit is escaped as itself. -/
theorem QueryEscape.digit (henc : QueryEscape enc) {c : Char} (hc : (hexValue c).isSome) :
    (enc c).map plusToSpace = [c] := by
  have hplus : c ≠ '+' := by
    rintro rfl
    exact absurd hc (by decide)
  rcases henc c with h | ⟨-, hnone, -⟩
  · simp [h, plusToSpace, hplus]
  · simp [hnone] at hc

/-- Escaping changes no bytes. The induction is on the length of the text: a percent sign looks at the two
characters after it. -/
theorem QueryEscape.percentDecode_flatMap (henc : QueryEscape enc) (raw : List Char) :
    percentDecode ((raw.flatMap enc).map plusToSpace) = percentDecode (raw.map plusToSpace) := by
  induction hn : raw.length using Nat.strong_induction_on generalizing raw with
  | _ n ih =>
    rcases raw with _ | ⟨c, raw⟩
    · rfl
    have htail : percentDecode ((raw.flatMap enc).map plusToSpace) =
        percentDecode (raw.map plusToSpace) := by
      apply ih raw.length _ raw rfl
      simp only [← hn, List.length_cons]
      omega
    simp only [List.flatMap_cons, List.map_append, List.map_cons]
    rcases henc c with hc | ⟨hc, -, hpercent, hplus, -⟩
    · by_cases hpercent : c = '%'
      · subst hpercent
        have hsign : plusToSpace '%' = '%' := by decide
        simp only [hc, List.map_cons, List.map_nil, hsign, List.cons_append, List.nil_append]
        by_cases hpair : ∃ h l raw' b, raw = h :: l :: raw' ∧ hexByte h l = some b
        · obtain ⟨h, l, raw', b, rfl, hb⟩ := hpair
          obtain ⟨hh, hl⟩ := hexByte_eq_some hb
          have hlater : percentDecode ((raw'.flatMap enc).map plusToSpace) =
              percentDecode (raw'.map plusToSpace) := by
            apply ih raw'.length _ raw' rfl
            simp only [← hn, List.length_cons]
            omega
          have hh' : plusToSpace h = h := by simpa using queryEscape_singleton.digit hh
          have hl' : plusToSpace l = l := by simpa using queryEscape_singleton.digit hl
          simp only [List.flatMap_cons, List.map_append, henc.digit hh, henc.digit hl, List.cons_append,
            List.nil_append, List.map_cons, hh', hl', percentDecode_pair hb, hlater]
        · have hshort : ∀ {enc : Char → List Char}, QueryEscape enc → ∀ h l r,
              (raw.flatMap enc).map plusToSpace = h :: l :: r → hexByte h l = none := by
            intro enc henc h l r hr
            by_contra hb
            obtain ⟨b, hb⟩ := Option.ne_none_iff_exists'.mp hb
            obtain ⟨raw', hraw⟩ := henc.head_pair hr hb
            exact hpair ⟨h, l, raw', b, hraw, hb⟩
          rw [percentDecode_percent (hshort henc), percentDecode_percent, htail]
          intro h l r hr
          apply hshort queryEscape_singleton h l r
          simpa using hr
      · have hne : plusToSpace c ≠ '%' := by
          unfold plusToSpace
          split
          · decide
          · exact hpercent
        simp only [hc, List.map_cons, List.map_nil, List.cons_append, List.nil_append,
          percentDecode_cons_of_ne hne, htail]
    · have hsame : plusToSpace c = c := by simp [plusToSpace, hplus]
      rw [hc, map_plusToSpace_percentEncodeChar, percentDecode_percentEncodeChar, htail, hsame,
        percentDecode_cons_of_ne hpercent]

/-- Escaping changes no name and no value. -/
theorem QueryEscape.decodeComponent_flatMap (henc : QueryEscape enc) (raw : List Char) :
    decodeComponent (raw.flatMap enc) = decodeComponent raw := by
  rw [decodeComponent, henc.percentDecode_flatMap, decodeComponent]

/-- A separator comes only from itself. -/
theorem QueryEscape.eq_of_mem (henc : QueryEscape enc) {c d : Char} (hd : d ∈ enc c)
    (hsep : d = '&' ∨ d = '=') : c = d := by
  rcases henc c with h | ⟨h, -⟩
  · rw [h, List.mem_singleton] at hd
    exact hd.symm
  · rw [h] at hd
    rcases hsep with rfl | rfl
    · exact absurd rfl (ne_of_mem_percentEncodeChar hd (by decide) (by decide))
    · exact absurd rfl (ne_of_mem_percentEncodeChar hd (by decide) (by decide))

theorem QueryEscape.separator (henc : QueryEscape enc) {d : Char} (hsep : d = '&' ∨ d = '=') :
    enc d = [d] := by
  rcases henc d with h | ⟨-, -, -, -, hamp, heq⟩
  · exact h
  · rcases hsep with rfl | rfl
    · exact absurd rfl hamp
    · exact absurd rfl heq

theorem QueryEscape.not_mem_flatMap (henc : QueryEscape enc) {d : Char} (hsep : d = '&' ∨ d = '=')
    {raw : List Char} (hraw : d ∉ raw) : d ∉ raw.flatMap enc := by
  intro h
  obtain ⟨c, hc, hd⟩ := List.mem_flatMap.mp h
  exact hraw (henc.eq_of_mem hd hsep ▸ hc)

/-- The pair of an escaped piece. -/
theorem QueryEscape.formPair_flatMap (henc : QueryEscape enc) (piece : List Char) :
    formPair (piece.flatMap enc) = formPair piece := by
  by_cases heq : '=' ∈ piece
  · obtain ⟨name, value, rfl, hname⟩ := List.eq_append_cons_of_mem heq
    rw [List.flatMap_append, List.flatMap_cons, henc.separator (.inr rfl), List.singleton_append,
      formPair_append (henc.not_mem_flatMap (.inr rfl) hname), formPair_append hname,
      henc.decodeComponent_flatMap, henc.decodeComponent_flatMap]
  · rw [formPair_of_not_mem heq, formPair_of_not_mem (henc.not_mem_flatMap (.inr rfl) heq),
      henc.decodeComponent_flatMap]

theorem QueryEscape.flatMap_eq_nil (henc : QueryEscape enc) {piece : List Char} :
    piece.flatMap enc = [] ↔ piece = [] := by
  have hne : ∀ c, enc c ≠ [] := by
    intro c
    rcases henc c with h | ⟨h, -⟩
    · simp [h]
    · simp [h, percentEncodeChar, ← List.eq_nil_iff_forall_not_mem, String.utf8EncodeChar_ne_nil]
  rcases piece with _ | ⟨c, piece⟩
  · simp
  · simp [hne c]

/-- The pairs of an escaped text without a separator. -/
theorem QueryEscape.formPairs_piece (henc : QueryEscape enc) {piece : List Char} (hpiece : '&' ∉ piece) :
    formPairs (String.ofList (piece.flatMap enc)) = formPairs (String.ofList piece) := by
  by_cases hne : piece = []
  · simp [hne]
  · rw [Lib.formPairs_piece (henc.not_mem_flatMap (.inl rfl) hpiece) (mt henc.flatMap_eq_nil.mp hne),
      Lib.formPairs_piece hpiece hne, henc.formPair_flatMap]

/-- **Escaping a query leaves its pairs as they are.** -/
theorem QueryEscape.formPairs_flatMap (henc : QueryEscape enc) (raw : List Char) :
    formPairs (String.ofList (raw.flatMap enc)) = formPairs (String.ofList raw) := by
  induction hn : raw.length using Nat.strong_induction_on generalizing raw with
  | _ n ih =>
    by_cases hamp : '&' ∈ raw
    · obtain ⟨front, back, rfl, hfront⟩ := List.eq_append_cons_of_mem hamp
      have hback : formPairs (String.ofList (back.flatMap enc)) = formPairs (String.ofList back) := by
        apply ih back.length _ back rfl
        simp only [← hn, List.length_append, List.length_cons]
        omega
      rw [List.flatMap_append, List.flatMap_cons, henc.separator (.inl rfl), List.singleton_append,
        formPairs_append, formPairs_append, henc.formPairs_piece hfront, hback]
    · exact henc.formPairs_piece hamp

/-- Characters left out take their bytes with them. -/
theorem byteLen_le_of_sublist {l l' : List Char} (h : l.Sublist l') : byteLen l ≤ byteLen l' := by
  induction h with
  | slnil => exact le_refl _
  | cons c _ ih => exact ih.trans (by simp)
  | cons_cons c _ ih => simpa using ih

/-- A piece of a text is part of it. -/
theorem sublist_of_mem_splitOn {sep : Char} {raw piece : List Char} (h : piece ∈ raw.splitOn sep) :
    piece.Sublist raw := by
  induction hn : raw.length using Nat.strong_induction_on generalizing raw with
  | _ n ih =>
    by_cases hsep : sep ∈ raw
    · obtain ⟨front, back, rfl, hfront⟩ := List.eq_append_cons_of_mem hsep
      rw [List.splitOn_append_cons_self_of_not_mem hfront, List.mem_cons] at h
      rcases h with rfl | h
      · exact List.sublist_append_left _ _
      · have hback := ih back.length (by simp only [← hn, List.length_append, List.length_cons]; omega) h rfl
        exact hback.trans ((List.sublist_cons_self _ _).trans (List.sublist_append_right _ _))
    · rw [List.splitOn_eq_singleton hsep, List.mem_singleton] at h
      rw [h]

/-- **The value of a pair is no longer than the query it was read from.** -/
theorem byteLen_value {query : String} {pair : String × String} (hpair : pair ∈ formPairs query) :
    byteLen pair.2.toList ≤ byteLen query.toList := by
  obtain ⟨piece, hpiece, rfl⟩ := List.mem_map.mp hpair
  have hvalue : ((piece.dropWhile (· ≠ '=')).drop 1).Sublist piece :=
    (List.drop_sublist 1 _).trans (List.dropWhile_sublist _)
  refine (byteLen_decodeComponent _).trans (byteLen_le_of_sublist (hvalue.trans ?_))
  exact sublist_of_mem_splitOn (List.mem_filter.mp hpiece).1

end SsoGateway.Lib
