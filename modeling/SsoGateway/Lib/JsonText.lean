import Mathlib.Data.Int.Notation
import SsoGateway.Lib.Json
import Std.Data.String.ToInt

/-!
# Reading JSON

The text of a JSON document and its value. White space may stand between tokens; a string may hold
every character but the control characters, and escapes for all of them; numbers are kept as they are
written. The fields of an object are listed as they stand in the text, the repeated ones too.

* `Value.read` — the value of a text.
* `Value.read_render` — the compact text of a value is read as that value.

Nothing here is about a particular service.
-/

namespace SsoGateway.Lib

namespace Value

/-! ## Strings -/

/-- What follows white space. -/
def skipSpace (cs : List Char) : List Char :=
  cs.dropWhile fun c => c = ' ' || c = '\n' || c = '\r' || c = '\t'

/-- The number of a hexadecimal digit. -/
def hexValue (c : Char) : Option ℕ :=
  if '0' ≤ c ∧ c ≤ '9' then some (c.toNat - 48)
  else if 'a' ≤ c ∧ c ≤ 'f' then some (c.toNat - 87)
  else if 'A' ≤ c ∧ c ≤ 'F' then some (c.toNat - 55)
  else none

/-- The number of four hexadecimal digits. -/
def readHex4 : List Char → Option (ℕ × List Char)
  | c₀ :: c₁ :: c₂ :: c₃ :: rest => do
      let v₀ ← hexValue c₀
      let v₁ ← hexValue c₁
      let v₂ ← hexValue c₂
      let v₃ ← hexValue c₃
      some (((v₀ * 16 + v₁) * 16 + v₂) * 16 + v₃, rest)
  | _ => none

/-- The second half of a character outside the basic plane. -/
def readLowSurrogate (high : ℕ) : List Char → Option (Char × List Char)
  | '\\' :: 'u' :: cs => do
      let (low, rest) ← readHex4 cs
      if 0xDC00 ≤ low ∧ low < 0xE000 then
        some (Char.ofNat (0x10000 + (high - 0xD800) * 0x400 + (low - 0xDC00)), rest)
      else none
  | _ => none

/-- The character of a `\u` escape. -/
def readUnicode (cs : List Char) : Option (Char × List Char) := do
  let (n, rest) ← readHex4 cs
  if n < 0xD800 ∨ 0xE000 ≤ n then some (Char.ofNat n, rest)
  else if n < 0xDC00 then readLowSurrogate n rest
  else none

/-- The character of an escape, after the backslash. -/
def readEscape : List Char → Option (Char × List Char)
  | '"' :: rest => some ('"', rest)
  | '\\' :: rest => some ('\\', rest)
  | '/' :: rest => some ('/', rest)
  | 'b' :: rest => some (Char.ofNat 8, rest)
  | 'f' :: rest => some (Char.ofNat 12, rest)
  | 'n' :: rest => some ('\n', rest)
  | 'r' :: rest => some ('\r', rest)
  | 't' :: rest => some ('\t', rest)
  | 'u' :: rest => readUnicode rest
  | _ => none

/-- The characters up to the closing quote. -/
def readChars : ℕ → List Char → Option (List Char × List Char)
  | 0, _ => none
  | _ + 1, [] => none
  | n + 1, c :: cs =>
      if c = '"' then some ([], cs)
      else if c = '\\' then do
        let (c, rest) ← readEscape cs
        let (chars, rest) ← readChars n rest
        some (c :: chars, rest)
      else if c.toNat < 32 then none
      else do
        let (chars, rest) ← readChars n cs
        some (c :: chars, rest)

/-- The rest of a string literal, after the opening quote. -/
def readString (cs : List Char) : Option (String × List Char) :=
  (readChars (cs.length + 1) cs).map fun r => (String.ofList r.1, r.2)

/-! ## Numbers -/

/-- Some digits, at least one. -/
def readDigits (cs : List Char) : Option (List Char × List Char) :=
  if cs.takeWhile Char.isDigit = [] then none
  else some (cs.takeWhile Char.isDigit, cs.dropWhile Char.isDigit)

/-- The integer part: a zero, or digits of which the first is none. -/
def readWhole : List Char → Option (List Char × List Char)
  | '0' :: rest => some (['0'], rest)
  | cs => readDigits cs

/-- The fraction, if there is one. -/
def readFraction : List Char → Option (List Char × List Char)
  | '.' :: cs => (readDigits cs).map fun r => ('.' :: r.1, r.2)
  | cs => some ([], cs)

/-- A sign, if there is one. -/
def readSign : List Char → List Char × List Char
  | '+' :: rest => (['+'], rest)
  | '-' :: rest => (['-'], rest)
  | cs => ([], cs)

/-- The exponent, if there is one. -/
def readExponent : List Char → Option (List Char × List Char)
  | c :: cs =>
      if c = 'e' ∨ c = 'E' then
        (readDigits (readSign cs).2).map fun r => (c :: ((readSign cs).1 ++ r.1), r.2)
      else some ([], c :: cs)
  | [] => some ([], [])

/-- A number without its sign. -/
def readUnsigned (cs : List Char) : Option (List Char × List Char) := do
  let (whole, rest) ← readWhole cs
  let (fraction, rest) ← readFraction rest
  let (exponent, rest) ← readExponent rest
  some (whole ++ fraction ++ exponent, rest)

/-- The text of a number. -/
def readNumber : List Char → Option (String × List Char)
  | '-' :: cs => (readUnsigned cs).map fun r => (String.ofList ('-' :: r.1), r.2)
  | cs => (readUnsigned cs).map fun r => (String.ofList r.1, r.2)

/-! ## Values -/

mutual

/-- A value, at most `n` deep in lists and fields. -/
def readValue : ℕ → List Char → Option (Value × List Char)
  | 0, _ => none
  | n + 1, cs =>
      match skipSpace cs with
      | '"' :: cs => (readString cs).map fun r => (.str r.1, r.2)
      | '[' :: cs =>
          match skipSpace cs with
          | ']' :: rest => some (.arr [], rest)
          | _ => (readItems n cs).map fun r => (.arr r.1, r.2)
      | '\x7b' :: cs =>
          match skipSpace cs with
          | '\x7d' :: rest => some (.obj [], rest)
          | _ => (readFields n cs).map fun r => (.obj r.1, r.2)
      | 'n' :: 'u' :: 'l' :: 'l' :: rest => some (.null, rest)
      | 't' :: 'r' :: 'u' :: 'e' :: rest => some (.bool true, rest)
      | 'f' :: 'a' :: 'l' :: 's' :: 'e' :: rest => some (.bool false, rest)
      | cs => (readNumber cs).map fun r => (.number r.1, r.2)

/-- The items of an array up to its end, at least one. -/
def readItems : ℕ → List Char → Option (List Value × List Char)
  | 0, _ => none
  | n + 1, cs => do
      let (v, rest) ← readValue n cs
      match skipSpace rest with
      | ',' :: rest => (readItems n rest).map fun r => (v :: r.1, r.2)
      | ']' :: rest => some ([v], rest)
      | _ => none

/-- The fields of an object up to its end, at least one. -/
def readFields : ℕ → List Char → Option (List (String × Value) × List Char)
  | 0, _ => none
  | n + 1, cs =>
      match skipSpace cs with
      | '"' :: cs => do
          let (key, rest) ← readString cs
          match skipSpace rest with
          | ':' :: rest => do
              let (v, rest) ← readValue n rest
              match skipSpace rest with
              | ',' :: rest => (readFields n rest).map fun r => ((key, v) :: r.1, r.2)
              | '\x7d' :: rest => some ([(key, v)], rest)
              | _ => none
          | _ => none
      | _ => none

end

/-- One step of the reading of a value. -/
theorem readValue_succ (n : ℕ) (cs : List Char) :
    readValue (n + 1) cs =
      match skipSpace cs with
      | '"' :: cs => (readString cs).map fun r => (.str r.1, r.2)
      | '[' :: cs =>
          match skipSpace cs with
          | ']' :: rest => some (.arr [], rest)
          | _ => (readItems n cs).map fun r => (.arr r.1, r.2)
      | '\x7b' :: cs =>
          match skipSpace cs with
          | '\x7d' :: rest => some (.obj [], rest)
          | _ => (readFields n cs).map fun r => (.obj r.1, r.2)
      | 'n' :: 'u' :: 'l' :: 'l' :: rest => some (.null, rest)
      | 't' :: 'r' :: 'u' :: 'e' :: rest => some (.bool true, rest)
      | 'f' :: 'a' :: 'l' :: 's' :: 'e' :: rest => some (.bool false, rest)
      | cs => (readNumber cs).map fun r => (.number r.1, r.2) := rfl

theorem readValue_bracket (n : ℕ) (cs : List Char) :
    readValue (n + 1) ('[' :: cs) =
      match skipSpace cs with
      | ']' :: rest => some (.arr [], rest)
      | _ => (readItems n cs).map fun r => (.arr r.1, r.2) := rfl

theorem readValue_brace (n : ℕ) (cs : List Char) :
    readValue (n + 1) ('\x7b' :: cs) =
      match skipSpace cs with
      | '\x7d' :: rest => some (.obj [], rest)
      | _ => (readFields n cs).map fun r => (.obj r.1, r.2) := rfl

theorem readItems_succ (n : ℕ) (cs : List Char) :
    readItems (n + 1) cs = (readValue n cs).bind fun r =>
      match skipSpace r.2 with
      | ',' :: rest => (readItems n rest).map fun r' => (r.1 :: r'.1, r'.2)
      | ']' :: rest => some ([r.1], rest)
      | _ => none := rfl

theorem readFields_succ (n : ℕ) (cs : List Char) :
    readFields (n + 1) cs =
      match skipSpace cs with
      | '"' :: cs => (readString cs).bind fun key =>
          match skipSpace key.2 with
          | ':' :: rest => (readValue n rest).bind fun r =>
              match skipSpace r.2 with
              | ',' :: rest => (readFields n rest).map fun r' => ((key.1, r.1) :: r'.1, r'.2)
              | '\x7d' :: rest => some ([(key.1, r.1)], rest)
              | _ => none
          | _ => none
      | _ => none := rfl

/-- The value of a text, which has nothing after it. -/
def read (s : String) : Option Value :=
  match readValue (2 * s.toList.length + 2) s.toList with
  | some (v, rest) => if skipSpace rest = [] then some v else none
  | none => none

/-! ## The text of a string is read back -/

theorem hexValue_digitChar {n : ℕ} (hn : n < 16) : hexValue (Nat.digitChar n) = some n := by
  have hall : ∀ n : Fin 16, hexValue (Nat.digitChar n) = some n.val := by decide
  exact hall ⟨n, hn⟩

/-- An escaped character is read as that character. -/
theorem readChars_escapeChar (n : ℕ) (c : Char) (rest : List Char) :
    readChars (n + 1) ((escapeChar c).toList ++ rest) =
      (readChars n rest).map fun r => (c :: r.1, r.2) := by
  unfold escapeChar
  split
  · next h => subst h; cases hr : readChars n rest <;> simp [readChars, readEscape, hr]
  split
  · next h => subst h; cases hr : readChars n rest <;> simp [readChars, readEscape, hr]
  split
  · next h => subst h; cases hr : readChars n rest <;> simp [readChars, readEscape, hr]
  split
  · next h => subst h; cases hr : readChars n rest <;> simp [readChars, readEscape, hr]
  split
  · next h => subst h; cases hr : readChars n rest <;> simp [readChars, readEscape, hr]
  split
  · next h =>
      have hc : c = Char.ofNat 8 := by rw [← h, Char.ofNat_toNat]
      cases hr : readChars n rest <;> simp [readChars, readEscape, hr, hc]
  split
  · next h =>
      have hc : c = Char.ofNat 12 := by rw [← h, Char.ofNat_toNat]
      cases hr : readChars n rest <;> simp [readChars, readEscape, hr, hc]
  split
  · next h =>
      have hhigh := hexValue_digitChar (n := c.toNat / 16) (by omega)
      have hlow := hexValue_digitChar (n := c.toNat % 16) (by omega)
      have hzero : hexValue '0' = some 0 := by decide
      have hnat : c.toNat / 16 * 16 + c.toNat % 16 = c.toNat := by omega
      cases hr : readChars n rest <;>
        simp [readChars, readEscape, readUnicode, readHex4, hhigh, hlow, hzero, hnat, hr,
          show c.toNat < 55296 by omega]
  · next hquote hslash _ _ _ _ _ hcontrol =>
      cases hr : readChars n rest <;> simp [readChars, hquote, hslash, hcontrol, hr]

theorem readChars_escaped (l : List Char) : ∀ {n : ℕ} (rest : List Char), l.length ≤ n →
    readChars (n + 1) (l.flatMap (fun c => (escapeChar c).toList) ++ '"' :: rest) = some (l, rest) := by
  induction l with
  | nil =>
      intro n rest _
      simp [readChars]
  | cons c l ih =>
      intro n rest hn
      obtain ⟨m, rfl⟩ : ∃ m, n = m + 1 := ⟨n - 1, by simp only [List.length_cons] at hn; omega⟩
      rw [List.flatMap_cons, List.append_assoc, readChars_escapeChar, ih rest (by simpa using hn)]
      rfl

theorem escapeChar_ne_nil (c : Char) : (escapeChar c).toList ≠ [] := by
  unfold escapeChar
  split_ifs <;> simp

theorem length_le_escaped (l : List Char) :
    l.length ≤ (l.flatMap fun c => (escapeChar c).toList).length := by
  induction l with
  | nil => simp
  | cons c l ih =>
      have hpos := List.length_pos_iff.mpr (escapeChar_ne_nil c)
      simp only [List.flatMap_cons, List.length_append, List.length_cons]
      omega

theorem toList_quote (s : String) :
    (quote s).toList = '"' :: (s.toList.flatMap (fun c => (escapeChar c).toList) ++ ['"']) := by
  simp [quote, List.flatMap_map]

/-- The text of a string is read as that string. -/
theorem readString_quote (s : String) (rest : List Char) :
    readString (s.toList.flatMap (fun c => (escapeChar c).toList) ++ '"' :: rest) = some (s, rest) := by
  have hlength := length_le_escaped s.toList
  unfold readString
  rw [readChars_escaped s.toList rest (by simp only [List.length_append]; omega), Option.map_some,
    String.ofList_toList]

/-! ## The text of a number is read back -/

/-- Where a value may end. -/
def Delimited (rest : List Char) : Prop :=
  ∀ c ∈ rest.head?, c = ',' ∨ c = ']' ∨ c = '\x7d'

/-- A text that is read as a number wherever it stands. -/
structure IsNumber (text : String) : Prop where
  starts : ∃ c cs, text.toList = c :: cs ∧ (c = '-' ∨ c.isDigit = true)
  reads : ∀ rest, Delimited rest → readNumber (text.toList ++ rest) = some (text, rest)

theorem Delimited.not_digit {rest : List Char} (h : Delimited rest) :
    rest.takeWhile Char.isDigit = [] ∧ rest.dropWhile Char.isDigit = rest := by
  cases rest with
  | nil => exact ⟨rfl, rfl⟩
  | cons c rest =>
      have hc : c.isDigit = false := by
        rcases h c rfl with rfl | rfl | rfl <;> decide
      simp [hc]

theorem Delimited.no_fraction {rest : List Char} (h : Delimited rest) :
    readFraction rest = some ([], rest) := by
  unfold readFraction
  split
  · have := h '.' rfl
    simp at this
  · rfl

theorem Delimited.no_exponent {rest : List Char} (h : Delimited rest) :
    readExponent rest = some ([], rest) := by
  cases rest with
  | nil => rfl
  | cons c rest =>
      have hc : ¬ (c = 'e' ∨ c = 'E') := by
        rcases h c rfl with rfl | rfl | rfl <;> decide
      simp only [readExponent, if_neg hc]

/-- The first digit of a positive number is not zero. -/
theorem toDigits_head {n : ℕ} (hn : 0 < n) :
    ∃ c cs, Nat.toDigits 10 n = c :: cs ∧ c ≠ '0' := by
  induction n using Nat.strongRecOn with
  | ind n ih =>
      by_cases hlt : n < 10
      · refine ⟨n.digitChar, [], Nat.toDigits_of_lt_base hlt, ?_⟩
        rw [Ne, Nat.digitChar_eq_zero]
        omega
      · obtain ⟨c, cs, hdigits, hc⟩ := ih (n / 10) (by omega) (by omega)
        refine ⟨c, cs ++ [(n % 10).digitChar], ?_, hc⟩
        rw [Nat.toDigits_of_base_le (by omega) (by omega), hdigits, List.cons_append]

theorem readWhole_toDigits (n : ℕ) {rest : List Char} (hrest : Delimited rest) :
    readWhole (Nat.toDigits 10 n ++ rest) = some (Nat.toDigits 10 n, rest) := by
  rcases Nat.eq_zero_or_pos n with rfl | hpos
  · rfl
  · obtain ⟨c, cs, hdigits, hc⟩ := toDigits_head hpos
    have hall : ∀ d ∈ Nat.toDigits 10 n, d.isDigit = true := fun d hd =>
      Nat.isDigit_of_mem_toDigits (by omega) (by omega) hd
    have hread : readDigits (Nat.toDigits 10 n ++ rest) = some (Nat.toDigits 10 n, rest) := by
      unfold readDigits
      rw [List.takeWhile_append_of_pos hall, List.dropWhile_append_of_pos hall, hrest.not_digit.1,
        hrest.not_digit.2, List.append_nil, if_neg Nat.toDigits_ne_nil]
    rw [← hread, hdigits, List.cons_append]
    unfold readWhole
    split
    · next heq =>
        exact absurd (List.cons.inj heq).1 hc
    · rfl

theorem readUnsigned_toDigits (n : ℕ) {rest : List Char} (hrest : Delimited rest) :
    readUnsigned (Nat.toDigits 10 n ++ rest) = some (Nat.toDigits 10 n, rest) := by
  simp [readUnsigned, readWhole_toDigits n hrest, hrest.no_fraction, hrest.no_exponent]

theorem toDigits_digit (n : ℕ) : ∃ c cs, Nat.toDigits 10 n = c :: cs ∧ c.isDigit = true := by
  obtain ⟨c, cs, h⟩ := List.exists_cons_of_ne_nil (Nat.toDigits_ne_nil (n := n) (b := 10))
  exact ⟨c, cs, h, Nat.isDigit_of_mem_toDigits (by omega) (by omega) (h ▸ List.mem_cons_self)⟩

theorem readNumber_digit {c : Char} {cs : List Char} (hc : c.isDigit = true) :
    readNumber (c :: cs) = (readUnsigned (c :: cs)).map fun r => (String.ofList r.1, r.2) := by
  unfold readNumber
  split
  · next heq =>
      rw [(List.cons.inj heq).1] at hc
      simp at hc
  · rfl

theorem toList_repr_negSucc (n : ℕ) : (Int.negSucc n).repr.toList = '-' :: Nat.toDigits 10 (n + 1) := by
  show ("-" ++ (n + 1).repr).toList = _
  rw [String.toList_append, Nat.toList_repr]
  rfl

/-- An integer is a number. -/
theorem isNumber_repr (i : ℤ) : IsNumber i.repr := by
  cases i with
  | ofNat n =>
      obtain ⟨c, cs, hdigits, hc⟩ := toDigits_digit n
      have htext : (Int.ofNat n).repr.toList = Nat.toDigits 10 n := Nat.toList_repr
      refine ⟨⟨c, cs, htext.trans hdigits, .inr hc⟩, fun rest hrest => ?_⟩
      have hread := readUnsigned_toDigits n hrest
      rw [htext]
      rw [hdigits, List.cons_append] at hread ⊢
      rw [readNumber_digit hc, hread, Option.map_some, ← hdigits, ← htext, String.ofList_toList]
  | negSucc n =>
      have htext := toList_repr_negSucc n
      refine ⟨⟨'-', _, htext, .inl rfl⟩, fun rest hrest => ?_⟩
      have hread := readUnsigned_toDigits (n + 1) hrest
      rw [htext, List.cons_append]
      show (readUnsigned (Nat.toDigits 10 (n + 1) ++ rest)).map _ = _
      rw [hread, Option.map_some, ← htext, String.ofList_toList]

/-- No integer is written as a zero with a minus sign. -/
theorem repr_ne_minus_zero (i : ℤ) : i.repr ≠ "-0" := by
  intro h
  have hlist := congrArg String.toList h
  cases i with
  | ofNat n =>
      obtain ⟨c, cs, hdigits, hc⟩ := toDigits_digit n
      have htext : (Int.ofNat n).repr.toList = Nat.toDigits 10 n := Nat.toList_repr
      rw [htext, hdigits] at hlist
      have hminus : c = '-' := (List.cons.inj hlist).1
      rw [hminus] at hc
      exact absurd hc (by decide)
  | negSucc n =>
      obtain ⟨c, cs, hdigits, hc⟩ := toDigits_head (n := n + 1) (by omega)
      have htext := toList_repr_negSucc n
      rw [htext, hdigits] at hlist
      exact hc (List.cons.inj (List.cons.inj hlist).2).1

/-! ## The text of a value is read back -/

mutual

/-- The numbers in a value are numbers. -/
def Numeric : Value → Prop
  | .number text => IsNumber text
  | .arr items => NumericItems items
  | .obj fields => NumericFields fields
  | _ => True

/-- So are those in the items of an array. -/
def NumericItems : List Value → Prop
  | [] => True
  | v :: items => v.Numeric ∧ NumericItems items

/-- So are those in the fields of an object. -/
def NumericFields : List (String × Value) → Prop
  | [] => True
  | (_, v) :: fields => v.Numeric ∧ NumericFields fields

end

/-- How a value begins. -/
def Begins (cs : List Char) : Prop :=
  ∃ c rest, cs = c :: rest ∧ (c ∈ ['n', 't', 'f', '"', '[', '\x7b', '-'] ∨ c.isDigit = true)

theorem Begins.append {cs : List Char} (h : Begins cs) (rest : List Char) : Begins (cs ++ rest) := by
  obtain ⟨c, tail, rfl, hc⟩ := h
  exact ⟨c, tail ++ rest, rfl, hc⟩

theorem render_arr (items : List Value) :
    (Value.arr items).render = "[" ++ String.intercalate "," (renderItems items) ++ "]" := rfl

theorem render_obj (fields : List (String × Value)) :
    (Value.obj fields).render = "\x7b" ++ String.intercalate "," (renderFields fields) ++ "\x7d" := rfl

theorem begins_render : ∀ v : Value, v.Numeric → Begins v.render.toList
  | .null, _ => ⟨'n', _, rfl, by simp⟩
  | .bool true, _ => ⟨'t', _, rfl, by simp⟩
  | .bool false, _ => ⟨'f', _, rfl, by simp⟩
  | .number text, h => by
      obtain ⟨c, cs, htext, hc⟩ := IsNumber.starts h
      refine ⟨c, cs, htext, ?_⟩
      rcases hc with rfl | hc
      · simp
      · exact .inr hc
  | .str s, _ => ⟨'"', _, toList_quote s, by simp⟩
  | .arr items, _ => by
      rw [render_arr, String.toList_append, String.toList_append]
      exact ⟨'[', _, rfl, by simp⟩
  | .obj fields, _ => by
      rw [render_obj, String.toList_append, String.toList_append]
      exact ⟨'\x7b', _, rfl, by simp⟩

theorem skipSpace_cons {c : Char} (cs : List Char)
    (hc : c ≠ ' ' ∧ c ≠ '\n' ∧ c ≠ '\r' ∧ c ≠ '\t') : skipSpace (c :: cs) = c :: cs := by
  simp [skipSpace, hc]

/-- Nothing is skipped before a value, which closes nothing. -/
theorem Begins.skipSpace_eq {cs : List Char} (h : Begins cs) :
    skipSpace cs = cs ∧ ∀ c ∈ cs.head?, c ≠ ']' ∧ c ≠ '\x7d' := by
  obtain ⟨c, rest, rfl, hc⟩ := h
  have hne : ∀ d : Char, d.isDigit = false → d ∉ ['n', 't', 'f', '"', '[', '\x7b', '-'] → c ≠ d := by
    rintro d hdigit hmem rfl
    rcases hc with hc | hc
    · exact hmem hc
    · simp [hdigit] at hc
  refine ⟨skipSpace_cons rest ⟨?_, ?_, ?_, ?_⟩, ?_⟩
  · exact hne ' ' (by decide) (by decide)
  · exact hne '\n' (by decide) (by decide)
  · exact hne '\r' (by decide) (by decide)
  · exact hne '\t' (by decide) (by decide)
  · intro d hd
    obtain rfl := Option.some.inj hd
    exact ⟨hne ']' (by decide) (by decide), hne '\x7d' (by decide) (by decide)⟩

/-- A number is read as a value. -/
theorem IsNumber.readValue {text : String} (h : IsNumber text) {n : ℕ} (hn : 0 < n) {rest : List Char}
    (hrest : Delimited rest) : readValue n (text.toList ++ rest) = some (.number text, rest) := by
  obtain ⟨m, rfl⟩ : ∃ m, n = m + 1 := ⟨n - 1, by omega⟩
  obtain ⟨c, cs, htext, hc⟩ := h.starts
  have hread := h.reads rest hrest
  have hne : ∀ d : Char, d.isDigit = false → d ≠ '-' → c ≠ d := by
    rintro d hdigit hminus rfl
    rcases hc with hc | hc
    · exact hminus hc
    · simp [hdigit] at hc
  have hskip : skipSpace (c :: (cs ++ rest)) = c :: (cs ++ rest) :=
    skipSpace_cons _ ⟨hne ' ' (by decide) (by decide), hne '\n' (by decide) (by decide),
      hne '\r' (by decide) (by decide), hne '\t' (by decide) (by decide)⟩
  rw [htext, List.cons_append] at hread ⊢
  rw [readValue_succ, hskip]
  split
  · next heq => exact absurd (List.cons.inj heq).1 (hne '"' (by decide) (by decide))
  · next heq => exact absurd (List.cons.inj heq).1 (hne '[' (by decide) (by decide))
  · next heq => exact absurd (List.cons.inj heq).1 (hne '\x7b' (by decide) (by decide))
  · next heq => exact absurd (List.cons.inj heq).1 (hne 'n' (by decide) (by decide))
  · next heq => exact absurd (List.cons.inj heq).1 (hne 't' (by decide) (by decide))
  · next heq => exact absurd (List.cons.inj heq).1 (hne 'f' (by decide) (by decide))
  · rw [hread]
    rfl

theorem delimited_cons {c : Char} (hc : c = ',' ∨ c = ']' ∨ c = '\x7d') (cs : List Char) :
    Delimited (c :: cs) := by
  intro d hd
  obtain rfl := Option.some.inj hd
  exact hc

/-- An array that is not empty is read item by item. -/
theorem readValue_arr {n : ℕ} {cs : List Char} (hskip : skipSpace cs = cs)
    (hclose : ∀ c ∈ cs.head?, c ≠ ']') :
    readValue (n + 1) ('[' :: cs) = (readItems n cs).map fun r => (.arr r.1, r.2) := by
  rw [readValue_bracket, hskip]
  split
  · next rest => exact absurd rfl (hclose ']' rfl)
  · rfl

/-- An object that is not empty is read field by field. -/
theorem readValue_obj {n : ℕ} {cs : List Char} (hskip : skipSpace cs = cs)
    (hclose : ∀ c ∈ cs.head?, c ≠ '\x7d') :
    readValue (n + 1) ('\x7b' :: cs) = (readFields n cs).map fun r => (.obj r.1, r.2) := by
  rw [readValue_brace, hskip]
  split
  · next rest => exact absurd rfl (hclose '\x7d' rfl)
  · rfl

/-- The text between the brackets of an array. -/
def itemsText (items : List Value) : List Char := (String.intercalate "," (renderItems items)).toList

/-- The text between the braces of an object. -/
def fieldsText (fields : List (String × Value)) : List Char :=
  (String.intercalate "," (renderFields fields)).toList

theorem renderItems_cons (v : Value) (items : List Value) :
    renderItems (v :: items) = v.render :: renderItems items := rfl

theorem renderItems_nil : renderItems [] = [] := rfl

theorem renderFields_cons (kv : String × Value) (fields : List (String × Value)) :
    renderFields (kv :: fields) = (quote kv.1 ++ ":" ++ kv.2.render) :: renderFields fields := rfl

theorem renderFields_nil : renderFields [] = [] := rfl

theorem itemsText_cons_cons (v w : Value) (items : List Value) :
    itemsText (v :: w :: items) = v.render.toList ++ ',' :: itemsText (w :: items) := by
  simp [itemsText, renderItems_cons]

theorem itemsText_singleton (v : Value) : itemsText [v] = v.render.toList := by
  simp [itemsText, renderItems_cons, renderItems_nil]

/-- The text of one field. -/
def fieldText (key : String) (v : Value) : List Char :=
  '"' :: (key.toList.flatMap (fun c => (escapeChar c).toList) ++ '"' :: ':' :: v.render.toList)

theorem fieldsText_cons_cons (kv lw : String × Value) (fields : List (String × Value)) :
    fieldsText (kv :: lw :: fields) = fieldText kv.1 kv.2 ++ ',' :: fieldsText (lw :: fields) := by
  simp [fieldsText, fieldText, renderFields_cons, toList_quote]

theorem fieldsText_singleton (kv : String × Value) : fieldsText [kv] = fieldText kv.1 kv.2 := by
  simp [fieldsText, fieldText, renderFields_cons, renderFields_nil, toList_quote]

theorem fieldsText_begins (kv : String × Value) (fields : List (String × Value)) :
    Begins (fieldsText (kv :: fields)) := by
  cases fields with
  | nil => exact ⟨'"', _, fieldsText_singleton kv, by simp⟩
  | cons lw fields => exact ⟨'"', _, fieldsText_cons_cons kv lw fields, by simp⟩

theorem itemsText_begins {v : Value} {items : List Value} (hv : v.Numeric) :
    Begins (itemsText (v :: items)) := by
  cases items with
  | nil => exact (itemsText_singleton v).symm ▸ begins_render v hv
  | cons w items => exact (itemsText_cons_cons v w items).symm ▸ (begins_render v hv).append _

theorem Begins.pos {cs : List Char} (h : Begins cs) : 0 < cs.length := by
  obtain ⟨c, rest, rfl, -⟩ := h
  simp

/-- The text of `v` is read as `v`, and what comes after it is left. -/
def Reads (v : Value) : Prop :=
  ∀ n rest, 2 * v.render.toList.length ≤ n → Delimited rest →
    readValue n (v.render.toList ++ rest) = some (v, rest)

/-- The text of these items, if there are any, is read as they are. -/
structure ReadsItems (items : List Value) : Prop where
  begins : items ≠ [] → Begins (itemsText items)
  reads : items ≠ [] → ∀ n rest, 2 * (itemsText items).length + 1 ≤ n →
    readItems n (itemsText items ++ ']' :: rest) = some (items, rest)

/-- The text of these fields, if there are any, is read as they are. -/
def ReadsFields (fields : List (String × Value)) : Prop :=
  fields ≠ [] → ∀ n rest, 2 * (fieldsText fields).length + 1 ≤ n →
    readFields n (fieldsText fields ++ '\x7d' :: rest) = some (fields, rest)

theorem exists_succ {n : ℕ} (hn : 0 < n) : ∃ m, n = m + 1 := ⟨n - 1, by omega⟩

theorem reads_word {v : Value} {word : List Char} (hword : v.render.toList = word) (hpos : 0 < word.length)
    (hread : ∀ n rest, readValue (n + 1) (word ++ rest) = some (v, rest)) : Reads v := by
  intro n rest hn _
  rw [hword] at hn ⊢
  obtain ⟨m, rfl⟩ := exists_succ (n := n) (by omega)
  exact hread m rest

theorem reads_str (s : String) : Reads (.str s) := by
  intro n rest hn _
  have htext : (Value.str s).render.toList ++ rest =
      '"' :: (s.toList.flatMap (fun c => (escapeChar c).toList) ++ '"' :: rest) := by
    show (quote s).toList ++ rest = _
    simp [toList_quote]
  have hpos : 0 < (Value.str s).render.toList.length := (begins_render (.str s) trivial).pos
  obtain ⟨m, rfl⟩ := exists_succ (n := n) (by omega)
  rw [htext]
  rw [readValue_succ, skipSpace_cons _ (by decide)]
  show (readString _).map _ = _
  rw [readString_quote, Option.map_some]

theorem reads_arr {items : List Value} (hitems : ReadsItems items) : Reads (.arr items) := by
  cases items with
  | nil => exact reads_word rfl (by decide) fun _ _ => rfl
  | cons v items =>
      intro n rest hn _
      have htext : (Value.arr (v :: items)).render.toList ++ rest =
          '[' :: (itemsText (v :: items) ++ ']' :: rest) := by
        simp [render_arr, itemsText]
      have hlength := congrArg List.length htext
      simp only [List.length_append, List.length_cons] at hlength
      obtain ⟨m, rfl⟩ := exists_succ (n := n) (by omega)
      obtain ⟨hskip, hclose⟩ := ((hitems.begins (by simp)).append (']' :: rest)).skipSpace_eq
      rw [htext, readValue_arr hskip fun c hc => (hclose c hc).1,
        hitems.reads (by simp) m rest (by omega), Option.map_some]

theorem reads_obj {fields : List (String × Value)} (hfields : ReadsFields fields) :
    Reads (.obj fields) := by
  cases fields with
  | nil => exact reads_word rfl (by decide) fun _ _ => rfl
  | cons kv fields =>
      intro n rest hn _
      have htext : (Value.obj (kv :: fields)).render.toList ++ rest =
          '\x7b' :: (fieldsText (kv :: fields) ++ '\x7d' :: rest) := by
        simp [render_obj, fieldsText]
      have hlength := congrArg List.length htext
      simp only [List.length_append, List.length_cons] at hlength
      obtain ⟨m, rfl⟩ := exists_succ (n := n) (by omega)
      obtain ⟨hskip, hclose⟩ := ((fieldsText_begins kv fields).append ('\x7d' :: rest)).skipSpace_eq
      rw [htext, readValue_obj hskip fun c hc => (hclose c hc).2, hfields (by simp) m rest (by omega),
        Option.map_some]

theorem readsItems_nil : ReadsItems [] := ⟨fun h => absurd rfl h, fun h => absurd rfl h⟩

theorem readsFields_nil : ReadsFields [] := fun h => absurd rfl h

theorem readsItems_cons {v : Value} {items : List Value} (hnumeric : v.Numeric) (hv : Reads v)
    (hitems : ReadsItems items) : ReadsItems (v :: items) := by
  refine ⟨fun _ => itemsText_begins hnumeric, fun _ n rest hn => ?_⟩
  obtain ⟨m, rfl⟩ := exists_succ (n := n) (by omega)
  cases items with
  | nil =>
      rw [itemsText_singleton] at hn ⊢
      rw [readItems_succ, hv m _ (by omega) (delimited_cons (by simp) rest)]
      rfl
  | cons w items =>
      rw [itemsText_cons_cons] at hn ⊢
      simp only [List.length_append, List.length_cons] at hn
      rw [List.append_assoc, List.cons_append]
      rw [readItems_succ, hv m _ (by omega) (delimited_cons (by simp) _)]
      show (readItems m (itemsText (w :: items) ++ ']' :: rest)).map _ = _
      rw [hitems.reads (by simp) m rest (by omega)]
      rfl

theorem readsFields_cons {key : String} {v : Value} {fields : List (String × Value)} (hv : Reads v)
    (hfields : ReadsFields fields) : ReadsFields ((key, v) :: fields) := by
  intro _ n rest hn
  obtain ⟨m, rfl⟩ := exists_succ (n := n) (by omega)
  cases fields with
  | nil =>
      rw [fieldsText_singleton] at hn ⊢
      simp only [fieldText, List.length_cons, List.length_append] at hn
      simp only [fieldText, List.cons_append, List.append_assoc]
      rw [readFields_succ, skipSpace_cons _ (by decide)]
      simp only [readString_quote, Option.bind_some]
      rw [skipSpace_cons _ (by decide)]
      simp only [hv m _ (by omega) (delimited_cons (.inr (.inr rfl)) rest), Option.bind_some]
      rfl
  | cons lw fields =>
      rw [fieldsText_cons_cons] at hn ⊢
      simp only [fieldText, List.length_cons, List.length_append] at hn
      simp only [fieldText, List.cons_append, List.append_assoc]
      rw [readFields_succ, skipSpace_cons _ (by decide)]
      simp only [readString_quote, Option.bind_some]
      rw [skipSpace_cons _ (by decide)]
      simp only [hv m _ (by omega) (delimited_cons (.inl rfl) _), Option.bind_some]
      rw [skipSpace_cons _ (by decide)]
      simp only [hfields (by simp) m rest (by omega), Option.map_some]

mutual

theorem reads_of_numeric : ∀ v : Value, v.Numeric → Reads v
  | .null, _ => reads_word rfl (by decide) fun _ _ => rfl
  | .bool true, _ => reads_word rfl (by decide) fun _ _ => rfl
  | .bool false, _ => reads_word rfl (by decide) fun _ _ => rfl
  | .number text, h => fun n rest hn hrest =>
      IsNumber.readValue h (by have := (begins_render (.number text) h).pos; omega) hrest
  | .str s, _ => reads_str s
  | .arr items, h => reads_arr (readsItems_of_numeric items h)
  | .obj fields, h => reads_obj (readsFields_of_numeric fields h)

theorem readsItems_of_numeric : ∀ items : List Value, NumericItems items → ReadsItems items
  | [], _ => readsItems_nil
  | v :: items, h => readsItems_cons h.1 (reads_of_numeric v h.1) (readsItems_of_numeric items h.2)

theorem readsFields_of_numeric : ∀ fields : List (String × Value), NumericFields fields →
    ReadsFields fields
  | [], _ => readsFields_nil
  | (_, v) :: fields, h =>
      readsFields_cons (reads_of_numeric v h.1) (readsFields_of_numeric fields h.2)

end

/-- **The text of a value is read as that value.** -/
theorem read_render {v : Value} (hv : v.Numeric) : read v.render = some v := by
  have hread := reads_of_numeric v hv (2 * v.render.toList.length + 2) [] (by omega) (by simp [Delimited])
  rw [List.append_nil] at hread
  unfold read
  rw [hread]
  rfl

end Value

end SsoGateway.Lib
