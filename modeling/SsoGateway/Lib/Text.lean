import Mathlib.Algebra.Group.Int.Defs
import Mathlib.Algebra.Group.Nat.Defs
import Mathlib.Data.List.Basic
import Mathlib.Data.List.DropRight
import Mathlib.Data.Int.Notation

/-!
# Words of a text

The string functions of the Rust standard library that services use to read space-separated
lists: `splitWhitespace` (`str::split_whitespace`), `joinSpace` (`[str]::join(" ")`), `startsWith`
(`str::starts_with`), `stripStart` (`str::strip_prefix`), `trim`, `trimEndMatches`, `parseI32`,
`eqIgnoreAsciiCase`, `toAsciiLowercase`, `splitAt` (`str::split`) and `splitOnce`
(`str::split_once`).

* `isWord_of_mem_splitWhitespace` — what a split yields are words.
* `splitWhitespace_joinSpace` — joining words and splitting again gives the words back.
* `splitOnce_eq_some`, `stripStart_eq_some` — a text that was split, and one whose beginning was taken
  off, are put together again.
* `normalize_normalize` — trimming and lower case, applied twice.

Nothing here is about a particular service.
-/

namespace SsoGateway.Lib

/-- The characters of Unicode's `White_Space` property. -/
def isWhitespace (c : Char) : Bool :=
  let n := c.toNat
  (9 ≤ n ∧ n ≤ 13) ∨ n = 32 ∨ n = 0x85 ∨ n = 0xA0 ∨ n = 0x1680 ∨ (0x2000 ≤ n ∧ n ≤ 0x200A) ∨
    n = 0x2028 ∨ n = 0x2029 ∨ n = 0x202F ∨ n = 0x205F ∨ n = 0x3000

/-- The maximal runs of non-whitespace characters of a text, in order. -/
def splitWhitespace (s : String) : List String :=
  ((s.toList.splitOnP isWhitespace).filter fun w => w ≠ []).map String.ofList

@[simp] theorem splitWhitespace_empty : splitWhitespace "" = [] := rfl

/-- The texts joined with one space. -/
def joinSpace (ws : List String) : String := String.intercalate " " ws

/-- Does the text `s` begin with `start`? -/
def startsWith (s start : String) : Bool := start.toList.isPrefixOf s.toList

/-- The text before and after the first occurrence of a character. -/
def splitOnce (s : String) (sep : Char) : Option (String × String) :=
  if sep ∈ s.toList then
    some (String.ofList (s.toList.takeWhile (· ≠ sep)),
      String.ofList ((s.toList.dropWhile (· ≠ sep)).drop 1))
  else none

/-- The pieces of a text between the occurrences of a character, empty ones included: `str::split`. -/
def splitAt (s : String) (sep : Char) : List String := (s.toList.splitOn sep).map String.ofList

/-- The text with its ASCII letters in lower case: `str::to_ascii_lowercase`. -/
def toAsciiLowercase (s : String) : String := String.ofList (s.toList.map Char.toLower)

/-- The rest of a text that begins with `start`: `str::strip_prefix`. -/
def stripStart (s start : String) : Option String :=
  if startsWith s start then some (String.ofList (s.toList.drop start.toList.length)) else none

/-- The text without the characters `c` at its end: `str::trim_end_matches`. -/
def trimEndMatches (s : String) (c : Char) : String := String.ofList (s.toList.rdropWhile (· = c))

/-- The text without whitespace at its two ends: `str::trim`. -/
def trim (s : String) : String :=
  String.ofList ((s.toList.dropWhile isWhitespace).rdropWhile isWhitespace)

/-- Equality up to the case of ASCII letters: `str::eq_ignore_ascii_case`. -/
def eqIgnoreAsciiCase (s t : String) : Bool := s.toList.map Char.toLower = t.toList.map Char.toLower

/-- The number of a nonempty run of decimal digits. -/
def parseDigits (ds : List Char) : Option ℕ :=
  if ds ≠ [] ∧ ds.all Char.isDigit then
    some (ds.foldl (fun n d => 10 * n + (d.toNat - '0'.toNat)) 0)
  else none

/-- `str::parse::<i32>`: an optional sign and digits, within 32 bits. -/
def parseI32 (s : String) : Option ℤ :=
  let value := match s.toList with
    | '-' :: ds => (parseDigits ds).map fun n => -(n : ℤ)
    | '+' :: ds => (parseDigits ds).map fun n => (n : ℤ)
    | ds => (parseDigits ds).map fun n => (n : ℤ)
  value.filter fun n => -2 ^ 31 ≤ n ∧ n < 2 ^ 31

/-- `str::parse::<i128>`: an optional sign and digits, within 128 bits. -/
def parseI128 (s : String) : Option ℤ :=
  let value := match s.toList with
    | '-' :: ds => (parseDigits ds).map fun n => -(n : ℤ)
    | '+' :: ds => (parseDigits ds).map fun n => (n : ℤ)
    | ds => (parseDigits ds).map fun n => (n : ℤ)
  value.filter fun n => -2 ^ 127 ≤ n ∧ n < 2 ^ 127

/-- A word: a nonempty text without whitespace. -/
def IsWord (s : String) : Prop := s.toList ≠ [] ∧ ∀ c ∈ s.toList, isWhitespace c = false

-- The second half runs over the characters of the text, not over all characters.
instance (s : String) : Decidable (IsWord s) :=
  have : Decidable (∀ c ∈ s.toList, isWhitespace c = false) := List.decidableBAll _ _
  inferInstanceAs (Decidable (_ ∧ _))

/-- No piece of a split contains a character that was split at. -/
theorem forall_mem_of_mem_splitOnP {α : Type} {p : α → Bool} {l w : List α} (hw : w ∈ l.splitOnP p) :
    ∀ c ∈ w, p c = false := by
  induction l generalizing w with
  | nil =>
      rw [List.splitOnP_nil, List.mem_singleton] at hw
      simp [hw]
  | cons x l ih =>
      rw [List.splitOnP_cons_eq_if_modifyHead] at hw
      obtain ⟨r, rs, hr⟩ := List.exists_cons_of_ne_nil (List.splitOnP_ne_nil p l)
      rw [hr] at hw ih
      split at hw
      · rcases List.mem_cons.mp hw with rfl | hw
        · simp
        · exact ih hw
      · rename_i hx
        rcases List.mem_cons.mp hw with rfl | hw
        · intro c hc
          rcases List.mem_cons.mp hc with rfl | hc
          · simpa using hx
          · exact ih List.mem_cons_self c hc
        · exact ih (List.mem_cons_of_mem r hw)

theorem isWord_of_mem_splitWhitespace {s w : String} (hw : w ∈ splitWhitespace s) : IsWord w := by
  obtain ⟨l, hl, rfl⟩ := List.mem_map.mp hw
  obtain ⟨hl, hne⟩ := List.mem_filter.mp hl
  refine ⟨by simpa using hne, fun c hc => ?_⟩
  exact forall_mem_of_mem_splitOnP hl c (by simpa using hc)

/-- Splitting undoes joining, on words. -/
theorem splitWhitespace_joinSpace {ws : List String} (hws : ∀ w ∈ ws, IsWord w) :
    splitWhitespace (joinSpace ws) = ws := by
  induction ws with
  | nil => rfl
  | cons w ws ih =>
      obtain ⟨⟨hne, hword⟩, hrest⟩ := List.forall_mem_cons.mp hws
      rcases ws with _ | ⟨v, vs⟩
      · simp [splitWhitespace, joinSpace, List.splitOnP_eq_singleton hword, hne]
      · have hjoin : (joinSpace (w :: v :: vs)).toList =
            w.toList ++ ' ' :: (joinSpace (v :: vs)).toList := by
          simp [joinSpace, String.intercalate_cons_cons]
        have hsplit := List.splitOnP_append_cons_of_forall_mem hword ' ' (by decide)
          (joinSpace (v :: vs)).toList
        have hrec := ih hrest
        unfold splitWhitespace at hrec ⊢
        rw [hjoin, hsplit, List.filter_cons_of_pos (by simpa using hne), List.map_cons, hrec]
        simp

/-! ## Texts with a separator -/

/-- What stands before the first separator, and what after it. -/
theorem cons_sep_inj {c : Char} : ∀ {l l' m m' : List Char}, c ∉ l → c ∉ l' →
    l ++ c :: m = l' ++ c :: m' → l = l' ∧ m = m'
  | [], [], _, _, _, _, h => ⟨rfl, by simpa using h⟩
  | [], d :: l', _, _, _, hl', h => by
      obtain ⟨rfl, -⟩ := List.cons_eq_cons.mp h
      simp at hl'
  | d :: l, [], _, _, hl, _, h => by
      obtain ⟨rfl, -⟩ := List.cons_eq_cons.mp h
      simp at hl
  | d :: l, d' :: l', m, m', hl, hl', h => by
      rw [List.cons_append, List.cons_append] at h
      obtain ⟨rfl, hrest⟩ := List.cons_eq_cons.mp h
      obtain ⟨rfl, rfl⟩ := cons_sep_inj (fun hc => hl (List.mem_cons_of_mem _ hc))
        (fun hc => hl' (List.mem_cons_of_mem _ hc)) hrest
      exact ⟨rfl, rfl⟩

/-- The characters of a text with a separator. -/
theorem toList_append_sep (a b : String) (c : Char) :
    (a ++ String.singleton c ++ b).toList = a.toList ++ c :: b.toList := by
  simp

/-- A text with a separator has one part before the first one. -/
theorem append_sep_inj {c : Char} {a a' b b' : String} (ha : c ∉ a.toList) (ha' : c ∉ a'.toList)
    (h : a ++ String.singleton c ++ b = a' ++ String.singleton c ++ b') : a = a' ∧ b = b' := by
  have hlists := congrArg String.toList h
  rw [toList_append_sep, toList_append_sep] at hlists
  obtain ⟨hl, hm⟩ := cons_sep_inj ha ha' hlists
  exact ⟨String.toList_inj.mp hl, String.toList_inj.mp hm⟩

/-- A text is split at its first separator. -/
theorem splitOnce_append {a b : String} {c : Char} (ha : c ∉ a.toList) :
    splitOnce (a ++ String.singleton c ++ b) c = some (a, b) := by
  have hpos : ∀ d ∈ a.toList, decide (d ≠ c) = true := by
    intro d hd
    rw [decide_eq_true_eq]
    rintro rfl
    exact ha hd
  unfold splitOnce
  rw [toList_append_sep, if_pos (by simp), List.takeWhile_append_of_pos hpos,
    List.dropWhile_append_of_pos hpos]
  simp

/-- Splitting a text is undone by putting the separator back. -/
theorem splitOnce_eq_some {s a b : String} {c : Char} :
    splitOnce s c = some (a, b) ↔ c ∉ a.toList ∧ s = a ++ String.singleton c ++ b := by
  constructor
  · intro h
    have hc : c ∈ s.toList := by
      by_contra hc
      simp [splitOnce, hc] at h
    obtain ⟨l, m, hs, hl⟩ := List.eq_append_cons_of_mem hc
    have hparts : s = String.ofList l ++ String.singleton c ++ String.ofList m :=
      String.toList_inj.mp (by simpa [toList_append_sep] using hs)
    have hl' : c ∉ (String.ofList l).toList := by simpa using hl
    rw [hparts, splitOnce_append hl'] at h
    obtain ⟨rfl, rfl⟩ := Prod.mk.inj (Option.some.inj h)
    exact ⟨hl', hparts⟩
  · rintro ⟨ha, rfl⟩
    exact splitOnce_append ha

/-- A text without the separator is not split. -/
theorem splitOnce_eq_none {s : String} {c : Char} : splitOnce s c = none ↔ c ∉ s.toList := by
  simp [splitOnce]

theorem stripStart_append (start rest : String) : stripStart (start ++ rest) start = some rest := by
  simp [stripStart, startsWith]

/-- What is left after the beginning was taken off. -/
theorem stripStart_eq_some {s start rest : String} :
    stripStart s start = some rest ↔ s = start ++ rest := by
  constructor
  · intro h
    unfold stripStart startsWith at h
    split at h
    · rename_i hprefix
      obtain ⟨m, hm⟩ := List.isPrefixOf_iff_prefix.mp hprefix
      obtain rfl := Option.some.inj h
      refine String.toList_inj.mp ?_
      simp [← hm]
    · simp at h
  · rintro rfl
    exact stripStart_append start rest

/-! ## Normal form of a text -/

/-- The code of an ASCII capital, and that of the letter in lower case. -/
theorem toNat_toLower (c : Char) : c.toLower.toNat = c.toNat ∧ ¬ (65 ≤ c.toNat ∧ c.toNat ≤ 90) ∨
    c.toLower.toNat = c.toNat + 32 ∧ 65 ≤ c.toNat ∧ c.toNat ≤ 90 := by
  unfold Char.toLower
  split
  · rename_i h
    have hlow : 65 ≤ c.val.toNat := h.1
    have hhigh : c.val.toNat ≤ 90 := h.2
    refine .inr ⟨?_, hlow, hhigh⟩
    show (c.val + ('a'.val - 'A'.val)).toNat = c.val.toNat + 32
    rw [UInt32.toNat_add]
    show (c.val.toNat + 32) % 2 ^ 32 = c.val.toNat + 32
    omega
  · rename_i h
    exact .inl ⟨rfl, h⟩

theorem isWhitespace_toLower (c : Char) : isWhitespace c.toLower = isWhitespace c := by
  unfold isWhitespace
  rw [decide_eq_decide]
  have h := toNat_toLower c
  omega

theorem toLower_toLower (c : Char) : c.toLower.toLower = c.toLower := by
  apply Char.toNat_inj.mp
  have h := toNat_toLower c
  have h' := toNat_toLower c.toLower
  omega

theorem trim_toAsciiLowercase (s : String) :
    trim (toAsciiLowercase s) = toAsciiLowercase (trim s) := by
  have hcomp : isWhitespace ∘ Char.toLower = isWhitespace := funext isWhitespace_toLower
  simp [trim, toAsciiLowercase, List.rdropWhile, List.dropWhile_map, ← List.map_reverse, hcomp]

theorem toAsciiLowercase_toAsciiLowercase (s : String) :
    toAsciiLowercase (toAsciiLowercase s) = toAsciiLowercase s := by
  have hcomp : Char.toLower ∘ Char.toLower = Char.toLower := funext toLower_toLower
  simp [toAsciiLowercase, hcomp]

theorem trim_trim (s : String) : trim (trim s) = trim s := by
  have hfirst : ((s.toList.dropWhile isWhitespace).rdropWhile isWhitespace).dropWhile isWhitespace =
      (s.toList.dropWhile isWhitespace).rdropWhile isWhitespace := by
    obtain ⟨rest, hrest⟩ := List.rdropWhile_prefix isWhitespace (s.toList.dropWhile isWhitespace)
    rcases htrimmed : (s.toList.dropWhile isWhitespace).rdropWhile isWhitespace with _ | ⟨c, l⟩
    · rfl
    · -- the first character is that of a text that begins with no whitespace
      rw [htrimmed] at hrest
      have hc := List.head?_dropWhile_not isWhitespace s.toList
      rw [← hrest] at hc
      rw [List.dropWhile_cons_of_neg]
      simpa using hc
  simp only [trim, String.toList_ofList, hfirst, List.rdropWhile_idempotent]

/-- Trimmed and in lower case: the normal form of an address. -/
theorem normalize_normalize (s : String) :
    toAsciiLowercase (trim (toAsciiLowercase (trim s))) = toAsciiLowercase (trim s) := by
  rw [trim_toAsciiLowercase, trim_trim, toAsciiLowercase_toAsciiLowercase]

/-! ## Numbers -/

theorem parseDigits_toDigits (n : ℕ) : parseDigits (Nat.toDigits 10 n) = some n := by
  have hdigits : (Nat.toDigits 10 n).all Char.isDigit = true := by
    rw [List.all_eq_true]
    intro c hc
    exact Nat.isDigit_of_mem_toDigits (by decide) (by decide) hc
  rw [parseDigits, if_pos ⟨Nat.toDigits_ne_nil, hdigits⟩, ← Nat.ofDigitChars_eq_foldl,
    Nat.ofDigitChars_ten_toDigits]

/-- A number as it is written: its digits, after a sign if it is negative. -/
theorem toList_toString_int (z : ℤ) : (toString z).toList =
    if z < 0 then '-' :: Nat.toDigits 10 z.natAbs else Nat.toDigits 10 z.natAbs := by
  cases z with
  | ofNat n => 
    rw [if_neg (by simp)]
    exact Nat.toList_repr
  | negSucc n =>
    rw [if_pos (Int.negSucc_lt_zero n)]
    show ("-" ++ (n + 1).repr).toList = _
    rw [String.toList_append, Nat.toList_repr]
    rfl

/-- Only the sign is no digit. -/
theorem not_mem_toString_int {z : ℤ} {c : Char} (hc : c.isDigit = false) (hminus : c ≠ '-') :
    c ∉ (toString z).toList := by
  have hdigits : c ∉ Nat.toDigits 10 z.natAbs := by
    intro h
    rw [Nat.isDigit_of_mem_toDigits (by decide) (by decide) h] at hc
    cases hc
  rw [toList_toString_int]
  split <;> simp [hdigits, hminus]

/-- A number within 128 bits reads as it was written. -/
theorem parseI128_toString {z : ℤ} (hlow : -2 ^ 127 ≤ z) (hhigh : z < 2 ^ 127) :
    parseI128 (toString z) = some z := by
  unfold parseI128
  rw [toList_toString_int]
  have hbounds : (-2 ^ 127 ≤ z ∧ z < 2 ^ 127) := ⟨hlow, hhigh⟩
  by_cases hneg : z < 0
  · have hz : -(z.natAbs : ℤ) = z := by omega
    rw [if_pos hneg]
    simp only [parseDigits_toDigits, Option.bind_eq_bind, Option.bind_some, Option.pure_def, Option.map_some,
      hz, Option.filter_some, decide_eq_true_eq, if_pos hbounds]
  · have hz : (z.natAbs : ℤ) = z := by omega
    have hdigits := parseDigits_toDigits z.natAbs
    rw [if_neg hneg]
    split
    · rename_i ds hds
      have hminus := Nat.isDigit_of_mem_toDigits (b := 10) (n := z.natAbs) (c := '-') (by decide) (by decide)
        (by simp [hds])
      exact absurd hminus (by decide)
    · rename_i ds hds
      have hplus := Nat.isDigit_of_mem_toDigits (b := 10) (n := z.natAbs) (c := '+') (by decide) (by decide)
        (by simp [hds])
      exact absurd hplus (by decide)
    · simp only [hdigits, Option.bind_eq_bind, Option.bind_some, Option.pure_def, Option.map_some, hz,
        Option.filter_some, decide_eq_true_eq, if_pos hbounds]

end SsoGateway.Lib
