import Mathlib.Data.List.Infix
import SsoGateway.Lib.Utf8Lossy

/-!
# Substrings, slices and blocks

Search for a substring, the blocks of a text between an opening and a closing marker, and the slices of a
text by the places of its bytes (`str::find`, `&s[from..to]`).

* `findSub_eq_some`, `findSub_eq_none` — the first occurrence of a pattern.
* `findSub_append_iff` — what may stand before a pattern without hiding it.
* `Markers.blocks`, `blocks_bundle` — the blocks of a text, and a text that is put together from them.
* `isBoundary_succ` — behind an ASCII character, a text may be cut.

Nothing here is about a particular service.
-/

namespace SsoGateway.Lib

/-! ## Search -/

section search

variable {α : Type} [DecidableEq α]

/-- `str::find`: the place of the first occurrence. -/
def findSub (pat : List α) : List α → Option ℕ
  | [] => if pat = [] then some 0 else none
  | c :: l => if pat.isPrefixOf (c :: l) then some 0 else (findSub pat l).map (· + 1)

theorem findSub_eq_some {pat l : List α} {i : ℕ} :
    findSub pat l = some i ↔ i ≤ l.length ∧ pat <+: l.drop i ∧ ∀ j < i, ¬ pat <+: l.drop j := by
  induction l generalizing i with
  | nil =>
      by_cases hpat : pat = []
      · simp only [findSub, if_pos hpat, Option.some.injEq]
        constructor
        · rintro rfl
          simp [hpat]
        · rintro ⟨hle, -⟩
          simp at hle
          omega
      · simp [findSub, hpat]
  | cons c l ih =>
      unfold findSub
      by_cases hhead : pat.isPrefixOf (c :: l) = true
      · rw [if_pos hhead, Option.some.injEq]
        rw [List.isPrefixOf_iff_prefix] at hhead
        constructor
        · rintro rfl
          simp [hhead]
        · rintro ⟨-, -, hbefore⟩
          by_contra hne
          exact hbefore 0 (by omega) hhead
      · rw [if_neg hhead]
        rw [List.isPrefixOf_iff_prefix] at hhead
        constructor
        · intro h
          obtain ⟨j, hj, rfl⟩ := Option.map_eq_some_iff.mp h
          obtain ⟨hle, hpre, hbefore⟩ := ih.mp hj
          refine ⟨by simpa using hle, hpre, fun k hk => ?_⟩
          rcases k with _ | k
          · exact hhead
          · exact hbefore k (by omega)
        · rintro ⟨hle, hpre, hbefore⟩
          rcases i with _ | i
          · exact absurd hpre hhead
          · have hrest : findSub pat l = some i := by
              refine ih.mpr ⟨by simpa using hle, hpre, fun k hk => ?_⟩
              exact hbefore (k + 1) (by omega)
            simp [hrest]

theorem findSub_eq_none {pat l : List α} : findSub pat l = none ↔ ¬ pat <:+: l := by
  induction l with
  | nil => simp [findSub]
  | cons c l ih =>
      have hstep : findSub pat (c :: l) =
          if pat.isPrefixOf (c :: l) then some 0 else (findSub pat l).map (· + 1) := rfl
      rw [hstep, List.infix_cons_iff, not_or, ← ih, ← List.isPrefixOf_iff_prefix]
      by_cases hhead : pat.isPrefixOf (c :: l) = true
      · simp [hhead]
      · simp [hhead]

/-- Followed by the pattern, the text holds it at its end only. -/
def HoldsLast (pat x : List α) : Prop := ¬ pat <:+: x ++ pat.dropLast

instance (pat x : List α) : Decidable (HoldsLast pat x) := inferInstanceAs (Decidable (¬ _))

/-- **A pattern is found behind a text** just if it does not begin in it. -/
theorem findSub_append_iff {pat : List α} (hpat : pat ≠ []) (x y : List α) :
    findSub pat (x ++ (pat ++ y)) = some x.length ↔ HoldsLast pat x := by
  have hlength : pat.dropLast.length < pat.length := by
    have := List.length_pos_iff.mpr hpat
    simp only [List.length_dropLast]
    omega
  have hlast : pat.dropLast <+: pat ++ y := (List.dropLast_prefix pat).trans (List.prefix_append _ _)
  rw [findSub_eq_some]
  constructor
  · rintro ⟨-, -, hbefore⟩ ⟨front, back, hinfix⟩
    have hpre : pat <+: (x ++ (pat ++ y)).drop front.length := by
      obtain ⟨rest, hrest⟩ := hlast
      rw [← hrest, ← List.append_assoc x, ← hinfix]
      simp
    apply hbefore front.length _ hpre
    have hsum := congrArg List.length hinfix
    simp only [List.length_append] at hsum
    omega
  · intro hfirst
    refine ⟨by simp, by simp, fun j hj hpre => hfirst ?_⟩
    rw [List.drop_append_of_le_length (by omega)] at hpre
    have hshort : x.drop j ++ pat.dropLast <+: x.drop j ++ (pat ++ y) := by
      rw [List.prefix_append_right_inj]
      exact hlast
    have hpre' : pat <+: x.drop j ++ pat.dropLast := by
      apply List.prefix_of_prefix_length_le hpre hshort
      simp only [List.length_append, List.length_drop, List.length_dropLast]
      omega
    refine hpre'.isInfix.trans ?_
    rw [← List.drop_append_of_le_length (by omega)]
    exact (List.drop_suffix j _).isInfix

end search

/-! ## Blocks -/

/-- What blocks are opened and closed with. -/
structure Markers (α : Type) where
  opening : List α
  closing : List α
  opening_ne : opening ≠ []
  closing_ne : closing ≠ []

namespace Markers

variable {α : Type} [DecidableEq α] (m : Markers α)

/-- The first block of a text, and what follows it. -/
def cut (l : List α) : Option (List α × List α) :=
  (findSub m.opening l).bind fun i => (findSub m.closing (l.drop i)).map fun j =>
    ((l.drop i).take (j + m.closing.length), (l.drop i).drop (j + m.closing.length))

variable {m}

theorem cut_eq_some {l : List α} {r : List α × List α} : m.cut l = some r ↔
    ∃ i j, findSub m.opening l = some i ∧ findSub m.closing (l.drop i) = some j ∧
      r = ((l.drop i).take (j + m.closing.length), (l.drop i).drop (j + m.closing.length)) := by
  simp only [cut, Option.bind_eq_some_iff, Option.map_eq_some_iff]
  constructor
  · rintro ⟨i, hi, j, hj, rfl⟩
    exact ⟨i, j, hi, hj, rfl⟩
  · rintro ⟨i, j, hi, hj, rfl⟩
    exact ⟨i, hi, j, hj, rfl⟩

/-- A pattern that was found stands within the text. -/
theorem le_of_findSub {pat l : List α} {i : ℕ} (h : findSub pat l = some i) : i + pat.length ≤ l.length := by
  obtain ⟨hle, hpre, -⟩ := findSub_eq_some.mp h
  have hlength := hpre.length_le
  rw [List.length_drop] at hlength
  omega

/-- Each block takes something of the text. -/
theorem length_cut {l : List α} {r : List α × List α} (h : m.cut l = some r) : r.2.length < l.length := by
  obtain ⟨i, j, hi, hj, rfl⟩ := cut_eq_some.mp h
  have hend := le_of_findSub hj
  have hclosing := List.length_pos_iff.mpr m.closing_ne
  simp only [List.length_drop] at hend ⊢
  omega

variable (m) in
/-- The blocks of a text. -/
def blocks (l : List α) : List (List α) :=
  match h : m.cut l with
  | none => []
  | some r => r.1 :: blocks r.2
termination_by l.length
decreasing_by exact length_cut h

theorem blocks_of_none {l : List α} (h : m.cut l = none) : m.blocks l = [] := by
  rw [blocks]
  split
  · rfl
  · rename_i r hr
    rw [h] at hr
    simp at hr

theorem blocks_of_some {l : List α} {r : List α × List α} (h : m.cut l = some r) :
    m.blocks l = r.1 :: m.blocks r.2 := by
  rw [blocks]
  split
  · rename_i hr
    rw [h] at hr
    simp at hr
  · rename_i r' hr
    rw [h, Option.some.injEq] at hr
    rw [hr]

/-- A body between its markers. -/
def block (m : Markers α) (body : List α) : List α := m.opening ++ (body ++ m.closing)

/-- Fillers, each with a block behind it, and what comes last. -/
def bundle (m : Markers α) : List (List α × List α) → List α → List α
  | [], last => last
  | p :: rest, last => p.1 ++ (m.block p.2 ++ bundle m rest last)

/-- No marker begins in a filler or a body, together with the marker that follows. -/
def Plain (m : Markers α) (p : List α × List α) : Prop :=
  HoldsLast m.opening p.1 ∧ HoldsLast m.closing (m.opening ++ p.2)

/-- What is opened is not closed. -/
def Unclosed (m : Markers α) (last : List α) : Prop :=
  ∀ i, findSub m.opening last = some i → ¬ m.closing <:+: last.drop i

theorem cut_bundle {p : List α × List α} (hp : m.Plain p) (rest : List α) :
    m.cut (p.1 ++ (m.block p.2 ++ rest)) = some (m.block p.2, rest) := by
  have hopen : findSub m.opening (p.1 ++ (m.block p.2 ++ rest)) = some p.1.length := by
    have hfound := (findSub_append_iff m.opening_ne p.1 (p.2 ++ m.closing ++ rest)).mpr hp.1
    simpa [block] using hfound
  have hclose : findSub m.closing (m.block p.2 ++ rest) = some (m.opening ++ p.2).length := by
    have hfound := (findSub_append_iff m.closing_ne (m.opening ++ p.2) rest).mpr hp.2
    simpa [block] using hfound
  rw [cut_eq_some]
  refine ⟨p.1.length, (m.opening ++ p.2).length, hopen, ?_, ?_⟩
  · rw [List.drop_left]
    exact hclose
  · have hlength : (m.opening ++ p.2).length + m.closing.length = (m.block p.2).length := by
      simp [block, Nat.add_assoc]
    rw [List.drop_left, hlength, List.take_left, List.drop_left]

/-- **The blocks of a text that was put together are the blocks it was put together from.** -/
theorem blocks_bundle {pairs : List (List α × List α)} {last : List α} (hpairs : ∀ p ∈ pairs, m.Plain p)
    (hlast : m.Unclosed last) : m.blocks (m.bundle pairs last) = pairs.map fun p => m.block p.2 := by
  induction pairs with
  | nil =>
      apply blocks_of_none
      rw [Option.eq_none_iff_forall_ne_some]
      intro r hr
      obtain ⟨i, j, hi, hj, -⟩ := cut_eq_some.mp hr
      have hnone := findSub_eq_none.mpr (hlast i hi)
      rw [bundle, hnone] at hj
      simp at hj
  | cons p pairs ih =>
      have hcut : m.cut (m.bundle (p :: pairs) last) = some (m.block p.2, m.bundle pairs last) :=
        cut_bundle (hpairs p List.mem_cons_self) _
      rw [blocks_of_some hcut, ih fun q hq => hpairs q (List.mem_cons_of_mem p hq), List.map_cons]

end Markers

/-! ## Slices -/

/-- `str::is_char_boundary`: no character is cut in two here. -/
def isBoundary (bytes : List UInt8) (i : ℕ) : Bool :=
  i ≤ bytes.length && bytes[i]?.all fun b => b.toNat < 0x80 || 0xC0 ≤ b.toNat

/-- The bytes of a character: an ASCII one, or a first byte and bytes that continue it. -/
theorem utf8EncodeChar_bytes (c : Char) :
    (∃ b, String.utf8EncodeChar c = [b] ∧ b.toNat < 0x80) ∨
      ∃ b l, String.utf8EncodeChar c = b :: l ∧ 0xC0 ≤ b.toNat ∧ ∀ d ∈ l, 0x80 ≤ d.toNat := by
  obtain ⟨-, hmax⟩ := Char.not_surrogate c
  have hnat : c.val.toNat = c.toNat := rfl
  unfold String.utf8EncodeChar
  simp only [hnat]
  generalize c.toNat = n at *
  split
  · left
    refine ⟨_, rfl, ?_⟩
    rw [toNat_ofNat_of_lt (by omega)]
    omega
  right
  split
  · refine ⟨_, _, rfl, ?_, ?_⟩
    · rw [toNat_ofNat_of_lt (by omega)]
      omega
    · simp only [List.mem_cons, List.not_mem_nil, or_false]
      rintro d rfl
      rw [toNat_ofNat_of_lt (by omega)]
      omega
  split
  · refine ⟨_, _, rfl, ?_, ?_⟩
    · rw [toNat_ofNat_of_lt (by omega)]
      omega
    · simp only [List.mem_cons, List.not_mem_nil, or_false]
      rintro d (rfl | rfl)
      all_goals
        rw [toNat_ofNat_of_lt (by omega)]
        omega
  · refine ⟨_, _, rfl, ?_, ?_⟩
    · rw [toNat_ofNat_of_lt (by omega)]
      omega
    · simp only [List.mem_cons, List.not_mem_nil, or_false]
      rintro d (rfl | rfl | rfl)
      all_goals
        rw [toNat_ofNat_of_lt (by omega)]
        omega

/-- A text begins with a character. -/
theorem isBoundary_zero (l : List Char) : isBoundary (l.flatMap String.utf8EncodeChar) 0 = true := by
  rcases l with _ | ⟨c, l⟩
  · rfl
  · rcases utf8EncodeChar_bytes c with ⟨b, hb, hlow⟩ | ⟨b, rest, hb, hhigh, -⟩
    · simp [isBoundary, hb, hlow]
    · simp [isBoundary, hb, hhigh]

/-- The places behind a part of the bytes. -/
theorem isBoundary_append (front back : List UInt8) (i : ℕ) :
    isBoundary (front ++ back) (front.length + i) = isBoundary back i := by
  simp [isBoundary, List.getElem?_append_right]

/-- **Behind an ASCII character, a text may be cut.** -/
theorem isBoundary_succ {s : String} {i : ℕ} {b : UInt8} (hb : (utf8Bytes s)[i]? = some b)
    (hascii : b.toNat < 0x80) : isBoundary (utf8Bytes s) (i + 1) = true := by
  rw [utf8Bytes_eq] at hb ⊢
  generalize s.toList = l at hb
  induction l generalizing i with
  | nil => simp at hb
  | cons c l ih =>
      rw [List.flatMap_cons] at hb ⊢
      by_cases hi : i < (String.utf8EncodeChar c).length
      · rw [List.getElem?_append_left hi] at hb
        rcases utf8EncodeChar_bytes c with ⟨b', hone, -⟩ | ⟨b', rest, hmany, hhigh, hrest⟩
        · have hend : i + 1 = (String.utf8EncodeChar c).length + 0 := by
            rw [hone, List.length_singleton] at hi ⊢
            omega
          rw [hend, isBoundary_append]
          exact isBoundary_zero l
        · have hmem : b ∈ b' :: rest := by
            rw [← hmany]
            exact List.mem_of_getElem? hb
          rcases List.mem_cons.mp hmem with rfl | hmem
          · omega
          · have := hrest b hmem
            omega
      · obtain ⟨k, rfl⟩ := Nat.exists_eq_add_of_le (Nat.le_of_not_lt hi)
        rw [List.getElem?_append_right (by omega), Nat.add_sub_cancel_left] at hb
        rw [Nat.add_assoc, isBoundary_append]
        exact ih hb

/-- The place of an ASCII character may be cut at. -/
theorem isBoundary_of_ascii {bytes : List UInt8} {i : ℕ} {b : UInt8} (hb : bytes[i]? = some b)
    (hascii : b.toNat < 0x80) : isBoundary bytes i = true := by
  have hlt : i < bytes.length := by
    by_contra hge
    rw [List.getElem?_eq_none (by omega)] at hb
    simp at hb
  simp [isBoundary, hb, hascii, hlt.le]

/-- The panics of a slice. -/
inductive SliceError where
  | outOfBounds
  | notBoundary
deriving DecidableEq, Repr

/-- `&s[from..to]`, on the bytes of a text. -/
def slice (bytes : List UInt8) (i j : ℕ) : Except SliceError (List UInt8) :=
  if ¬ (i ≤ j ∧ j ≤ bytes.length) then .error .outOfBounds
  else if isBoundary bytes i = true ∧ isBoundary bytes j = true then .ok ((bytes.take j).drop i)
  else .error .notBoundary

theorem slice_ok {bytes : List UInt8} {i j : ℕ} (hle : i ≤ j) (hi : isBoundary bytes i = true)
    (hj : isBoundary bytes j = true) : slice bytes i j = .ok ((bytes.take j).drop i) := by
  have hlength : j ≤ bytes.length := by
    simp only [isBoundary, Bool.and_eq_true, decide_eq_true_eq] at hj
    exact hj.1
  rw [slice, if_neg (by simp [hle, hlength]), if_pos ⟨hi, hj⟩]

end SsoGateway.Lib
