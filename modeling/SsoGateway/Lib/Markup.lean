import Mathlib.Data.List.Basic
import Mathlib.Data.List.Infix

/-!
# Character references and attributes

Replacing characters by references, one whole pass after another (`str::replace`), reading the references
back, and the tags and attributes that a reader of markup sees.

* `replaceEach_eq` — where no pass touches what an earlier one wrote, the passes are one.
* `References` — a table of references that can be told apart.
* `References.decodeRefs_escape` — what was escaped is read back.
* `scan_quoted` — a quoted value ends at the next quote and nowhere else.

Nothing here is about a particular service.
-/

namespace SsoGateway.Lib

/-! ## Replacing -/

/-- `str::replace`, of one character. -/
def replaceChar (s : String) (c : Char) (new : String) : String :=
  String.ofList (s.toList.flatMap fun d => if d = c then new.toList else [d])

/-- The replacements of a table, one pass after another. -/
def replaceEach (table : List (Char × String)) (s : String) : String :=
  table.foldl (fun s e => replaceChar s e.1 e.2) s

/-- What stands for a character: its entry in the table, or the character. -/
def escapeRef (table : List (Char × String)) (c : Char) : List Char :=
  ((table.lookup c).map String.toList).getD [c]

theorem escapeRef_of_none {table : List (Char × String)} {c : Char} (h : table.lookup c = none) :
    escapeRef table c = [c] := by
  simp [escapeRef, h]

theorem mem_of_lookup_ref {table : List (Char × String)} {c : Char} {ref : String}
    (h : table.lookup c = some ref) : (c, ref) ∈ table := by
  obtain ⟨before, after, rfl, -⟩ := List.lookup_eq_some_iff.mp h
  simp

/-- What stands for a character with an entry. -/
theorem escapeRef_of_some {table : List (Char × String)} {c : Char} {ref : String}
    (h : table.lookup c = some ref) : escapeRef table c = ref.toList := by
  simp [escapeRef, h]

theorem lookup_eq_none {table : List (Char × String)} {c : Char} (h : ∀ e ∈ table, e.1 ≠ c) :
    table.lookup c = none := by
  rw [List.lookup_eq_none_iff]
  intro e he
  simpa using fun hc => h e he hc.symm

/-- A text without the characters of the table is left as it is. -/
theorem flatMap_escapeRef {table : List (Char × String)} {l : List Char}
    (h : ∀ c ∈ l, ∀ e ∈ table, e.1 ≠ c) : l.flatMap (escapeRef table) = l := by
  induction l with
  | nil => rfl
  | cons c l ih =>
      have hc : escapeRef table c = [c] := escapeRef_of_none (lookup_eq_none (h c List.mem_cons_self))
      rw [List.flatMap_cons, hc, ih fun d hd => h d (List.mem_cons_of_mem c hd)]
      rfl

/-- **The passes are one**, where no character that is replaced later stands in what was written before. -/
theorem replaceEach_eq {table : List (Char × String)}
    (horder : table.Pairwise fun e e' => e'.1 ∉ e.2.toList) (s : String) :
    (replaceEach table s).toList = s.toList.flatMap (escapeRef table) := by
  induction table generalizing s with
  | nil =>
      rw [flatMap_escapeRef (by simp)]
      rfl
  | cons e table ih =>
      obtain ⟨hfirst, hrest⟩ := List.pairwise_cons.mp horder
      have hchar : ∀ c : Char, (if c = e.1 then e.2.toList else [c]).flatMap (escapeRef table) =
          escapeRef (e :: table) c := by
        intro c
        by_cases hc : c = e.1
        · subst hc
          have hkept : e.2.toList.flatMap (escapeRef table) = e.2.toList := by
            apply flatMap_escapeRef
            rintro d hd e' he' rfl
            exact hfirst e' he' hd
          have hfound : (e :: table).lookup e.1 = some e.2 := List.lookup_cons_self
          rw [if_pos rfl, hkept, escapeRef_of_some hfound]
        · have hskip : (e :: table).lookup c = table.lookup c := by
            rw [List.lookup_cons, beq_eq_false_iff_ne.mpr hc]
          simp [escapeRef, hskip, hc]
      have hpass : replaceEach (e :: table) s = replaceEach table (replaceChar s e.1 e.2) := rfl
      rw [hpass, ih hrest, replaceChar, String.toList_ofList, List.flatMap_assoc]
      simp only [hchar]

/-! ## Reading back -/

/-- The text behind `n` characters, its references read back. -/
def decodeFrom (table : List (Char × String)) : ℕ → List Char → List Char
  | _, [] => []
  | n + 1, _ :: l => decodeFrom table n l
  | 0, c :: l =>
      match table.find? fun e => e.2.toList.isPrefixOf (c :: l) with
      | some e => e.1 :: decodeFrom table (e.2.toList.length - 1) l
      | none => c :: decodeFrom table 0 l

/-- The text, its references read back. -/
def decodeRefs (table : List (Char × String)) (s : String) : String :=
  String.ofList (decodeFrom table 0 s.toList)

/-- References that can be told apart: each begins with an ampersand and holds no other character of the
table, an ampersand has one itself, and none begins another. -/
structure References (table : List (Char × String)) : Prop where
  amp : ∀ e ∈ table, e.2.toList.head? = some '&'
  clean : ∀ e ∈ table, ∀ d ∈ e.2.toList.tail, table.lookup d = none
  key : (table.lookup '&').isSome
  apart : ∀ e ∈ table, ∀ e' ∈ table, e.2.toList <+: e'.2.toList → e = e'

theorem decodeFrom_append (table : List (Char × String)) (front back : List Char) :
    decodeFrom table front.length (front ++ back) = decodeFrom table 0 back := by
  induction front with
  | nil => rfl
  | cons c front ih => rw [List.length_cons, List.cons_append, decodeFrom, ih]

namespace References

variable {table : List (Char × String)}

/-- The reference of an entry, from its ampersand on. -/
theorem exists_tail (h : References table) {e : Char × String} (he : e ∈ table) :
    ∃ name, e.2.toList = '&' :: name ∧ ∀ d ∈ name, table.lookup d = none := by
  have hhead := h.amp e he
  have hclean := h.clean e he
  generalize e.2.toList = ref at hhead hclean
  rcases ref with _ | ⟨c, name⟩
  · simp at hhead
  · obtain rfl : c = '&' := by simpa using hhead
    exact ⟨name, rfl, hclean⟩

theorem not_amp_of_none (h : References table) {c : Char} (hc : table.lookup c = none) : c ≠ '&' := by
  rintro rfl
  have hkey := h.key
  simp [hc] at hkey

/-- A character without an entry begins no reference. -/
theorem find_none (h : References table) {c : Char} (hc : table.lookup c = none) (l : List Char) :
    (table.find? fun e => e.2.toList.isPrefixOf (c :: l)) = none := by
  rw [List.find?_eq_none]
  intro e he hpre
  obtain ⟨name, href, -⟩ := h.exists_tail he
  rw [href, List.isPrefixOf_iff_prefix, List.cons_prefix_cons] at hpre
  exact h.not_amp_of_none hc hpre.1.symm

/-- A reference is found where it stands. -/
theorem find_some (h : References table) {e : Char × String} (he : e ∈ table) (l : List Char) :
    (table.find? fun e' => e'.2.toList.isPrefixOf (e.2.toList ++ l)) = some e := by
  have hself : e.2.toList.isPrefixOf (e.2.toList ++ l) = true := by simp
  have hsome : (table.find? fun e' => e'.2.toList.isPrefixOf (e.2.toList ++ l)).isSome := by
    rw [List.find?_isSome]
    exact ⟨e, he, hself⟩
  obtain ⟨e', hfound⟩ := Option.isSome_iff_exists.mp hsome
  have hpre : e'.2.toList <+: e.2.toList ++ l := List.isPrefixOf_iff_prefix.mp (by
    simpa using List.find?_some hfound)
  have hmem := List.mem_of_find?_eq_some hfound
  rw [hfound]
  rcases List.prefix_or_prefix_of_prefix hpre (List.prefix_append _ _) with hshort | hlong
  · rw [h.apart e' hmem e he hshort]
  · rw [h.apart e he e' hmem hlong]

/-- One escaped character is read back. -/
theorem decodeFrom_escapeRef (h : References table) (c : Char) (l : List Char) :
    decodeFrom table 0 (escapeRef table c ++ l) = c :: decodeFrom table 0 l := by
  rcases hc : table.lookup c with _ | ref
  · rw [escapeRef_of_none hc, List.singleton_append, decodeFrom, h.find_none hc]
  · have hmem : (c, ref) ∈ table := mem_of_lookup_ref hc
    obtain ⟨name, href, -⟩ := h.exists_tail hmem
    have hfound := h.find_some hmem l
    simp only [href, List.cons_append] at hfound
    simp only [escapeRef_of_some hc, href, List.cons_append, decodeFrom, hfound, List.length_cons,
      Nat.add_sub_cancel, decodeFrom_append]

/-- **What was escaped is read back.** -/
theorem decodeRefs_escape (h : References table) (s : String) :
    decodeRefs table (String.ofList (s.toList.flatMap (escapeRef table))) = s := by
  have hlist : ∀ l : List Char, decodeFrom table 0 (l.flatMap (escapeRef table)) = l := by
    intro l
    induction l with
    | nil => rfl
    | cons c l ih => rw [List.flatMap_cons, h.decodeFrom_escapeRef, ih]
  rw [decodeRefs, String.toList_ofList, hlist, String.ofList_toList]

/-- Of the characters of the table, only the ampersand is written. -/
theorem lookup_of_mem (h : References table) {l : List Char} {d : Char}
    (hd : d ∈ l.flatMap (escapeRef table)) : d = '&' ∨ table.lookup d = none := by
  obtain ⟨c, -, hmem⟩ := List.mem_flatMap.mp hd
  rcases hc : table.lookup c with _ | ref
  · rw [escapeRef_of_none hc, List.mem_singleton] at hmem
    exact .inr (hmem ▸ hc)
  · obtain ⟨name, href, hname⟩ := h.exists_tail (mem_of_lookup_ref hc)
    dsimp only at href
    rw [escapeRef_of_some hc, href, List.mem_cons] at hmem
    exact hmem.imp id (hname d)

/-- An ampersand that is written begins a reference. The induction is on the text; the ampersand stands in
the reference of its first character, or behind it. -/
theorem exists_of_amp (h : References table) {l x y : List Char}
    (hsplit : l.flatMap (escapeRef table) = x ++ '&' :: y) : ∃ e ∈ table, e.2.toList <+: '&' :: y := by
  induction l generalizing x with
  | nil => simp at hsplit
  | cons c l ih =>
      rw [List.flatMap_cons] at hsplit
      rcases List.append_eq_append_iff.mp hsplit with ⟨m, -, hm⟩ | ⟨m, hpiece, hm⟩
      · exact ih hm
      rcases m with _ | ⟨d, m⟩
      · have hback : l.flatMap (escapeRef table) = [] ++ '&' :: y := by simpa using hm.symm
        exact ih hback
      · obtain ⟨rfl, hy⟩ := List.cons_eq_cons.mp (hm.trans (List.cons_append ..))
        rcases hc : table.lookup c with _ | ref
        · rw [escapeRef_of_none hc] at hpiece
          have hmem : '&' ∈ [c] := by
            rw [hpiece]
            simp
          exact absurd (List.mem_singleton.mp hmem).symm (h.not_amp_of_none hc)
        · have hmem : (c, ref) ∈ table := mem_of_lookup_ref hc
          obtain ⟨name, href, hname⟩ := h.exists_tail hmem
          dsimp only at href
          rw [escapeRef_of_some hc, href] at hpiece
          rcases x with _ | ⟨x', x⟩
          · obtain ⟨-, hname'⟩ := List.cons_eq_cons.mp hpiece
            refine ⟨(c, ref), hmem, ?_⟩
            rw [href, hy, hname', List.cons_prefix_cons]
            exact ⟨rfl, List.prefix_append _ _⟩
          · obtain ⟨-, hname'⟩ := List.cons_eq_cons.mp hpiece
            refine absurd rfl (h.not_amp_of_none (hname '&' ?_))
            rw [hname']
            simp

end References

/-! ## Tags and attributes -/

/-- What a reader of markup meets. -/
inductive Markup where
  | tag (name : String)
  | attribute (name value : String)
deriving DecidableEq, Repr

/-- Where the reader is. -/
inductive ScanMode where
  | text
  | tagName (read : List Char)
  /-- Between the attributes of a tag, or in the name of one. -/
  | attributes (word : List Char)
  /-- In the value of an attribute, between quotes. -/
  | quoted (name read : List Char)
deriving DecidableEq, Repr

/-- One character: what is met with it, and where the reader is then. Values stand between double quotes;
comments and the normalisation of line ends are left out. -/
def ScanMode.step (table : List (Char × String)) : ScanMode → Char → List Markup × ScanMode
  | .text, c => ([], if c = '<' then .tagName [] else .text)
  | .tagName read, c =>
      if c = '>' then ([.tag (String.ofList read)], .text)
      else if c = ' ' ∨ c = '\n' then ([.tag (String.ofList read)], .attributes [])
      else ([], .tagName (read ++ [c]))
  | .attributes word, c =>
      if c = '>' then ([], .text)
      else if c = '"' then ([], .quoted word [])
      else if c = ' ' ∨ c = '\n' ∨ c = '/' then ([], .attributes [])
      else if c = '=' then ([], .attributes word)
      else ([], .attributes (word ++ [c]))
  | .quoted name read, c =>
      if c = '"' then
        ([.attribute (String.ofList name) (String.ofList (decodeFrom table 0 read))], .attributes [])
      else ([], .quoted name (read ++ [c]))

/-- A text, from a place on: what is met, and where the reader is at its end. -/
def scan (table : List (Char × String)) : ScanMode → List Char → List Markup × ScanMode
  | mode, [] => ([], mode)
  | mode, c :: l =>
      let r := mode.step table c
      let rest := scan table r.2 l
      (r.1 ++ rest.1, rest.2)

/-- The tags of a text with their attributes, in their order. -/
def readMarkup (table : List (Char × String)) (s : String) : List Markup := (scan table .text s.toList).1

variable {table : List (Char × String)}

theorem scan_append (mode : ScanMode) (front back : List Char) :
    scan table mode (front ++ back) =
      ((scan table mode front).1 ++ (scan table (scan table mode front).2 back).1,
        (scan table (scan table mode front).2 back).2) := by
  induction front generalizing mode with
  | nil => rfl
  | cons c front ih => simp [scan, ih]

/-- A value without quotes is read on. -/
theorem scan_value {value : List Char} (hvalue : '"' ∉ value) (name read : List Char) :
    scan table (.quoted name read) value = ([], .quoted name (read ++ value)) := by
  induction value generalizing read with
  | nil => simp [scan]
  | cons c value ih =>
      rw [List.mem_cons, not_or] at hvalue
      obtain ⟨hc, hrest⟩ := hvalue
      have hstep : ScanMode.step table (.quoted name read) c = ([], .quoted name (read ++ [c])) :=
        if_neg (Ne.symm hc)
      simp [scan, hstep, ih hrest]

/-- **A quoted value ends at the next quote**, and nowhere before. -/
theorem scan_quoted {value : List Char} (hvalue : '"' ∉ value) (name : List Char) (back : List Char) :
    scan table (.quoted name []) (value ++ '"' :: back) =
      (.attribute (String.ofList name) (String.ofList (decodeFrom table 0 value)) ::
          (scan table (.attributes []) back).1, (scan table (.attributes []) back).2) := by
  rw [scan_append, scan_value hvalue]
  simp [scan, ScanMode.step]

end SsoGateway.Lib
