import SsoGateway.Lib.Url

/-!
# The text of a URL

A URL is written down and read again, as far as its query is concerned.

* `textPairs` — the pairs of the query of a text.
* `Url.text`, `textPairs_text` — the query of a URL is that of its text.
* `UrlLibrary` — parsing, changing the query and writing down, with what a reader finds afterwards;
  `UrlLibrary.http` is the one for `http` and `https`.

Nothing here is about a particular service.
-/

namespace SsoGateway.Lib

/-! ## The query of a text -/

/-- The query of a text that is read as a URL. -/
def textQuery (s : String) : Option (List Char) :=
  queryText ((cleanUrl s.toList).dropWhile fun c => endsPath c = false)

/-- The pairs of the query of a text. -/
def textPairs (s : String) : List (String × String) :=
  ((textQuery s).map fun q => formPairs (String.ofList q)).getD []

/-- A URL has the pairs of the text it was read from. -/
theorem queryPairs_of_parse {hosts : String → Option String} {s : String} {u : Url}
    (hu : Url.parse hosts s = some u) : u.queryPairs = textPairs s := by
  rw [Url.parse, Option.map_eq_some_iff] at hu
  obtain ⟨head, -, rfl⟩ := hu
  simp only [Url.queryPairs, textPairs, textQuery, Option.map_map]
  congr 2
  funext q
  exact queryEscape_querySet.formPairs_flatMap q

/-! ## Writing down -/

/-- The text before a path. -/
def Origin.text (o : Origin) : List Char :=
  o.scheme.toList ++ [':', '/', '/'] ++ o.host.toList ++ (o.port.map fun n => ':' :: (toString n).toList).getD []

/-- `url::Url::to_string`, without userinfo. -/
def Url.text (u : Url) : String :=
  String.ofList (u.origin.text ++ u.path.toList ++ (u.query.map fun q => '?' :: q.toList).getD [] ++
    (u.fragment.map fun f => '#' :: f.toList).getD [])

/-- The characters that neither separate nor are cleaned away. -/
def isQuiet (c : Char) : Bool := isC0OrSpace c = false && endsPath c = false

theorem isQuiet_iff {c : Char} : isQuiet c = true ↔ isC0OrSpace c = false ∧ endsPath c = false := by
  simp [isQuiet]

theorem toNat_ne_of_ne_space {c : Char} (hc : c ≠ ' ') : c.toNat ≠ 32 := by
  intro h
  apply hc
  rw [← Char.ofNat_toNat c, h]

theorem isQuiet_of_alphanum {c : Char} (hc : c.isAlphanum = true) : isQuiet c = true := by
  have hplain : isFormChar c = true := by simp [isFormChar, isPlain, hc]
  obtain ⟨-, hspace, hsharp, hquestion⟩ := isFormChar_spec hplain
  rw [isQuiet_iff]
  exact ⟨hspace, by simp [endsPath, hsharp, hquestion]⟩

theorem isQuiet_percentEncodeChar {c d : Char} (hd : d ∈ percentEncodeChar c) : isQuiet d = true := by
  rcases mem_percentEncodeChar hd with rfl | ⟨n, rfl⟩
  · decide
  · exact isQuiet_of_alphanum (upperHexDigit_isAlphanum n)

/-- What is escaped by the set of a path says nothing to a reader of URLs. -/
theorem isQuiet_escape_pathSet {c d : Char} (hd : d ∈ escape pathSet c) : isQuiet d = true := by
  unfold escape at hd
  split at hd
  · exact isQuiet_percentEncodeChar hd
  · rename_i hset
    obtain rfl : d = c := by simpa using hd
    simp only [pathSet, isControl, Bool.or_eq_true, decide_eq_true_eq, List.mem_cons, not_or] at hset
    obtain ⟨⟨hcontrol, -⟩, hspace, -, hsharp, -, -, hquestion, -⟩ := hset
    have hne := toNat_ne_of_ne_space hspace
    rw [isQuiet_iff]
    simp only [isC0OrSpace, endsPath, hsharp, hquestion, decide_false, Bool.or_false, and_true,
      decide_eq_false_iff_not]
    omega

theorem isC0OrSpace_escape_fragmentSet {c d : Char} (hd : d ∈ escape fragmentSet c) :
    isC0OrSpace d = false := by
  unfold escape at hd
  split at hd
  · exact (isQuiet_iff.mp (isQuiet_percentEncodeChar hd)).1
  · rename_i hset
    obtain rfl : d = c := by simpa using hd
    simp only [fragmentSet, isControl, Bool.or_eq_true, decide_eq_true_eq, List.mem_cons, not_or] at hset
    obtain ⟨⟨hcontrol, -⟩, hspace, -⟩ := hset
    have hne := toNat_ne_of_ne_space hspace
    simp only [isC0OrSpace, decide_eq_false_iff_not]
    omega

/-- Segments stay quiet while they are resolved. -/
theorem isQuiet_resolveSegments {acc : List (List Char)} (segs : List (List Char))
    (hacc : ∀ seg ∈ acc, ∀ c ∈ seg, isQuiet c = true) :
    ∀ seg ∈ resolveSegments acc segs, ∀ c ∈ seg, isQuiet c = true := by
  induction segs generalizing acc with
  | nil => exact hacc
  | cons seg rest ih =>
      have htrailing : ∀ s ∈ (if rest = [] then [[]] else [] : List (List Char)),
          ∀ c ∈ s, isQuiet c = true := by
        intro s hs c hc
        split at hs
        · obtain rfl : s = [] := by simpa using hs
          simp at hc
        · simp at hs
      have hjoin : ∀ front : List (List Char), (∀ s ∈ front, ∀ c ∈ s, isQuiet c = true) →
          ∀ back : List (List Char), (∀ s ∈ back, ∀ c ∈ s, isQuiet c = true) →
          ∀ s ∈ front ++ back, ∀ c ∈ s, isQuiet c = true := by
        intro front hfront back hback s hs
        rcases List.mem_append.mp hs with hs | hs
        · exact hfront s hs
        · exact hback s hs
      unfold resolveSegments
      dsimp only
      split
      · apply ih
        apply hjoin _ _ _ htrailing
        intro s hs
        exact hacc s (List.dropLast_subset acc hs)
      · split
        · exact ih (hjoin acc hacc _ htrailing)
        · apply ih
          apply hjoin acc hacc
          intro s hs c hc
          obtain rfl : s = seg.flatMap (escape pathSet) := by simpa using hs
          obtain ⟨d, -, hd⟩ := List.mem_flatMap.mp hc
          exact isQuiet_escape_pathSet hd

theorem isQuiet_parsePath {l : List Char} {c : Char} (hc : c ∈ parsePath l) : isQuiet c = true := by
  have hsegs : ∀ seg ∈ resolveSegments [] ((l.drop 1).splitOnP isSlash), ∀ c ∈ seg, isQuiet c = true :=
    isQuiet_resolveSegments _ (by simp)
  rcases List.mem_cons.mp hc with rfl | hc
  · decide
  · generalize resolveSegments [] ((l.drop 1).splitOnP isSlash) = segs at hc hsegs
    induction segs with
    | nil => simp at hc
    | cons seg segs ih =>
        rcases segs with _ | ⟨seg', segs⟩
        · exact hsegs seg List.mem_cons_self c (by simpa using hc)
        · rw [List.intercalate_cons_cons, List.mem_append, List.mem_append] at hc
          rcases hc with (hc | hc) | hc
          · exact hsegs seg List.mem_cons_self c hc
          · obtain rfl : c = '/' := by simpa using hc
            decide
          · exact ih hc fun s hs => hsegs s (List.mem_cons_of_mem seg hs)

/-! ## Hosts without separators -/

/-- What a host is, where no host has a separator or white space in it. -/
structure HostNames where
  /-- The host of a text, if it has one. -/
  read : String → Option String
  quiet : ∀ text host, read text = some host → ∀ c ∈ host.toList, isQuiet c = true

/-- The hosts of letters, digits, dots and hyphens. -/
def readAsciiName (text : String) : Option String :=
  if text.toList.all fun c => c.isAlphanum || c = '.' || c = '-' then
    some (String.ofList (text.toList.map Char.toLower))
  else none

theorem isQuiet_toLower {c : Char} (hc : (c.isAlphanum || c = '.' || c = '-') = true) :
    isQuiet c.toLower = true := by
  have hplain : isFormChar c = true := by
    simp only [Bool.or_eq_true, decide_eq_true_eq] at hc
    rcases hc with (hc | rfl) | rfl
    · simp [isFormChar, isPlain, hc]
    · decide
    · decide
  have hall : ∀ n < 128, ((Char.ofNat n).isAlphanum || Char.ofNat n = '.' || Char.ofNat n = '-') = true →
      isQuiet (Char.ofNat n).toLower = true := by
    decide
  have hchar := hall c.toNat (isFormChar_ascii hplain)
  rw [Char.ofNat_toNat] at hchar
  exact hchar hc

/-- Hosts of plain names. -/
def HostNames.ascii : HostNames where
  read := readAsciiName
  quiet := by
    intro text host h c hc
    unfold readAsciiName at h
    split at h
    · rename_i hall
      rw [List.all_eq_true] at hall
      rw [← Option.some.inj h, String.toList_ofList] at hc
      obtain ⟨d, hd, rfl⟩ := List.mem_map.mp hc
      exact isQuiet_toLower (hall d hd)
    · simp at h

variable {names : HostNames} {s : String} {u : Url}

/-- The text of an origin that was read from a URL. -/
theorem isQuiet_origin (hu : Url.parse names.read s = some u) {c : Char} (hc : c ∈ u.origin.text) :
    isQuiet c = true := by
  rw [Url.parse, Option.map_eq_some_iff] at hu
  obtain ⟨head, hhead, rfl⟩ := hu
  rw [parseHead, Option.bind_eq_some_iff] at hhead
  obtain ⟨⟨scheme, rest⟩, hscheme, hhead⟩ := hhead
  obtain ⟨origin, horigin, rfl⟩ := Option.map_eq_some_iff.mp hhead
  have hscheme' : scheme = "http" ∨ scheme = "https" := by
    unfold splitScheme at hscheme
    dsimp only at hscheme
    split at hscheme
    · rename_i h
      have hpair : _ = scheme := congrArg Prod.fst (Option.some.inj hscheme)
      rw [← hpair]
      exact h.2
    · simp at hscheme
  unfold parseAuthority at horigin
  dsimp only at horigin
  split at horigin
  · simp at horigin
  · obtain ⟨host, hhost, horigin⟩ := Option.bind_eq_some_iff.mp horigin
    obtain ⟨port, -, rfl⟩ := Option.map_eq_some_iff.mp horigin
    simp only [Origin.text, List.mem_append] at hc
    rcases hc with ((hc | hc) | hc) | hc
    · rcases hscheme' with rfl | rfl
      · exact List.all_eq_true.mp (by decide : "http".toList.all isQuiet = true) c hc
      · exact List.all_eq_true.mp (by decide : "https".toList.all isQuiet = true) c hc
    · exact List.all_eq_true.mp (by decide : [':', '/', '/'].all isQuiet = true) c hc
    · exact names.quiet _ host hhost c hc
    · rcases port with _ | n
      · simp at hc
      · rcases List.mem_cons.mp hc with rfl | hc
        · decide
        · have hdigit : c ∈ Nat.toDigits 10 n := by simpa [toString] using hc
          apply isQuiet_of_alphanum
          simp [Char.isAlphanum, Nat.isDigit_of_mem_toDigits (by omega) (by omega) hdigit]

/-- The text before the query of a URL that was read. -/
theorem isQuiet_head (hu : Url.parse names.read s = some u) {c : Char}
    (hc : c ∈ u.origin.text ++ u.path.toList) : isQuiet c = true := by
  rcases List.mem_append.mp hc with hc | hc
  · exact isQuiet_origin hu hc
  · rw [Url.parse, Option.map_eq_some_iff] at hu
    obtain ⟨head, hhead, rfl⟩ := hu
    rw [parseHead, Option.bind_eq_some_iff] at hhead
    obtain ⟨r, -, hhead⟩ := hhead
    obtain ⟨origin, -, rfl⟩ := Option.map_eq_some_iff.mp hhead
    exact isQuiet_parsePath (by simpa using hc)

theorem isC0OrSpace_fragment (hu : Url.parse names.read s = some u) {f : String} (hf : u.fragment = some f)
    {c : Char} (hc : c ∈ f.toList) : isC0OrSpace c = false := by
  rw [Url.parse, Option.map_eq_some_iff] at hu
  obtain ⟨head, -, rfl⟩ := hu
  obtain ⟨text, -, rfl⟩ := Option.map_eq_some_iff.mp hf
  rw [String.toList_ofList] at hc
  obtain ⟨d, -, hd⟩ := List.mem_flatMap.mp hc
  exact isC0OrSpace_escape_fragmentSet hd

/-- **The pairs a URL is given** are those of its text. -/
theorem textPairs_text (hu : Url.parse names.read s = some u) (pairs : List (String × String)) :
    textPairs ({ u with query := some (formSerialize pairs) } : Url).text = pairs := by
  have hform : ∀ c ∈ formText formEncodeChar pairs, isFormChar c = true := fun c hc =>
    formEncoding_formEncodeChar.isFormChar_of_mem hc
  have hsharp : '#' ∉ formText formEncodeChar pairs := fun h => (isFormChar_spec (hform '#' h)).2.2.1 rfl
  -- nothing of the text is cleaned away, and its first separator is the question mark
  have htext : ∃ tail, (tail = [] ∨ ∃ rest, tail = '#' :: rest) ∧
      cleanUrl ({ u with query := some (formSerialize pairs) } : Url).text.toList =
        (u.origin.text ++ u.path.toList) ++ '?' :: (formText formEncodeChar pairs ++ tail) := by
    refine ⟨(u.fragment.map fun f => '#' :: f.toList).getD [], ?_, ?_⟩
    · rcases u.fragment with _ | f
      · exact .inl rfl
      · exact .inr ⟨f.toList, rfl⟩
    · have heq : ({ u with query := some (formSerialize pairs) } : Url).text.toList =
          [] ++ ((u.origin.text ++ u.path.toList) ++ '?' :: (formText formEncodeChar pairs ++
            (u.fragment.map fun f => '#' :: f.toList).getD [])) := by
        simp [Url.text, formSerialize]
      rw [heq, cleanUrl_append]
      · rfl
      · intro c hc
        rcases List.mem_append.mp hc with hc | hc
        · exact (isQuiet_iff.mp (isQuiet_head hu hc)).1
        rcases List.mem_cons.mp hc with rfl | hc
        · decide
        rcases List.mem_append.mp hc with hc | hc
        · exact (isFormChar_spec (hform c hc)).2.1
        · rcases hf : u.fragment with _ | f
          · simp [hf] at hc
          · rw [hf] at hc
            rcases List.mem_cons.mp hc with rfl | hc
            · decide
            · exact isC0OrSpace_fragment hu hf hc
      · simp
  obtain ⟨tail, htail, hclean⟩ := htext
  have hkeep : ∀ c ∈ u.origin.text ++ u.path.toList, (decide (endsPath c = false)) = true := by
    intro c hc
    simp [(isQuiet_iff.mp (isQuiet_head hu hc)).2]
  have hquery : queryText ('?' :: (formText formEncodeChar pairs ++ tail)) =
      some (formText formEncodeChar pairs) := by
    have hall : ∀ c ∈ formText formEncodeChar pairs, (decide (c ≠ '#')) = true := by
      intro c hc
      simp only [decide_eq_true_eq]
      rintro rfl
      exact hsharp hc
    simp only [queryText, List.takeWhile_append_of_pos hall]
    rcases htail with rfl | ⟨rest, rfl⟩ <;> simp
  have hdrop : ('?' :: (formText formEncodeChar pairs ++ tail)).dropWhile
      (fun c => decide (endsPath c = false)) = '?' :: (formText formEncodeChar pairs ++ tail) := by
    simp [endsPath]
  rw [textPairs, textQuery, hclean, List.dropWhile_append_of_pos hkeep, hdrop, hquery]
  exact formPairs_formSerialize pairs

/-! ## A library of URLs -/

/-- Parsing, changing the query, and writing down. -/
structure UrlLibrary where
  /-- `url::Url`. -/
  Parsed : Type
  /-- `Url::parse`. -/
  parse : String → Option Parsed
  /-- `Url::query_pairs`. -/
  queryPairs : Parsed → List (String × String)
  /-- `Url::set_query(None)`, and then `query_pairs_mut().extend_pairs`. -/
  replacePairs : Parsed → List (String × String) → Parsed
  /-- `Url::to_string`. -/
  text : Parsed → String
  /-- The pairs of a URL are those of the text. -/
  pairs_of_parse : ∀ s u, parse s = some u → queryPairs u = textPairs s
  /-- The pairs that were put into a URL are those of its text. -/
  pairs_of_text : ∀ s u pairs, parse s = some u → textPairs (text (replacePairs u pairs)) = pairs

/-- The library for `http` and `https`. -/
def UrlLibrary.http (names : HostNames) : UrlLibrary where
  Parsed := Url
  parse := Url.parse names.read
  queryPairs := Url.queryPairs
  replacePairs u pairs := { u with query := some (formSerialize pairs) }
  text := Url.text
  pairs_of_parse _ _ := queryPairs_of_parse
  pairs_of_text _ _ pairs hu := textPairs_text hu pairs

end SsoGateway.Lib
