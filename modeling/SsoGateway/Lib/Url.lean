import Mathlib.Data.List.DropRight
import SsoGateway.Lib.Form

/-!
# URLs

Parsing of absolute `http` and `https` URLs as the URL Standard has it (`url::Url::parse`): white space is
cleaned away, the first `?` and `#` end the path, the authority ends at a slash of either kind, dot segments
are resolved, and each part is escaped by its own set. What a host is, is a parameter. A text of another
scheme has no URL here, and userinfo is read past.

* `Url`, `Origin`, `Url.parse` — the URL of a text.
* `Url.setQuery` — `Url::set_query`.
* `parse_append_query` — a query put behind a text without one.

Nothing here is about a particular service.
-/

namespace SsoGateway.Lib

/-! ## Parts of a text -/

/-- A C0 control or a space. -/
def isC0OrSpace (c : Char) : Bool := c.toNat ≤ 32

/-- A tab or a line break. -/
def isTabOrNewline (c : Char) : Bool := c = '\t' || c = '\n' || c = '\r'

/-- A text without its tabs and line breaks. -/
def withoutTabs (l : List Char) : List Char := l.filter fun c => isTabOrNewline c = false

/-- The text that is parsed. -/
def cleanUrl (l : List Char) : List Char :=
  withoutTabs ((l.dropWhile isC0OrSpace).rdropWhile isC0OrSpace)

/-- Both slashes separate. -/
def isSlash (c : Char) : Bool := c = '/' || c = '\\'

/-- The path ends here. -/
def endsPath (c : Char) : Bool := c = '?' || c = '#'

/-! ## Escaping -/

/-- The C0 control percent-encode set. -/
def isControl (c : Char) : Bool := c.toNat < 32 || 127 ≤ c.toNat

/-- The fragment percent-encode set. -/
def fragmentSet (c : Char) : Bool := isControl c || c ∈ [' ', '"', '<', '>', '\x60']

/-- The special-query percent-encode set. -/
def querySet (c : Char) : Bool := isControl c || c ∈ [' ', '"', '#', '<', '>', '\'']

/-- The path percent-encode set. -/
def pathSet (c : Char) : Bool :=
  isControl c || c ∈ [' ', '"', '#', '<', '>', '?', '^', '\x60', '\x7b', '\x7d']

/-- A character, percent-encoded if it is in the set. -/
def escape (set : Char → Bool) (c : Char) : List Char := if set c then percentEncodeChar c else [c]

/-! ## The authority -/

/-- Scheme, host and port; the port is left out where it is the scheme's own. -/
structure Origin where
  scheme : String
  host : String
  port : Option ℕ
deriving DecidableEq, Repr

/-- The port of a scheme. -/
def defaultPort (scheme : String) : ℕ := if scheme = "https" then 443 else 80

/-- The host of an authority, up to a colon outside of brackets, and what follows it. -/
def splitHost : Bool → List Char → List Char × List Char
  | _, [] => ([], [])
  | inside, c :: rest =>
      if c = ':' ∧ inside = false then ([], c :: rest)
      else
        let r := splitHost (if c = '[' then true else if c = ']' then false else inside) rest
        (c :: r.1, r.2)

/-- The port behind a host: none, or digits after a colon. -/
def parsePort (scheme : String) : List Char → Option (Option ℕ)
  | [] => some none
  | _ :: digits =>
      if digits.all Char.isDigit then
        let port := digits.foldl (fun n d => 10 * n + (d.toNat - '0'.toNat)) 0
        if 65535 < port then none
        else if digits = [] ∨ port = defaultPort scheme then some none
        else some (some port)
      else none

/-- The origin of a scheme and an authority. -/
def parseAuthority (hosts : String → Option String) (scheme : String) (authority : List Char) :
    Option Origin :=
  let r := splitHost false (authority.rtakeWhile (· ≠ '@'))
  if r.1 = [] then none
  else
    (hosts (String.ofList r.1)).bind fun host =>
      (parsePort scheme r.2).map fun port => ⟨scheme, host, port⟩

/-! ## The path -/

/-- A segment that stays where it is. -/
def isSingleDot (seg : List Char) : Bool :=
  seg.map Char.toLower ∈ [['.'], ['%', '2', 'e']]

/-- A segment that goes up. -/
def isDoubleDot (seg : List Char) : Bool :=
  seg.map Char.toLower ∈ [['.', '.'], ['.', '%', '2', 'e'], ['%', '2', 'e', '.'],
    ['%', '2', 'e', '%', '2', 'e']]

/-- The segments of a path, resolved onto those before them. -/
def resolveSegments : List (List Char) → List (List Char) → List (List Char)
  | acc, [] => acc
  | acc, seg :: rest =>
      -- a dot segment at the end leaves an empty one
      let trailing := if rest = [] then [[]] else []
      if isDoubleDot seg then resolveSegments (acc.dropLast ++ trailing) rest
      else if isSingleDot seg then resolveSegments (acc ++ trailing) rest
      else resolveSegments (acc ++ [seg.flatMap (escape pathSet)]) rest

/-- The path of the text behind an authority. -/
def parsePath (l : List Char) : List Char :=
  '/' :: ['/'].intercalate (resolveSegments [] ((l.drop 1).splitOnP isSlash))

/-! ## URLs -/

/-- Source: `url::Url`, the parts that are read. -/
structure Url where
  origin : Origin
  path : String
  query : Option String
  fragment : Option String
deriving DecidableEq, Repr

/-- The scheme of a text, and what follows its colon. -/
def splitScheme (l : List Char) : Option (String × List Char) :=
  let scheme := String.ofList ((l.takeWhile (· ≠ ':')).map Char.toLower)
  if ':' ∈ l ∧ (scheme = "http" ∨ scheme = "https") then
    some (scheme, (l.dropWhile (· ≠ ':')).drop 1)
  else none

/-- Origin and path of the text before a query. -/
def parseHead (hosts : String → Option String) (l : List Char) : Option (Origin × List Char) :=
  (splitScheme l).bind fun r =>
    let rest := r.2.dropWhile isSlash
    (parseAuthority hosts r.1 (rest.takeWhile fun c => isSlash c = false)).map fun origin =>
      (origin, parsePath (rest.dropWhile fun c => isSlash c = false))

/-- The query of a text that begins where the path ends. -/
def queryText : List Char → Option (List Char)
  | '?' :: rest => some (rest.takeWhile (· ≠ '#'))
  | _ => none

/-- The fragment of a text that begins where the path ends. -/
def fragmentText (l : List Char) : Option (List Char) :=
  match l.dropWhile (· ≠ '#') with
  | _ :: rest => some rest
  | [] => none

/-- `url::Url::parse`, for absolute URLs of `http` and `https`. -/
def Url.parse (hosts : String → Option String) (s : String) : Option Url :=
  let l := cleanUrl s.toList
  let tail := l.dropWhile fun c => endsPath c = false
  (parseHead hosts (l.takeWhile fun c => endsPath c = false)).map fun head =>
    { origin := head.1
      path := String.ofList head.2
      query := (queryText tail).map fun q => String.ofList (q.flatMap (escape querySet))
      fragment := (fragmentText tail).map fun f => String.ofList (f.flatMap (escape fragmentSet)) }

/-- `url::Url::set_query`. -/
def Url.setQuery (url : Url) (query : Option String) : Url :=
  { url with query := query.map fun q =>
      String.ofList ((withoutTabs q.toList).flatMap (escape querySet)) }

/-- The hosts whose names are plain ASCII. -/
def asciiHosts (host : String) : Option String := some (String.ofList (host.toList.map Char.toLower))

example : Url.parse asciiHosts "HTTP:\\kratos:80/a/./b/../c d?x='#y" =
    some ⟨⟨"http", "kratos", none⟩, "/a/c%20d", some "x=%27", some "y"⟩ := by
  decide +kernel

/-! ## Cleaning -/

theorem withoutTabs_append (l l' : List Char) : withoutTabs (l ++ l') = withoutTabs l ++ withoutTabs l' := by
  simp [withoutTabs]

/-- A character that is kept where it stands. -/
theorem isTabOrNewline_of_not_c0 {c : Char} (h : isC0OrSpace c = false) : isTabOrNewline c = false := by
  simp only [isC0OrSpace, decide_eq_false_iff_not, Nat.not_le] at h
  simp only [isTabOrNewline, Bool.or_eq_false_iff, decide_eq_false_iff_not]
  refine ⟨⟨?_, ?_⟩, ?_⟩ <;> (rintro rfl; exact absurd h (by decide))

theorem withoutTabs_eq_self {l : List Char} (hl : ∀ c ∈ l, isC0OrSpace c = false) : withoutTabs l = l := by
  rw [withoutTabs, List.filter_eq_self]
  intro c hc
  simp [isTabOrNewline_of_not_c0 (hl c hc)]

theorem mem_withoutTabs {c : Char} {l : List Char} :
    c ∈ withoutTabs l ↔ c ∈ l ∧ isTabOrNewline c = false := by
  simp [withoutTabs]

/-- The text of a URL that something follows. -/
def openUrl (l : List Char) : List Char := withoutTabs (l.dropWhile isC0OrSpace)

/-- The white space at the beginning of a text that something follows. -/
theorem dropWhile_append_of_keep {l l' : List Char} (hl' : ∀ c ∈ l', isC0OrSpace c = false) :
    (l ++ l').dropWhile isC0OrSpace = l.dropWhile isC0OrSpace ++ l' := by
  have hkeep : l'.dropWhile isC0OrSpace = l' := by
    rcases l' with _ | ⟨c, l'⟩
    · rfl
    · simp [hl' c List.mem_cons_self]
  rw [List.dropWhile_append, hkeep]
  split
  · rename_i hempty
    simp [List.isEmpty_iff.mp hempty]
  · rfl

/-- What is put behind a text, where something else follows. -/
theorem openUrl_append {l l' : List Char} (hl' : ∀ c ∈ l', isC0OrSpace c = false) :
    openUrl (l ++ l') = openUrl l ++ l' := by
  rw [openUrl, dropWhile_append_of_keep hl', withoutTabs_append, withoutTabs_eq_self hl', openUrl]

/-- What is put behind a text keeps the white space before it. -/
theorem cleanUrl_append {l l' : List Char} (hl' : ∀ c ∈ l', isC0OrSpace c = false) (hne : l' ≠ []) :
    cleanUrl (l ++ l') = openUrl l ++ l' := by
  have hback : (l.dropWhile isC0OrSpace ++ l').rdropWhile isC0OrSpace = l.dropWhile isC0OrSpace ++ l' := by
    rw [List.rdropWhile_eq_self_iff]
    intro _
    rw [List.getLast_append_of_ne_nil _ hne]
    simp [hl' _ (List.getLast_mem hne)]
  rw [cleanUrl, dropWhile_append_of_keep hl', hback, withoutTabs_append, withoutTabs_eq_self hl', openUrl]

/-- Cleaning leaves what is no white space. -/
theorem mem_dropWhile_of_not {c : Char} {l : List Char} {p : Char → Bool} (hc : p c = false) :
    c ∈ l.dropWhile p ↔ c ∈ l := by
  refine ⟨fun h => (List.dropWhile_sublist p).subset h, fun h => ?_⟩
  rw [← List.takeWhile_append_dropWhile (p := p) (l := l), List.mem_append] at h
  refine h.resolve_left fun htake => ?_
  have := List.mem_takeWhile_imp htake
  simp [hc] at this

theorem mem_openUrl {c : Char} (hc : isC0OrSpace c = false) {l : List Char} : c ∈ openUrl l ↔ c ∈ l := by
  rw [openUrl, mem_withoutTabs, mem_dropWhile_of_not hc]
  simp [isTabOrNewline_of_not_c0 hc]

theorem mem_cleanUrl {c : Char} (hc : isC0OrSpace c = false) {l : List Char} :
    c ∈ cleanUrl l ↔ c ∈ l := by
  rw [cleanUrl, mem_withoutTabs, List.rdropWhile, List.mem_reverse, mem_dropWhile_of_not hc,
    List.mem_reverse, mem_dropWhile_of_not hc]
  simp [isTabOrNewline_of_not_c0 hc]

/-- A text is cleaned at its end as well as it is where something follows it. -/
theorem openUrl_eq_cleanUrl (l : List Char) :
    ∃ space, openUrl l = cleanUrl l ++ space ∧ ∀ c ∈ space, isC0OrSpace c = true := by
  refine ⟨withoutTabs ((l.dropWhile isC0OrSpace).rtakeWhile isC0OrSpace), ?_, fun c hc => ?_⟩
  · rw [openUrl, cleanUrl, ← withoutTabs_append, List.rdropWhile_append_rtakeWhile]
  · exact List.mem_rtakeWhile_imp (mem_withoutTabs.mp hc).1

/-- What a text has before another, where what is left out at its end holds none of it. -/
theorem append_eq_append_of_last {α : Type} {a b l s : List α} (h : a ++ b = l ++ s)
    (ha : ∀ x c, a = x ++ [c] → c ∉ s) : ∃ m, l = a ++ m ∧ b = m ++ s := by
  rcases List.append_eq_append_iff.mp h with ⟨m, hl, hb⟩ | ⟨m, hm, hs⟩
  · exact ⟨m, hl, hb⟩
  · rcases List.eq_nil_or_concat m with rfl | ⟨x, c, rfl⟩
    · exact ⟨[], by simpa using hm.symm, by simpa using hs.symm⟩
    · refine absurd ?_ (ha (l ++ x) c (by simpa using hm))
      simp [hs]

/-! ## Query and fragment -/

/-- The URL of a text in which the path ends before `tail`. -/
theorem parse_of_clean {hosts : String → Option String} {s : String} {head tail : List Char}
    (hclean : cleanUrl s.toList = head ++ tail) (hhead : ∀ c ∈ head, endsPath c = false)
    (htail : ∀ c rest, tail = c :: rest → endsPath c = true) :
    Url.parse hosts s = (parseHead hosts head).map fun r =>
      ⟨r.1, String.ofList r.2, (queryText tail).map fun q => String.ofList (q.flatMap (escape querySet)),
        (fragmentText tail).map fun f => String.ofList (f.flatMap (escape fragmentSet))⟩ := by
  have hkeep : ∀ c ∈ head, (decide (endsPath c = false)) = true := by
    intro c hc
    simp [hhead c hc]
  have hdrop : tail.dropWhile (fun c => decide (endsPath c = false)) = tail := by
    rcases tail with _ | ⟨c, tail⟩
    · rfl
    · simp [htail c tail rfl]
  have htake : tail.takeWhile (fun c => decide (endsPath c = false)) = [] := by
    rcases tail with _ | ⟨c, tail⟩
    · rfl
    · simp [htail c tail rfl]
  simp only [Url.parse, hclean, List.takeWhile_append_of_pos hkeep, List.dropWhile_append_of_pos hkeep,
    hdrop, htake, List.append_nil]

/-- Every text has its path end somewhere. -/
theorem exists_head_tail (l : List Char) : ∃ head tail, l = head ++ tail ∧
    (∀ c ∈ head, endsPath c = false) ∧ ∀ c rest, tail = c :: rest → endsPath c = true := by
  refine ⟨l.takeWhile fun c => endsPath c = false, l.dropWhile fun c => endsPath c = false,
    List.takeWhile_append_dropWhile.symm, fun c hc => by simpa using List.mem_takeWhile_imp hc,
    fun c rest h => ?_⟩
  have hhead := List.head?_dropWhile_not (fun c => decide (endsPath c = false)) l
  rw [h] at hhead
  simpa using hhead

theorem queryText_append {q : List Char} (hq : '#' ∉ q) : queryText ('?' :: q) = some q := by
  have hkeep : ∀ c ∈ q, (decide (c ≠ '#')) = true := by
    intro c hc
    simp only [decide_eq_true_eq]
    rintro rfl
    exact hq hc
  simp only [queryText, List.takeWhile_eq_self_iff.mpr hkeep]

theorem fragmentText_eq_none {l : List Char} : fragmentText l = none ↔ '#' ∉ l := by
  have hnil : l.dropWhile (fun c => decide (c ≠ '#')) = [] ↔ '#' ∉ l := by
    rw [List.dropWhile_eq_nil_iff]
    constructor
    · intro h hmem
      simpa using h '#' hmem
    · intro h c hc
      simp only [decide_eq_true_eq]
      rintro rfl
      exact h hc
  rw [← hnil, fragmentText]
  rcases l.dropWhile (fun c => decide (c ≠ '#')) with _ | ⟨c, rest⟩ <;> simp

/-! ## Characters of a query -/

theorem hexValue_of_not_ascii {c : Char} (hc : 128 ≤ c.toNat) : hexValue c = none := by
  have hle : ∀ d : Char, d.toNat < 128 → ¬ c ≤ d := by
    intro d hd h
    rw [Char.le_def, UInt32.le_iff_toNat_le] at h
    have hcn : c.val.toNat = c.toNat := rfl
    have hdn : d.val.toNat = d.toNat := rfl
    omega
  simp [hexValue, hle '9' (by decide), hle 'F' (by decide), hle 'f' (by decide)]

/-- The escaped characters of a query mean nothing in a form. -/
theorem queryEscape_querySet : QueryEscape (escape querySet) := by
  intro c
  unfold escape
  split
  · rename_i hset
    refine .inr ⟨rfl, ?_⟩
    by_cases hc : c.toNat < 128
    · have hall : ∀ n < 128, querySet (Char.ofNat n) = true → hexValue (Char.ofNat n) = none ∧
          Char.ofNat n ≠ '%' ∧ Char.ofNat n ≠ '+' ∧ Char.ofNat n ≠ '&' ∧ Char.ofNat n ≠ '=' := by
        decide
      have hchar := hall c.toNat hc
      rw [Char.ofNat_toNat] at hchar
      exact hchar hset
    · have hne : ∀ d : Char, d.toNat < 128 → c ≠ d := by
        rintro d hd rfl
        exact hc hd
      exact ⟨hexValue_of_not_ascii (by omega), hne _ (by decide), hne _ (by decide), hne _ (by decide),
        hne _ (by decide)⟩
  · exact .inl rfl

theorem toNat_of_isAlphanum {c : Char} (hc : c.isAlphanum = true) : c.toNat < 128 := by
  delta Char.isAlphanum Char.isAlpha Char.isUpper Char.isLower Char.isDigit at hc
  simp only [Bool.or_eq_true, Bool.and_eq_true, decide_eq_true_eq, ge_iff_le, UInt32.le_iff_toNat_le] at hc
  have hcn : c.val.toNat = c.toNat := rfl
  rcases hc with (h | h) | h
  · have := h.2
    simp at this
    omega
  · have := h.2
    simp at this
    omega
  · have := h.2
    simp at this
    omega

theorem isFormChar_ascii {c : Char} (hc : isFormChar c = true) : c.toNat < 128 := by
  simp only [isFormChar, isPlain, Bool.or_eq_true, decide_eq_true_eq, List.mem_cons, List.not_mem_nil,
    or_false] at hc
  rcases hc with (h | h) | h
  · exact toNat_of_isAlphanum h
  · rcases h with rfl | rfl | rfl | rfl | rfl <;> decide
  · rcases h with rfl | rfl | rfl | rfl <;> decide

/-- The characters of a form are left as they are in a query, and end none. -/
theorem isFormChar_spec {c : Char} (hc : isFormChar c = true) :
    querySet c = false ∧ isC0OrSpace c = false ∧ c ≠ '#' ∧ c ≠ '?' := by
  have hall : ∀ n < 128, isFormChar (Char.ofNat n) = true → querySet (Char.ofNat n) = false ∧
      isC0OrSpace (Char.ofNat n) = false ∧ Char.ofNat n ≠ '#' ∧ Char.ofNat n ≠ '?' := by
    decide
  have hchar := hall c.toNat (isFormChar_ascii hc)
  rw [Char.ofNat_toNat] at hchar
  exact hchar hc

theorem flatMap_escape {set : Char → Bool} {l : List Char} (hl : ∀ c ∈ l, set c = false) :
    l.flatMap (escape set) = l := by
  induction l with
  | nil => rfl
  | cons c l ih =>
      rw [List.flatMap_cons, ih fun d hd => hl d (List.mem_cons_of_mem c hd), escape,
        if_neg (by simp [hl c List.mem_cons_self])]
      rfl

/-! ## A query behind a text -/

/-- **A query put behind a text** without one is the query of the URL, and nothing else of the text is read
differently than where the query is empty. -/
theorem parse_append_query {hosts : String → Option String} {s : String} {x q : List Char}
    (hs : s.toList = x ++ '?' :: q) (hx : ∀ c ∈ x, endsPath c = false)
    (hq : ∀ c ∈ q, isC0OrSpace c = false ∧ c ≠ '#') :
    Url.parse hosts s = (parseHead hosts (openUrl x)).map fun r =>
      ⟨r.1, String.ofList r.2, some (String.ofList (q.flatMap (escape querySet))), none⟩ := by
  have hfragment : '#' ∉ q := fun h => (hq '#' h).2 rfl
  have hclean : cleanUrl s.toList = openUrl x ++ '?' :: q := by
    rw [hs, cleanUrl_append _ (by simp)]
    intro c hc
    rcases List.mem_cons.mp hc with rfl | hc
    · decide
    · exact (hq c hc).1
  have hhead : ∀ c ∈ openUrl x, endsPath c = false := by
    intro c hc
    exact hx c ((List.dropWhile_sublist _).subset (mem_withoutTabs.mp hc).1)
  have hnone : fragmentText ('?' :: q) = none := by
    rw [fragmentText_eq_none, List.mem_cons]
    simp [hfragment]
  rw [parse_of_clean hclean hhead (by simp [endsPath]), queryText_append hfragment, hnone]
  rfl

/-- A text with a fragment has a URL with one. -/
theorem fragment_eq_none {hosts : String → Option String} {s : String} {u : Url}
    (hu : Url.parse hosts s = some u) : u.fragment = none ↔ '#' ∉ s.toList := by
  obtain ⟨head, tail, hclean, hhead, htail⟩ := exists_head_tail (cleanUrl s.toList)
  rw [parse_of_clean hclean hhead htail, Option.map_eq_some_iff] at hu
  obtain ⟨r, -, rfl⟩ := hu
  have hmem : '#' ∉ head := fun h => by simpa [endsPath] using hhead _ h
  have hsharp : '#' ∈ s.toList ↔ '#' ∈ tail := by
    rw [← mem_cleanUrl (by decide : isC0OrSpace '#' = false), hclean, List.mem_append]
    simp [hmem]
  rw [Option.map_eq_none_iff, fragmentText_eq_none, hsharp]

/-- The pairs of a URL's query. -/
def Url.queryPairs (u : Url) : List (String × String) := (u.query.map formPairs).getD []

/-- The pairs of a query are those of the text it was read from. -/
theorem queryPairs_of_clean {hosts : String → Option String} {s : String} {u : Url} {head q : List Char}
    (hu : Url.parse hosts s = some u) (hclean : cleanUrl s.toList = head ++ '?' :: q)
    (hhead : ∀ c ∈ head, endsPath c = false) (hq : '#' ∉ q) :
    u.queryPairs = formPairs (String.ofList q) := by
  rw [parse_of_clean hclean hhead (by simp [endsPath]), Option.map_eq_some_iff] at hu
  obtain ⟨r, -, rfl⟩ := hu
  simp [Url.queryPairs, queryText_append hq, queryEscape_querySet.formPairs_flatMap]

end SsoGateway.Lib
