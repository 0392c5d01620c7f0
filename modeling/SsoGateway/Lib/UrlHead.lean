import SsoGateway.Lib.Text
import SsoGateway.Lib.Url

/-!
# The beginning of a URL

Scheme and authority decide the origin of a URL; what is before the first question mark or number sign
decides its path.

* `originOf` — the origin of a text; `parse_origin`.
* `origin_append` — what may follow a base without leaving its origin.
* `parse_head` — a query and a fragment change neither origin nor path.

Nothing here is about a particular service.
-/

namespace SsoGateway.Lib

variable {hosts : String → Option String}

/-! ## Origins -/

/-- The origin of a cleaned text. -/
def originOf (hosts : String → Option String) (l : List Char) : Option Origin :=
  (parseHead hosts (l.takeWhile fun c => endsPath c = false)).map (·.1)

theorem parse_origin (hosts : String → Option String) (s : String) :
    (Url.parse hosts s).map (·.origin) = originOf hosts (cleanUrl s.toList) := by
  simp only [Url.parse, originOf, Option.map_map]
  rfl

/-- Nothing follows, or a separator does. -/
def Separated (l : List Char) : Prop := ∀ c rest, l = c :: rest → isSlash c = true ∨ endsPath c = true

theorem takeWhile_append_of_stop {p : Char → Bool} {x rest : List Char}
    (hrest : ∀ c r, rest = c :: r → p c = false) : (x ++ rest).takeWhile p = x.takeWhile p := by
  have hstop : rest.takeWhile p = [] := by
    rcases rest with _ | ⟨c, r⟩
    · rfl
    · simp [hrest c r rfl]
  induction x with
  | nil => simpa using hstop
  | cons c x ih => simp only [List.cons_append, List.takeWhile_cons, ih]

/-- The scheme is read up to the first colon. -/
theorem splitScheme_eq_some {l : List Char} {scheme : String} {after : List Char} :
    splitScheme l = some (scheme, after) ↔ ∃ name, l = name ++ ':' :: after ∧ ':' ∉ name ∧
      scheme = String.ofList (name.map Char.toLower) ∧ (scheme = "http" ∨ scheme = "https") := by
  unfold splitScheme
  dsimp only
  constructor
  · intro h
    split at h
    swap
    · simp at h
    rename_i hcond
    obtain ⟨hcolon, hname⟩ := hcond
    obtain ⟨rfl, rfl⟩ := Prod.mk.inj (Option.some.inj h)
    refine ⟨l.takeWhile (· ≠ ':'), ?_, fun hmem => by simpa using List.mem_takeWhile_imp hmem, rfl, hname⟩
    have hdrop : l.dropWhile (· ≠ ':') = ':' :: (l.dropWhile (· ≠ ':')).drop 1 := by
      rcases hd : l.dropWhile (· ≠ ':') with _ | ⟨c, t⟩
      · rw [List.dropWhile_eq_nil_iff] at hd
        simpa using hd ':' hcolon
      · have hhead := List.head?_dropWhile_not (· ≠ ':') l
        rw [hd] at hhead
        obtain rfl : c = ':' := by simpa using hhead
        rfl
    rw [← hdrop, List.takeWhile_append_dropWhile]
  · rintro ⟨name, rfl, hname, rfl, hscheme⟩
    have hkeep : ∀ c ∈ name, (decide (c ≠ ':')) = true := by
      intro c hc
      simp only [decide_eq_true_eq]
      rintro rfl
      exact hname hc
    have htake : (name ++ ':' :: after).takeWhile (· ≠ ':') = name := by
      rw [List.takeWhile_append_of_pos hkeep]
      simp
    have hdrop : (name ++ ':' :: after).dropWhile (· ≠ ':') = ':' :: after := by
      rw [List.dropWhile_append_of_pos hkeep]
      simp
    rw [htake, hdrop, if_pos ⟨by simp, hscheme⟩]
    rfl

/-- Behind the slashes of a text, where they are not all of it. -/
theorem dropWhile_append_of_ne_nil {p : Char → Bool} {x rest : List Char} (hne : x.dropWhile p ≠ []) :
    (x ++ rest).dropWhile p = x.dropWhile p ++ rest := by
  rw [List.dropWhile_append, if_neg (by simpa using hne)]

/-- What a slash begins changes no authority before it. -/
theorem parseHead_append {l rest : List Char} {r : Origin × List Char}
    (hrest : ∀ c t, rest = c :: t → isSlash c = true) (h : parseHead hosts l = some r) :
    ∃ path, parseHead hosts (l ++ rest) = some (r.1, path) := by
  rw [parseHead, Option.bind_eq_some_iff] at h
  obtain ⟨⟨scheme, after⟩, hscheme, h⟩ := h
  obtain ⟨origin, horigin, rfl⟩ := Option.map_eq_some_iff.mp h
  obtain ⟨name, rfl, hname, hlower, hhttp⟩ := splitScheme_eq_some.mp hscheme
  have hscheme' : splitScheme (name ++ ':' :: after ++ rest) = some (scheme, after ++ rest) :=
    splitScheme_eq_some.mpr ⟨name, by simp, hname, hlower, hhttp⟩
  have hne : after.dropWhile isSlash ≠ [] := by
    intro hnil
    dsimp only at horigin
    rw [hnil] at horigin
    simp [parseAuthority, splitHost] at horigin
  have hauthority : ((after ++ rest).dropWhile isSlash).takeWhile (fun c => isSlash c = false) =
      (after.dropWhile isSlash).takeWhile fun c => isSlash c = false := by
    rw [dropWhile_append_of_ne_nil hne, takeWhile_append_of_stop]
    intro c t hct
    simp [hrest c t hct]
  rw [parseHead, hscheme', Option.bind_some]
  dsimp only at horigin ⊢
  rw [hauthority, horigin, Option.map_some]
  exact ⟨_, rfl⟩

/-- Slashes at the end of a text are no part of its origin. -/
theorem parseHead_of_append_slashes {l slashes : List Char} {r : Origin × List Char}
    (hslashes : ∀ c ∈ slashes, isSlash c = true) (h : parseHead hosts (l ++ slashes) = some r) :
    ∃ path, parseHead hosts l = some (r.1, path) := by
  rw [parseHead, Option.bind_eq_some_iff] at h
  obtain ⟨⟨scheme, after⟩, hscheme, h⟩ := h
  obtain ⟨origin, horigin, rfl⟩ := Option.map_eq_some_iff.mp h
  obtain ⟨name, hl, hname, hlower, hhttp⟩ := splitScheme_eq_some.mp hscheme
  -- the colon is not among the slashes
  obtain ⟨x, rfl, rfl⟩ : ∃ x, l = name ++ ':' :: x ∧ after = x ++ slashes := by
    have hlast : ∀ y c, name ++ [':'] = y ++ [c] → c ∉ slashes := by
      intro y c hc hmem
      obtain ⟨-, hc⟩ := List.append_inj' hc rfl
      obtain rfl : ':' = c := by simpa using hc
      exact absurd (hslashes _ hmem) (by decide)
    have hl' : (name ++ [':']) ++ after = l ++ slashes := by simp [hl]
    obtain ⟨x, hx, hafter⟩ := append_eq_append_of_last hl' hlast
    exact ⟨x, by simp [hx], hafter⟩
  have hne : x.dropWhile isSlash ≠ [] := by
    intro hnil
    have hall : (x ++ slashes).dropWhile isSlash = [] := by
      rw [List.dropWhile_eq_nil_iff] at hnil ⊢
      intro c hc
      rcases List.mem_append.mp hc with hc | hc
      · exact hnil c hc
      · exact hslashes c hc
    dsimp only at horigin
    rw [hall] at horigin
    simp [parseAuthority, splitHost] at horigin
  have hauthority : ((x ++ slashes).dropWhile isSlash).takeWhile (fun c => isSlash c = false) =
      (x.dropWhile isSlash).takeWhile fun c => isSlash c = false := by
    rw [dropWhile_append_of_ne_nil hne, takeWhile_append_of_stop]
    intro c t hct
    simp [hslashes c (by simp [hct])]
  have hscheme' : splitScheme (name ++ ':' :: x) = some (scheme, x) :=
    splitScheme_eq_some.mpr ⟨name, rfl, hname, hlower, hhttp⟩
  rw [parseHead, hscheme', Option.bind_some]
  dsimp only at horigin ⊢
  rw [← hauthority, horigin, Option.map_some]
  exact ⟨_, rfl⟩

/-- What may follow the text of an origin. -/
theorem originOf_append {l rest : List Char} {o : Origin} (hrest : Separated rest)
    (h : originOf hosts l = some o) : originOf hosts (l ++ rest) = some o := by
  obtain ⟨r, hr, rfl⟩ := Option.map_eq_some_iff.mp h
  rw [originOf, List.takeWhile_append]
  split
  · rename_i hall
    have hself := (List.takeWhile_prefix (fun c => decide (endsPath c = false)) (l := l)).eq_of_length hall
    rw [hself] at hr
    have hslash : ∀ c t, rest.takeWhile (fun c => endsPath c = false) = c :: t → isSlash c = true := by
      intro c t hct
      rcases rest with _ | ⟨d, rest⟩
      · simp at hct
      · rw [List.takeWhile_cons] at hct
        split at hct
        · rename_i hkeep
          obtain ⟨rfl, -⟩ := List.cons.inj hct
          have hsep := hrest d rest rfl
          simp only [decide_eq_true_eq] at hkeep
          simpa [hkeep] using hsep
        · simp at hct
    obtain ⟨path, hpath⟩ := parseHead_append hslash hr
    rw [hpath]
    rfl
  · rw [hr]
    rfl

/-- Slashes at the end of a text are no part of its origin. -/
theorem originOf_of_append_slashes {l slashes : List Char} {o : Origin}
    (hslashes : ∀ c ∈ slashes, isSlash c = true) (h : originOf hosts (l ++ slashes) = some o) :
    originOf hosts l = some o := by
  obtain ⟨r, hr, rfl⟩ := Option.map_eq_some_iff.mp h
  rw [List.takeWhile_append] at hr
  split at hr
  · rename_i hall
    have hself := (List.takeWhile_prefix (fun c => decide (endsPath c = false)) (l := l)).eq_of_length hall
    have hsub : ∀ c ∈ slashes.takeWhile (fun c => endsPath c = false), isSlash c = true := fun c hc =>
      hslashes c ((List.takeWhile_prefix _).subset hc)
    obtain ⟨path, hpath⟩ := parseHead_of_append_slashes hsub hr
    rw [originOf, hself, hpath]
    rfl
  · rw [originOf, hr]
    rfl

/-! ## Bases -/

theorem trimEndMatches_append (s : String) (c : Char) :
    ∃ trimmed, s.toList = (trimEndMatches s c).toList ++ trimmed ∧ ∀ d ∈ trimmed, d = c := by
  refine ⟨s.toList.rtakeWhile (· = c), ?_, fun d hd => ?_⟩
  · rw [trimEndMatches, String.toList_ofList, List.rdropWhile_append_rtakeWhile]
  · simpa using List.mem_rtakeWhile_imp hd

theorem rdropWhile_append_cons {p : Char → Bool} {c : Char} (hc : p c = false) (l l' : List Char) :
    (l ++ c :: l').rdropWhile p = l ++ c :: l'.rdropWhile p := by
  induction l' using List.reverseRecOn with
  | nil =>
      rw [List.rdropWhile_concat, if_neg (by simp [hc])]
      rfl
  | append_singleton l' d ih =>
      rw [← List.cons_append, ← List.append_assoc, List.rdropWhile_concat, List.rdropWhile_concat]
      split
      · exact ih
      · simp

/-- What stands before a character that is no white space is cleaned at its beginning only. -/
theorem cleanUrl_append_cons {c : Char} (hc : isC0OrSpace c = false) (l l' : List Char) :
    cleanUrl (l ++ c :: l') = openUrl l ++ c :: withoutTabs (l'.rdropWhile isC0OrSpace) := by
  have hfront : (l ++ c :: l').dropWhile isC0OrSpace = l.dropWhile isC0OrSpace ++ c :: l' := by
    rw [List.dropWhile_append]
    split
    · rename_i hnil
      simp [List.isEmpty_iff.mp hnil, hc]
    · rfl
  have hkeep : withoutTabs (c :: l'.rdropWhile isC0OrSpace) =
      c :: withoutTabs (l'.rdropWhile isC0OrSpace) := by
    simp [withoutTabs, isTabOrNewline_of_not_c0 hc]
  rw [cleanUrl, hfront, rdropWhile_append_cons hc, withoutTabs_append, hkeep, openUrl]

/-- A text without white space at its end. -/
def EndsClean (l : List Char) : Prop := ∀ x c, l = x ++ [c] → isC0OrSpace c = false

theorem EndsClean.cleanUrl_eq {l : List Char} (h : EndsClean l) : cleanUrl l = openUrl l := by
  rcases List.eq_nil_or_concat l with rfl | ⟨x, c, rfl⟩
  · rfl
  · have hc := h x c (by simp)
    have hnil : withoutTabs [c] = [c] := by simp [withoutTabs, isTabOrNewline_of_not_c0 hc]
    have hopen : openUrl (x ++ [c]) = openUrl x ++ [c] := openUrl_append (by simp [hc])
    rw [List.concat_eq_append, cleanUrl_append_cons hc, hopen]
    rfl

/-- Something separated, behind such a text. -/
theorem EndsClean.cleanUrl_append {l rest : List Char} (h : EndsClean l) (hrest : Separated rest) :
    ∃ rest', cleanUrl (l ++ rest) = openUrl l ++ rest' ∧ Separated rest' := by
  rcases rest with _ | ⟨c, rest⟩
  · exact ⟨[], by rw [List.append_nil, h.cleanUrl_eq, List.append_nil], by simp [Separated]⟩
  · have hsep := hrest c rest rfl
    have hc : isC0OrSpace c = false := by
      rcases hsep with hc | hc
      · simp only [isSlash, Bool.or_eq_true, decide_eq_true_eq] at hc
        rcases hc with rfl | rfl <;> decide
      · simp only [endsPath, Bool.or_eq_true, decide_eq_true_eq] at hc
        rcases hc with rfl | rfl <;> decide
    refine ⟨_, cleanUrl_append_cons hc l rest, ?_⟩
    intro d t hdt
    obtain ⟨rfl, -⟩ := List.cons.inj hdt
    exact hsep

/-- **What is put behind a base** without its slashes stays on its origin, if it is separated from it. -/
theorem origin_append {base trimmed rest : List Char} {slashes : List Char} {u : Url}
    (hbase : Url.parse hosts (String.ofList base) = some u) (htrim : base = trimmed ++ slashes)
    (hslashes : ∀ c ∈ slashes, isSlash c = true) (htidy : EndsClean trimmed) (hrest : Separated rest) :
    ∃ url, Url.parse hosts (String.ofList (trimmed ++ rest)) = some url ∧ url.origin = u.origin := by
  have hsep : Separated slashes := by
    intro c t hct
    exact .inl (hslashes c (by simp [hct]))
  have horigin : originOf hosts (openUrl trimmed) = some u.origin := by
    have h := parse_origin hosts (String.ofList base)
    rw [hbase, Option.map_some, String.toList_ofList, htrim] at h
    rcases slashes with _ | ⟨c, t⟩
    · rw [List.append_nil, htidy.cleanUrl_eq] at h
      exact h.symm
    · have hall : ∀ d ∈ c :: t, isC0OrSpace d = false := by
        intro d hd
        have hslash := hslashes d hd
        simp only [isSlash, Bool.or_eq_true, decide_eq_true_eq] at hslash
        rcases hslash with rfl | rfl <;> decide
      rw [cleanUrl_append hall (by simp)] at h
      exact originOf_of_append_slashes hslashes h.symm
  obtain ⟨rest', hclean, hrest'⟩ := htidy.cleanUrl_append hrest
  have h := parse_origin hosts (String.ofList (trimmed ++ rest))
  rw [String.toList_ofList, hclean, originOf_append hrest' horigin] at h
  exact Option.map_eq_some_iff.mp h

/-! ## Queries and fragments -/

/-- **A query and a fragment** change neither origin nor path. -/
theorem parse_head {s : String} {x : List Char} {c : Char} {t : List Char} (hs : s.toList = x ++ c :: t)
    (hx : ∀ d ∈ x, endsPath d = false) (hc : endsPath c = true) :
    (Url.parse hosts s).map (fun u => (u.origin, u.path)) =
      (parseHead hosts (openUrl x)).map fun r => (r.1, String.ofList r.2) := by
  have hspace : isC0OrSpace c = false := by
    simp only [endsPath, Bool.or_eq_true, decide_eq_true_eq] at hc
    rcases hc with rfl | rfl <;> decide
  have hclean := cleanUrl_append_cons hspace x t
  rw [← hs] at hclean
  have hhead : ∀ d ∈ openUrl x, endsPath d = false := by
    intro d hd
    exact hx d ((List.dropWhile_sublist _).subset (mem_withoutTabs.mp hd).1)
  rw [parse_of_clean hclean hhead, Option.map_map]
  · rfl
  · intro d t' h
    obtain ⟨rfl, -⟩ := List.cons.inj h
    exact hc

end SsoGateway.Lib
