import SsoGateway.Lib.Text

/-!
# Paths by their segments

A path lies under another one if it is that path, or continues it after a separator. By their segments
this is the prefix order.

* `Under`, `under_iff` — the relation, and its segments.
* `Under.comparable` — two paths that a third one lies under.
* `under_append_iff`, `under_word_iff` — what a path lies under, from its last segment to its first.

Nothing here is about a particular service.
-/

namespace SsoGateway.Lib

/-- The path is the base, or continues it after a separator. -/
def Under (sep : Char) (base path : String) : Prop :=
  path = base ∨ startsWith path (base ++ String.ofList [sep]) = true

instance (sep : Char) (base path : String) : Decidable (Under sep base path) :=
  inferInstanceAs (Decidable (_ ∨ _))

/-- Two lists of pieces put together, with a separator between them. -/
theorem intercalate_append {α : Type} {c : α} {xs ys : List (List α)} (hxs : xs ≠ []) (hys : ys ≠ []) :
    [c].intercalate (xs ++ ys) = [c].intercalate xs ++ c :: [c].intercalate ys := by
  induction xs with
  | nil => simp at hxs
  | cons x xs ih =>
      by_cases hnil : xs = []
      · simp [hnil, List.intercalate_cons_of_ne_nil hys]
      · rw [List.cons_append, List.intercalate_cons_of_ne_nil (by simp [hnil]), ih hnil,
          List.intercalate_cons_of_ne_nil hnil]
        simp

section segments

variable {sep : Char} {a b base path : String}

/-- Paths with the same segments are the same. -/
theorem splitAt_injective (h : splitAt a sep = splitAt b sep) : a = b := by
  have hofList : Function.Injective String.ofList := fun l l' hl => by
    simpa using congrArg String.toList hl
  have hsplit : a.toList.splitOn sep = b.toList.splitOn sep := (List.map_injective_iff.mpr hofList) h
  have hjoin := congrArg [sep].intercalate hsplit
  simpa [String.toList_inj] using hjoin

/-- The segments of a path that continues another one. -/
theorem splitAt_append_sep (a b : String) (sep : Char) :
    splitAt (a ++ String.ofList [sep] ++ b) sep = splitAt a sep ++ splitAt b sep := by
  simp [splitAt, List.splitOn_append_cons_self]

/-- A path that lies under another one continues its segments. -/
theorem under_iff : Under sep base path ↔ splitAt base sep <+: splitAt path sep := by
  constructor
  · rintro (rfl | hstart)
    · exact List.prefix_rfl
    · obtain ⟨rest, hrest⟩ := List.isPrefixOf_iff_prefix.mp hstart
      have hpath : path = base ++ String.ofList [sep] ++ String.ofList rest := by
        rw [← String.toList_inj, ← hrest]
        simp
      rw [hpath, splitAt_append_sep]
      exact List.prefix_append _ _
  · rintro ⟨rest, hrest⟩
    by_cases hnil : rest = []
    · left
      have hsame : splitAt path sep = splitAt base sep := by simpa [hnil] using hrest.symm
      exact splitAt_injective hsame
    · right
      have hsegments : base.toList.splitOn sep ++ rest.map String.toList = path.toList.splitOn sep := by
        have h := congrArg (List.map String.toList) hrest
        simpa [splitAt, Function.comp_def] using h
      have hpath : path.toList = base.toList ++ sep :: [sep].intercalate (rest.map String.toList) := by
        have hjoin := congrArg [sep].intercalate hsegments
        rw [intercalate_append (by simp) (by simpa using hnil), List.intercalate_splitOn,
          List.intercalate_splitOn] at hjoin
        exact hjoin.symm
      simp [startsWith, hpath]

/-- Of two paths that one path lies under, one lies under the other. -/
theorem Under.comparable (ha : Under sep a path) (hb : Under sep b path) : Under sep a b ∨ Under sep b a := by
  rw [under_iff] at ha hb ⊢
  rw [under_iff]
  exact List.prefix_or_prefix_of_prefix ha hb

theorem Under.trans {mid : String} (ha : Under sep a mid) (hb : Under sep mid b) : Under sep a b := by
  rw [under_iff] at ha hb ⊢
  exact ha.trans hb

/-- A text without the separator is its only segment. -/
theorem splitAt_of_notMem (h : sep ∉ a.toList) : splitAt a sep = [a] := by
  simp [splitAt, List.splitOn_eq_singleton h]

/-- A path without the separator lies under itself only. -/
theorem under_word_iff (h : sep ∉ a.toList) : Under sep base a ↔ base = a := by
  constructor
  · intro hunder
    rw [under_iff, splitAt_of_notMem h] at hunder
    have hone : splitAt base sep = [a] := by
      rw [← List.nil_append [a], List.prefix_concat_iff] at hunder
      simpa [splitAt] using hunder
    rw [← splitAt_of_notMem h] at hone
    exact splitAt_injective hone
  · rintro rfl
    exact .inl rfl

/-- What a path with one more segment lies under. -/
theorem under_append_iff (h : sep ∉ b.toList) : Under sep base (a ++ String.ofList [sep] ++ b) ↔
    base = a ++ String.ofList [sep] ++ b ∨ Under sep base a := by
  rw [under_iff, under_iff, splitAt_append_sep, splitAt_of_notMem h, List.prefix_concat_iff,
    ← splitAt_of_notMem h, ← splitAt_append_sep]
  constructor
  · rintro (hsame | hunder)
    · exact .inl (splitAt_injective hsame)
    · exact .inr hunder
  · rintro (rfl | hunder)
    · exact .inl rfl
    · exact .inr hunder

end segments

end SsoGateway.Lib
