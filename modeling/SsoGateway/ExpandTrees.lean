import SsoGateway.PermissionReads

/-!
# Trees that are shown to a caller

A tree of an expansion is cleaned before it goes out: objects lose the prefix of their tenant, subjects of a
backend become the ids they have in public, and everything else stays as it is.

* `CleanedTree` — what may become of a tree.
* `SettledTree` — the trees in which no id is left that would be cleaned again.
* `sanitize_tree` — a tree is cleaned, and a settled one is cleaned once.
* `tree_uncleaned` — a reference that keeps its tenant, and a subject that has no prefix and is changed.

Source: `services/permission.rs`.
-/

namespace SsoGateway

open Lib

/-! ## Cleaned trees -/

/-- The id of a subject in public: that of its identity, or that of its client, or its own. -/
def shownSubject (env : ReadEnv) (tenantId subject : String) : String :=
  (env.publicId tenantId "kratos" subject).getD ((env.publicId tenantId "hydra" subject).getD subject)

/-- What may become of a reference: one that begins with the tenant loses it, and one whose object does not
begin with the tenant either stays as it is. -/
def CleanedReference (tenantId left relation clean : String) : Prop :=
  match stripStart left (tenantId ++ ":") with
  | some rest => clean = rest ++ "#" ++ relation
  | none => (∀ nspace object, splitOnce left ':' = some (nspace, object) →
      stripTenantObjectPrefix tenantId object = none) → clean = left ++ "#" ++ relation

/-- What becomes of the object of a node. -/
def CleanedObject (tenantId : String) (v v' : Value) : Prop :=
  match v with
  | .str object => v' = .str ((stripTenantObjectPrefix tenantId object).getD object)
  | v => v' = v

/-- What may become of the subject of a node. -/
def CleanedSubject (env : ReadEnv) (tenantId : String) (v v' : Value) : Prop :=
  match v with
  | .str subject =>
      match splitOnce subject '#' with
      | some (left, relation) => ∃ clean, v' = .str clean ∧ CleanedReference tenantId left relation clean
      | none => v' = .str (shownSubject env tenantId subject)
  | v => v' = v

mutual

/-- What may become of a tree. -/
def CleanedTree (env : ReadEnv) (tenantId : String) : Value → Value → Prop
  | .obj fields, .obj fields' => CleanedFields env tenantId fields fields'
  | .arr items, .arr items' => CleanedItems env tenantId items items'
  | v, v' => v' = v

/-- What may become of the fields of a node, key by key. -/
def CleanedFields (env : ReadEnv) (tenantId : String) :
    List (String × Value) → List (String × Value) → Prop
  | [], [] => True
  | (k, v) :: fields, (k', v') :: fields' =>
      k' = k ∧ (if k = "object" then CleanedObject tenantId v v'
        else if k = "subject_id" then CleanedSubject env tenantId v v'
        else CleanedTree env tenantId v v') ∧ CleanedFields env tenantId fields fields'
  | _, _ => False

/-- What may become of the items of an array, one by one. -/
def CleanedItems (env : ReadEnv) (tenantId : String) : List Value → List Value → Prop
  | [], [] => True
  | v :: items, v' :: items' => CleanedTree env tenantId v v' ∧ CleanedItems env tenantId items items'
  | _, _ => False

end

/-! ## Settled trees -/

/-- The text does not begin with the tenant. -/
def Unprefixed (tenantId text : String) : Prop := stripStart text (tenantId ++ ":") = none

/-- Without its tenant, the object does not begin with it. -/
def SettledObject (tenantId : String) : Value → Prop
  | .str object => Unprefixed tenantId ((stripTenantObjectPrefix tenantId object).getD object)
  | _ => True

/-- Without its tenant, a reference does not begin with it; a public id is not one of a backend. -/
def SettledSubject (env : ReadEnv) (tenantId : String) : Value → Prop
  | .str subject =>
      match splitOnce subject '#' with
      | some (left, _) => Unprefixed tenantId ((stripStart left (tenantId ++ ":")).getD left)
      | none => '#' ∉ (shownSubject env tenantId subject).toList ∧
          shownSubject env tenantId (shownSubject env tenantId subject) =
            shownSubject env tenantId subject
  | _ => True

mutual

/-- No id of the tree would be cleaned twice. -/
def SettledTree (env : ReadEnv) (tenantId : String) : Value → Prop
  | .obj fields => SettledFields env tenantId fields
  | .arr items => SettledItems env tenantId items
  | _ => True

/-- Nor would one of the fields. -/
def SettledFields (env : ReadEnv) (tenantId : String) : List (String × Value) → Prop
  | [] => True
  | (k, v) :: fields =>
      (if k = "object" then SettledObject tenantId v
        else if k = "subject_id" then SettledSubject env tenantId v
        else SettledTree env tenantId v) ∧ SettledFields env tenantId fields

/-- Nor would one of the items. -/
def SettledItems (env : ReadEnv) (tenantId : String) : List Value → Prop
  | [] => True
  | v :: items => SettledTree env tenantId v ∧ SettledItems env tenantId items

end

/-! ## Cleaning -/

section cleaning

variable {env : ReadEnv} {tenantId : String}

/-- What becomes of a reference. -/
theorem stripSubjectSetPrefix_of_split {subject left relation : String}
    (h : splitOnce subject '#' = some (left, relation)) : stripSubjectSetPrefix subject tenantId =
      (stripStart left (tenantId ++ ":")).getD left ++ "#" ++ relation := by
  simp [stripSubjectSetPrefix, h]

/-- What becomes of a subject. -/
theorem sanitizeSubjectId_str (subject : String) : sanitizeSubjectId env tenantId (.str subject) =
    .str (match splitOnce subject '#' with
      | some (left, relation) => (stripStart left (tenantId ++ ":")).getD left ++ "#" ++ relation
      | none => shownSubject env tenantId subject) := by
  unfold sanitizeSubjectId
  rcases h : splitOnce subject '#' with _ | ⟨left, relation⟩
  · have hno := splitOnce_eq_none.mp h
    simp [Value.asStr, hno, shownSubject]
  · have hyes : '#' ∈ subject.toList := by
      by_contra hno
      simp [splitOnce_eq_none.mpr hno] at h
    simp [Value.asStr, hyes, stripSubjectSetPrefix_of_split h]

theorem cleanedObject (v : Value) : CleanedObject tenantId v (sanitizeObjectValue tenantId v) := by
  cases v <;> rfl

theorem cleanedSubject (v : Value) : CleanedSubject env tenantId v (sanitizeSubjectId env tenantId v) := by
  cases v with
  | str subject =>
      rw [sanitizeSubjectId_str]
      rcases h : splitOnce subject '#' with _ | ⟨left, relation⟩
      · simp only [CleanedSubject, h]
      · simp only [CleanedSubject, h]
        refine ⟨_, rfl, ?_⟩
        unfold CleanedReference
        rcases stripStart left (tenantId ++ ":") with _ | rest
        · exact fun _ => rfl
        · rfl
  | _ => rfl

mutual

/-- A tree is cleaned. -/
theorem cleanedTree : ∀ v, CleanedTree env tenantId v (sanitizeExpandTree env tenantId v)
  | .obj fields => by
      simp only [sanitizeExpandTree, CleanedTree]
      exact cleanedFields fields
  | .arr items => by
      simp only [sanitizeExpandTree, CleanedTree]
      exact cleanedItems items
  | .null | .bool _ | .number _ | .str _ => by simp [sanitizeExpandTree, CleanedTree]

theorem cleanedFields : ∀ fields, CleanedFields env tenantId fields (sanitizeFields env tenantId fields)
  | [] => by simp [sanitizeFields, CleanedFields]
  | (k, v) :: fields => by
      simp only [sanitizeFields, CleanedFields]
      refine ⟨trivial, ?_, cleanedFields fields⟩
      by_cases hobject : k = "object"
      · simp only [if_pos hobject]
        exact cleanedObject v
      · by_cases hsubject : k = "subject_id"
        · simp only [if_neg hobject, if_pos hsubject]
          exact cleanedSubject v
        · simp only [if_neg hobject, if_neg hsubject]
          exact cleanedTree v

theorem cleanedItems : ∀ items, CleanedItems env tenantId items (sanitizeItems env tenantId items)
  | [] => by simp [sanitizeItems, CleanedItems]
  | v :: items => by
      simp only [sanitizeItems, CleanedItems]
      exact ⟨cleanedTree v, cleanedItems items⟩

end

/-! ### Cleaning twice -/

theorem object_twice {v : Value} (h : SettledObject tenantId v) :
    sanitizeObjectValue tenantId (sanitizeObjectValue tenantId v) = sanitizeObjectValue tenantId v := by
  cases v with
  | str object =>
      have hclean : stripTenantObjectPrefix tenantId
          ((stripTenantObjectPrefix tenantId object).getD object) = none := h
      simp [sanitizeObjectValue, Value.asStr, hclean]
  | _ => rfl

/-- What is left of a text has no character that the text has not. -/
theorem not_mem_stripStart {c : Char} {text start : String} (hc : c ∉ text.toList) :
    c ∉ ((stripStart text start).getD text).toList := by
  rcases h : stripStart text start with _ | rest
  · exact hc
  · rw [stripStart_eq_some] at h
    rw [h] at hc
    intro hmem
    apply hc
    simp only [String.toList_append, List.mem_append]
    exact .inr hmem

theorem subject_twice {v : Value} (h : SettledSubject env tenantId v) :
    sanitizeSubjectId env tenantId (sanitizeSubjectId env tenantId v) =
      sanitizeSubjectId env tenantId v := by
  cases v with
  | str subject =>
      rw [sanitizeSubjectId_str, sanitizeSubjectId_str]
      rcases hsplit : splitOnce subject '#' with _ | ⟨left, relation⟩
      · simp only [SettledSubject, hsplit] at h
        rw [splitOnce_eq_none.mpr h.1]
        dsimp only
        rw [h.2]
      · simp only [SettledSubject, hsplit] at h
        have hleft : '#' ∉ left.toList := (splitOnce_eq_some.mp hsplit).1
        have hagain : splitOnce ((stripStart left (tenantId ++ ":")).getD left ++ "#" ++ relation) '#' =
            some ((stripStart left (tenantId ++ ":")).getD left, relation) :=
          splitOnce_eq_some.mpr ⟨not_mem_stripStart hleft, rfl⟩
        rw [hagain]
        dsimp only
        rw [show stripStart ((stripStart left (tenantId ++ ":")).getD left) (tenantId ++ ":") = none from h]
        rfl
  | _ => rfl

mutual

/-- A settled tree is cleaned once. -/
theorem tree_twice : ∀ v, SettledTree env tenantId v →
    sanitizeExpandTree env tenantId (sanitizeExpandTree env tenantId v) =
      sanitizeExpandTree env tenantId v
  | .obj fields => fun h => by
      simp only [SettledTree] at h
      simp only [sanitizeExpandTree, fields_twice fields h]
  | .arr items => fun h => by
      simp only [SettledTree] at h
      simp only [sanitizeExpandTree, items_twice items h]
  | .null | .bool _ | .number _ | .str _ => fun _ => by simp [sanitizeExpandTree]

theorem fields_twice : ∀ fields, SettledFields env tenantId fields →
    sanitizeFields env tenantId (sanitizeFields env tenantId fields) = sanitizeFields env tenantId fields
  | [] => fun _ => by simp [sanitizeFields]
  | (k, v) :: fields => fun h => by
      simp only [SettledFields] at h
      obtain ⟨hv, hfields⟩ := h
      simp only [sanitizeFields, fields_twice fields hfields]
      by_cases hobject : k = "object"
      · simp only [if_pos hobject] at hv ⊢
        rw [object_twice hv]
      · by_cases hsubject : k = "subject_id"
        · simp only [if_neg hobject, if_pos hsubject] at hv ⊢
          rw [subject_twice hv]
        · simp only [if_neg hobject, if_neg hsubject] at hv ⊢
          rw [tree_twice v hv]

theorem items_twice : ∀ items, SettledItems env tenantId items →
    sanitizeItems env tenantId (sanitizeItems env tenantId items) = sanitizeItems env tenantId items
  | [] => fun _ => by simp [sanitizeItems]
  | v :: items => fun h => by
      simp only [SettledItems] at h
      simp only [sanitizeItems, tree_twice v h.1, items_twice items h.2]

end

end cleaning

/-- **A tree is cleaned.** Objects lose their tenant, subjects become what they are in public, references lose a
tenant they begin with, and everything else stays as it is; and a tree in which no id would be cleaned twice is
cleaned once. -/
theorem sanitize_tree (env : ReadEnv) (tenantId : String) (tree : Value) :
    CleanedTree env tenantId tree (sanitizeExpandTree env tenantId tree) ∧
      (SettledTree env tenantId tree →
        sanitizeExpandTree env tenantId (sanitizeExpandTree env tenantId tree) =
          sanitizeExpandTree env tenantId tree) :=
  ⟨cleanedTree tree, tree_twice tree⟩

/-- Ada's identity has a public id; nothing fails. -/
def adaReads : ReadEnv where
  engine := .traversing 5 50 (by decide)
  publicId _ provider subject := if provider = "kratos" ∧ subject = "identity-1" then some "ada" else none
  base64Encode := id
  base64Decode := some
  fault := none

/-- A document of `acme`'s, with Ada and a group among its viewers. -/
def viewersTree (group : String) : Value :=
  .obj [("object", .str "acme:1"), ("children", .arr [.obj [("subject_id", .str "identity-1")],
    .obj [("subject_id", .str group)]])]

/-- A reference that begins with the tenant loses it, once and for all. -/
theorem sanitize_tree_viewers :
    sanitizeExpandTree adaReads "acme" (viewersTree "acme:engineers#member") =
      .obj [("object", .str "1"), ("children", .arr [.obj [("subject_id", .str "ada")],
        .obj [("subject_id", .str "engineers#member")]])] ∧
    sanitizeExpandTree adaReads "acme" (sanitizeExpandTree adaReads "acme"
        (viewersTree "acme:engineers#member")) =
      sanitizeExpandTree adaReads "acme" (viewersTree "acme:engineers#member") := by
  have hobject : SettledObject "acme" (.str "acme:1") := by
    show stripStart _ _ = none
    decide
  have hada : SettledSubject adaReads "acme" (.str "identity-1") := by
    simp only [SettledSubject, show splitOnce "identity-1" '#' = none by decide]
    decide
  have hgroup : SettledSubject adaReads "acme" (.str "acme:engineers#member") := by
    simp only [SettledSubject, show splitOnce "acme:engineers#member" '#' =
      some ("acme:engineers", "member") by decide]
    show stripStart _ _ = none
    decide
  refine ⟨by rfl, (sanitize_tree adaReads "acme" (viewersTree "acme:engineers#member")).2 ?_⟩
  simp [viewersTree, SettledTree, SettledFields, SettledItems, hobject, hada, hgroup]

/-- The object inside of a reference keeps its tenant; and a subject without a prefix is changed. -/
theorem tree_uncleaned :
    sanitizeExpandTree adaReads "acme" (viewersTree "group:acme:engineers#member") =
      .obj [("object", .str "1"), ("children", .arr [.obj [("subject_id", .str "ada")],
        .obj [("subject_id", .str "group:acme:engineers#member")]])] ∧
    sanitizeExpandTree adaReads "acme" (.obj [("subject_id", .str "identity-1")]) ≠
      .obj [("subject_id", .str "identity-1")] := by
  refine ⟨by rfl, fun h => ?_⟩
  have hclean : sanitizeExpandTree adaReads "acme" (.obj [("subject_id", .str "identity-1")]) =
      .obj [("subject_id", .str "ada")] := by rfl
  rw [hclean] at h
  simp at h

end SsoGateway
