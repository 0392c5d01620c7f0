import Mathlib.Data.List.Basic
import Mathlib.Data.List.Pairwise

/-!
# Tables

The rows of a table of which no two may stand together: a primary key, a unique key, or several of
them, given as the relation of two rows that conflict.

* `Table.insert?` — `INSERT`, refused where a row conflicts.
* `Table.insertNew` — `INSERT … ON CONFLICT DO NOTHING`, with whether it inserted.
* `Table.deleteWhere`, `Table.Affects` — `DELETE`, and whether it finds a row.
* `Table.modify`, `Table.updateWhere` — `UPDATE` of columns that no key contains, of every row or of
  some.

Nothing here is about a particular service.
-/

namespace SsoGateway.Lib

/-- Rows no two of which conflict. -/
structure Table (ρ : Type) (conflicts : ρ → ρ → Prop) where
  rows : List ρ
  apart : rows.Pairwise fun r r' => ¬ conflicts r r'

namespace Table

variable {ρ : Type} {conflicts : ρ → ρ → Prop}

/-- The table without rows. -/
def empty : Table ρ conflicts := ⟨[], .nil⟩

/-- The table of one row. -/
def single (r : ρ) : Table ρ conflicts := ⟨[r], List.pairwise_singleton _ r⟩

/-- `INSERT`, refused where a row of the table conflicts with the new one. -/
def insert? [DecidableRel conflicts] (t : Table ρ conflicts) (r : ρ) : Option (Table ρ conflicts) :=
  if h : ∀ r' ∈ t.rows, ¬ conflicts r r' then some ⟨r :: t.rows, .cons h t.apart⟩ else none

/-- `INSERT … ON CONFLICT DO NOTHING`, with whether the row is new. -/
def insertNew [DecidableRel conflicts] (t : Table ρ conflicts) (r : ρ) : Table ρ conflicts × Bool :=
  match t.insert? r with
  | some t' => (t', true)
  | none => (t, false)

/-- `DELETE … WHERE p`. -/
def deleteWhere (t : Table ρ conflicts) (p : ρ → Prop) [DecidablePred p] : Table ρ conflicts :=
  ⟨t.rows.filter fun r => ¬ p r, t.apart.filter _⟩

/-- A statement `… WHERE p` finds a row. -/
def Affects (t : Table ρ conflicts) (p : ρ → Prop) : Prop := ∃ r ∈ t.rows, p r

instance (t : Table ρ conflicts) (p : ρ → Prop) [DecidablePred p] : Decidable (t.Affects p) :=
  inferInstanceAs (Decidable (∃ r ∈ t.rows, p r))

/-- `UPDATE … SET …`, of columns the keys do not look at. -/
def modify (t : Table ρ conflicts) (f : ρ → ρ) (hf : ∀ r r', conflicts (f r) (f r') ↔ conflicts r r') :
    Table ρ conflicts :=
  ⟨t.rows.map f, by
    rw [List.pairwise_map]
    exact t.apart.imp fun h => by rwa [hf]⟩

/-- A change of columns the keys do not look at. -/
def KeepsKeys (conflicts : ρ → ρ → Prop) (f : ρ → ρ) : Prop :=
  (∀ r r', conflicts (f r) r' ↔ conflicts r r') ∧ ∀ r r', conflicts r (f r') ↔ conflicts r r'

/-- `UPDATE … SET … WHERE p`. -/
def updateWhere (t : Table ρ conflicts) (p : ρ → Prop) [DecidablePred p] (f : ρ → ρ)
    (hf : KeepsKeys conflicts f) : Table ρ conflicts :=
  t.modify (fun r => if p r then f r else r) fun r r' => by
    by_cases hr : p r <;> by_cases hr' : p r' <;> simp [hr, hr', hf.1, hf.2]

/-- `SELECT … WHERE p`, of at most one row. -/
def find? (t : Table ρ conflicts) (p : ρ → Prop) [DecidablePred p] : Option ρ :=
  t.rows.find? fun r => p r

section lemmas

variable {t t' : Table ρ conflicts} {r r' : ρ} {p : ρ → Prop} [DecidablePred p]

@[simp] theorem rows_empty : (empty : Table ρ conflicts).rows = [] := rfl

@[simp] theorem rows_single {r : ρ} : (single r : Table ρ conflicts).rows = [r] := rfl

@[simp] theorem rows_deleteWhere : (t.deleteWhere p).rows = t.rows.filter fun r => ¬ p r := rfl

theorem mem_deleteWhere : r ∈ (t.deleteWhere p).rows ↔ r ∈ t.rows ∧ ¬ p r := by
  simp [deleteWhere]

theorem mem_updateWhere {f : ρ → ρ} {hf : KeepsKeys conflicts f} :
    r ∈ (t.updateWhere p f hf).rows ↔ ∃ r₀ ∈ t.rows, (if p r₀ then f r₀ else r₀) = r :=
  List.mem_map

/-- What was deleted is not found again. -/
theorem not_affects_deleteWhere : ¬ (t.deleteWhere p).Affects p := by
  rintro ⟨r, hr, hp⟩
  exact (mem_deleteWhere.mp hr).2 hp

theorem find?_eq_some (h : t.find? p = some r) : r ∈ t.rows ∧ p r :=
  ⟨List.mem_of_find?_eq_some h, by simpa using List.find?_some h⟩

theorem find?_eq_none : t.find? p = none ↔ ¬ t.Affects p := by
  simp [find?, Affects]

omit [DecidablePred p] in
/-- Two rows of a table do not conflict. -/
theorem eq_of_conflicts (hsymm : ∀ r r', conflicts r r' → conflicts r' r) (hr : r ∈ t.rows)
    (hr' : r' ∈ t.rows) (h : conflicts r r') : r = r' := by
  have hsymm : Std.Symm fun r r' => ¬ conflicts r r' := ⟨fun a b hab hba => hab (hsymm b a hba)⟩
  by_contra hne
  exact t.apart.forall hr hr' hne h

/-- The only row that satisfies `p` is the one that is found. -/
theorem find?_eq_of_unique (hr : r ∈ t.rows) (hp : p r) (huniq : ∀ r' ∈ t.rows, p r' → r' = r) :
    t.find? p = some r := by
  rcases hfind : t.find? p with _ | r'
  · exact absurd ⟨r, hr, hp⟩ (find?_eq_none.mp hfind)
  · obtain ⟨hr', hp'⟩ := find?_eq_some hfind
    rw [huniq r' hr' hp']

variable [DecidableRel conflicts]

theorem insert?_eq_some (h : t.insert? r = some t') :
    t'.rows = r :: t.rows ∧ ∀ r' ∈ t.rows, ¬ conflicts r r' := by
  unfold insert? at h
  split at h
  · rename_i hnew
    cases h
    exact ⟨rfl, hnew⟩
  · cases h

/-- A row is refused by one it conflicts with. -/
theorem insert?_eq_none (h : t.insert? r = none) : t.Affects (conflicts r) := by
  unfold insert? at h
  split at h
  · cases h
  · rename_i hnot
    push Not at hnot
    exact hnot

/-- A row is inserted unless one of the table conflicts with it. -/
theorem insertNew_cases (t : Table ρ conflicts) (r : ρ) :
    ((t.insertNew r).2 = true ∧ (t.insertNew r).1.rows = r :: t.rows ∧
      ∀ r' ∈ t.rows, ¬ conflicts r r') ∨
    ((t.insertNew r).2 = false ∧ (t.insertNew r).1 = t ∧ t.Affects (conflicts r)) := by
  unfold insertNew
  rcases h : t.insert? r with _ | t'
  · exact .inr ⟨rfl, rfl, insert?_eq_none h⟩
  · obtain ⟨hrows, hnew⟩ := insert?_eq_some h
    exact .inl ⟨rfl, hrows, hnew⟩

/-- A row that no row of the table conflicts with is inserted. -/
theorem insertNew_of_free (h : ¬ t.Affects (conflicts r)) :
    (t.insertNew r).2 = true ∧ (t.insertNew r).1.rows = r :: t.rows := by
  rcases insertNew_cases t r with ⟨hnew, hrows, -⟩ | ⟨-, -, hconflict⟩
  · exact ⟨hnew, hrows⟩
  · exact absurd hconflict h

end lemmas

end Table

end SsoGateway.Lib
