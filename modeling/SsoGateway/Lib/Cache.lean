import Mathlib.Data.List.Basic
import Mathlib.Data.List.Pairwise
import Mathlib.Data.Int.Notation

/-!
# Caches whose entries expire

A cache keeps one value for each key, and with it the instant it was inserted; an entry is no longer
found once it is as old as the time to live. Entries can be removed by their key, or all those whose
value satisfies a condition.

* `Cache.Holds` — a condition on every value in the cache, expired or not.
* `holds_get`, `holds_insert`, `holds_invalidate`, `holds_invalidateIf` — what a condition survives.
* `Cache.Keyed` — no key has two entries; then the value of a key is that of its entry
  (`get_eq_some`).

Nothing here is about a particular service.
-/

namespace SsoGateway.Lib

/-- A cache: its keys, their values, and when they were inserted. -/
structure Cache (K V : Type) where
  entries : List (K × V × ℤ)

namespace Cache

variable {K V : Type}

/-- The cache without entries. -/
def empty : Cache K V := ⟨[]⟩

/-- Remove the entries whose value satisfies a condition. -/
def invalidateIf (c : Cache K V) (p : V → Prop) [DecidablePred p] : Cache K V :=
  ⟨c.entries.filter fun e => ¬ p e.2.1⟩

/-- Every value in the cache satisfies `P`. -/
def Holds (c : Cache K V) (P : V → Prop) : Prop := ∀ e ∈ c.entries, P e.2.1

section removal

variable {c : Cache K V} {P : V → Prop}

theorem holds_empty (P : V → Prop) : (empty : Cache K V).Holds P :=
  fun _ he => absurd he List.not_mem_nil

theorem holds_invalidateIf (hc : c.Holds P) (p : V → Prop) [DecidablePred p] :
    (c.invalidateIf p).Holds P := fun e he => hc e (List.mem_of_mem_filter he)

/-- After the removal, no value satisfies the condition. -/
theorem invalidateIf_holds (c : Cache K V) (p : V → Prop) [DecidablePred p] :
    (c.invalidateIf p).Holds fun v => ¬ p v := by
  intro e he
  simpa using (List.mem_filter.mp he).2

end removal

variable [DecidableEq K]

/-- The value of a key, unless its entry has expired. -/
def get (c : Cache K V) (ttl now : ℤ) (k : K) : Option V :=
  (c.entries.find? fun e => e.1 = k ∧ now < e.2.2 + ttl).map fun e => e.2.1

/-- Insert a value, over the one the key has. -/
def insert (c : Cache K V) (now : ℤ) (k : K) (v : V) : Cache K V :=
  ⟨(k, v, now) :: c.entries.filter fun e => e.1 ≠ k⟩

/-- Remove the entry of a key. -/
def invalidate (c : Cache K V) (k : K) : Cache K V := ⟨c.entries.filter fun e => e.1 ≠ k⟩

variable {c : Cache K V} {P : V → Prop}

theorem holds_get (hc : c.Holds P) {ttl now : ℤ} {k : K} {v : V} (hv : c.get ttl now k = some v) :
    P v := by
  obtain ⟨e, he, rfl⟩ := Option.map_eq_some_iff.mp hv
  exact hc e (List.mem_of_find?_eq_some he)

theorem holds_insert (hc : c.Holds P) (now : ℤ) (k : K) {v : V} (hv : P v) :
    (c.insert now k v).Holds P := by
  intro e he
  rcases List.mem_cons.mp he with rfl | he
  · exact hv
  · exact hc e (List.mem_of_mem_filter he)

theorem holds_invalidate (hc : c.Holds P) (k : K) : (c.invalidate k).Holds P :=
  fun e he => hc e (List.mem_of_mem_filter he)

/-- A key that was removed is not found. -/
theorem get_invalidate_self (c : Cache K V) (ttl now : ℤ) (k : K) : (c.invalidate k).get ttl now k = none := by
  refine Option.map_eq_none_iff.mpr (List.find?_eq_none.mpr fun e he => ?_)
  have hne := (List.mem_filter.mp he).2
  simp only [ne_eq, decide_eq_true_eq] at hne
  simp [hne]

/-! ## Entries -/

/-- No key has two entries. -/
def Keyed (c : Cache K V) : Prop := c.entries.Pairwise fun e e' => e.1 ≠ e'.1

omit [DecidableEq K] in
theorem keyed_empty : (empty : Cache K V).Keyed := .nil

omit [DecidableEq K] in
theorem Keyed.invalidateIf (hc : c.Keyed) (p : V → Prop) [DecidablePred p] :
    (c.invalidateIf p).Keyed := List.Pairwise.filter _ hc

theorem Keyed.insert (hc : c.Keyed) (now : ℤ) (k : K) (v : V) : (c.insert now k v).Keyed := by
  refine List.pairwise_cons.mpr ⟨fun e he => ?_, List.Pairwise.filter _ hc⟩
  have hne := (List.mem_filter.mp he).2
  intro heq
  simp [← heq] at hne

/-- After an insertion there is the new entry, and those of the other keys. -/
theorem mem_insert {now : ℤ} {k : K} {v : V} {e : K × V × ℤ} :
    e ∈ (c.insert now k v).entries ↔ e = (k, v, now) ∨ e ∈ c.entries ∧ e.1 ≠ k := by
  simp [insert]

omit [DecidableEq K] in
theorem mem_invalidateIf {p : V → Prop} [DecidablePred p] {e : K × V × ℤ} :
    e ∈ (c.invalidateIf p).entries ↔ e ∈ c.entries ∧ ¬ p e.2.1 := by
  simp [Cache.invalidateIf]

/-- The value of a key is that of its entry, unless it has expired. -/
theorem get_eq_some (hc : c.Keyed) {ttl now : ℤ} {k : K} {v : V} :
    c.get ttl now k = some v ↔ ∃ t₀, (k, v, t₀) ∈ c.entries ∧ now < t₀ + ttl := by
  have hfound : ∀ {v : V}, c.get ttl now k = some v → ∃ t₀, (k, v, t₀) ∈ c.entries ∧ now < t₀ + ttl := by
    intro v h
    obtain ⟨⟨k', v', t₀⟩, he, rfl⟩ := Option.map_eq_some_iff.mp h
    have hlive := List.find?_some he
    simp only [decide_eq_true_eq] at hlive
    exact ⟨t₀, hlive.1 ▸ List.mem_of_find?_eq_some he, hlive.2⟩
  refine ⟨hfound, ?_⟩
  rintro ⟨t₀, he, hlive⟩
  cases hget : c.get ttl now k with
  | none =>
      have hnone := List.find?_eq_none.mp (Option.map_eq_none_iff.mp hget) _ he
      simp only [true_and, decide_eq_true_eq] at hnone
      exact absurd hlive hnone
  | some v' =>
      obtain ⟨t₁, he', -⟩ := hfound hget
      have hsymm : Std.Symm fun e e' : K × V × ℤ => e.1 ≠ e'.1 := ⟨fun _ _ => Ne.symm⟩
      by_contra hne
      refine List.Pairwise.forall hc he' he (fun heq => hne ?_) rfl
      exact congrArg (fun e : K × V × ℤ => some e.2.1) heq

end Cache

end SsoGateway.Lib
