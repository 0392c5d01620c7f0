import Mathlib.Algebra.Order.Field.Basic
import Mathlib.Tactic.Linarith
import Mathlib.Tactic.Ring

/-!
# Token buckets

A bucket holds up to `cap` tokens and refills at `rate` tokens per unit of time; an attempt takes a
token if there is one.

* `TokenBucket.level`, `take`, `takes` — the tokens at an instant, one attempt, and a sequence of them.
* `level_of_full` — a bucket that has refilled once stays full until it is used.
* `taken_le` — in a window of length `t`, at most `cap + rate * t` attempts succeed.

Nothing here is about a particular service.
-/

namespace SsoGateway.Lib

/-- The tokens left at the last attempt, and its instant. -/
structure TokenBucket (K : Type) where
  tokens : K
  last : K
deriving DecidableEq, Repr

namespace TokenBucket

variable {K : Type} [Field K] [LinearOrder K]

/-- A bucket that has not been used since `now`. -/
def full (cap now : K) : TokenBucket K := ⟨cap, now⟩

/-- The tokens at `now`; a clock that runs backwards refills nothing. -/
def level (cap rate now : K) (b : TokenBucket K) : K :=
  min (b.tokens + max (now - b.last) 0 * rate) cap

/-- One attempt. -/
def take (cap rate now : K) (b : TokenBucket K) : Bool × TokenBucket K :=
  if 1 ≤ b.level cap rate now then (true, ⟨b.level cap rate now - 1, now⟩)
  else (false, ⟨b.level cap rate now, now⟩)

/-- Attempts one after another, each with its answer. -/
def takes (cap rate : K) : TokenBucket K → List K → List (K × Bool)
  | _, [] => []
  | b, now :: times => (now, (b.take cap rate now).1) :: (b.take cap rate now).2.takes cap rate times

/-- How many attempts between `a` and `u` succeeded. -/
def takenWithin (a u : K) (l : List (K × Bool)) : ℕ :=
  (l.filter fun p => p.2 = true ∧ a ≤ p.1 ∧ p.1 ≤ u).length

section basic

variable {cap rate now : K} {b : TokenBucket K}

theorem level_le : b.level cap rate now ≤ cap := min_le_right _ _

/-- A bucket with at least `cap` tokens at `now` is full. -/
theorem level_eq_cap (h : cap ≤ b.level cap rate now) : b.level cap rate now = cap :=
  le_antisymm level_le h

@[simp] theorem take_last : (b.take cap rate now).2.last = now := by
  unfold take
  split <;> rfl

/-- What an attempt leaves, and what it took. -/
theorem take_tokens : (b.take cap rate now).2.tokens =
    b.level cap rate now - if (b.take cap rate now).1 then 1 else 0 := by
  unfold take
  split <;> simp

/-- After an attempt, the level is what it left. -/
theorem level_take : (b.take cap rate now).2.level cap rate now ≤ (b.take cap rate now).2.tokens := by
  refine le_trans (min_le_left _ _) ?_
  simp

/-- Buckets at the same level answer alike, and are alike from then on. -/
theorem take_congr {b' : TokenBucket K} (h : b.level cap rate now = b'.level cap rate now) :
    b.take cap rate now = b'.take cap rate now := by
  simp only [take, h]

theorem mem_takes {times : List K} {p : K × Bool} (h : p ∈ b.takes cap rate times) : p.1 ∈ times := by
  induction times generalizing b with
  | nil => simp [takes] at h
  | cons s times ih =>
      rcases List.mem_cons.mp h with rfl | h
      · exact List.mem_cons_self
      · exact List.mem_cons_of_mem s (ih h)

omit [Field K] in
theorem takenWithin_cons_le (a u : K) (p : K × Bool) (l : List (K × Bool)) :
    takenWithin a u (p :: l) ≤ (if p.2 then 1 else 0) + takenWithin a u l := by
  unfold takenWithin
  rw [List.filter_cons]
  split
  · rename_i hhead
    have hp : p.2 = true := (of_decide_eq_true hhead).1
    simp only [hp, if_true, List.length_cons]
    omega
  · exact Nat.le_add_left _ _

omit [Field K] in
theorem takenWithin_eq_zero {a u : K} {l : List (K × Bool)} (h : ∀ p ∈ l, u < p.1 ∨ p.1 < a) :
    takenWithin a u l = 0 := by
  unfold takenWithin
  rw [List.length_eq_zero_iff, List.filter_eq_nil_iff]
  intro p hp
  rcases h p hp with h | h
  · simp [h]
  · simp [h]

end basic

section order

variable [IsStrictOrderedRing K] {cap rate now : K} {b : TokenBucket K}

theorem level_nonneg (hcap : 0 ≤ cap) (hrate : 0 ≤ rate) (hb : 0 ≤ b.tokens) :
    0 ≤ b.level cap rate now := by
  refine le_min ?_ hcap
  have := mul_nonneg (le_max_right (now - b.last) 0) hrate
  linarith

theorem take_tokens_nonneg (hcap : 0 ≤ cap) (hrate : 0 ≤ rate) (hb : 0 ≤ b.tokens) :
    0 ≤ (b.take cap rate now).2.tokens := by
  have hlevel : 0 ≤ b.level cap rate now := level_nonneg hcap hrate hb
  unfold take
  split
  · rename_i hone
    show 0 ≤ b.level cap rate now - 1
    linarith
  · exact hlevel

/-- An attempt leaves less than a full bucket. -/
theorem take_lt (hcap : 1 ≤ cap) : (b.take cap rate now).2.tokens < cap := by
  have hlevel : b.level cap rate now ≤ cap := level_le
  unfold take
  split
  · show b.level cap rate now - 1 < cap
    linarith
  · rename_i hlow
    show b.level cap rate now < cap
    linarith

/-- A bucket that is full stays full. -/
theorem level_of_full {later : K} (hrate : 0 ≤ rate) (hlater : now ≤ later)
    (h : cap ≤ b.level cap rate now) : b.level cap rate later = cap := by
  refine level_eq_cap (le_min ?_ le_rfl)
  have hgain : max (now - b.last) 0 * rate ≤ max (later - b.last) 0 * rate := by
    refine mul_le_mul_of_nonneg_right (max_le_max ?_ le_rfl) hrate
    linarith
  have := le_trans h (min_le_left _ _)
  linarith

/-- What was stored is still there. -/
theorem le_level (hrate : 0 ≤ rate) (h : cap ≤ b.tokens) : cap ≤ b.level cap rate now := by
  refine le_min ?_ le_rfl
  have := mul_nonneg (le_max_right (now - b.last) 0) hrate
  linarith

theorem level_full (hrate : 0 ≤ rate) {t : K} : (full cap t).level cap rate now = cap := by
  refine level_eq_cap (le_min ?_ le_rfl)
  have := mul_nonneg (le_max_right (now - t) 0) hrate
  simp only [full]
  linarith

/-- The level rises at most at the rate. -/
theorem level_le_add {t : K} (hrate : 0 ≤ rate) (ht : t ≤ now) :
    b.level cap rate now ≤ b.level cap rate t + rate * (now - t) := by
  have hgain : max (now - b.last) 0 ≤ max (t - b.last) 0 + (now - t) := by
    refine max_le ?_ ?_
    · have := le_max_left (t - b.last) 0
      linarith
    · have := le_max_right (t - b.last) 0
      linarith
  have hmul := mul_le_mul_of_nonneg_right hgain hrate
  have hnonneg : 0 ≤ rate * (now - t) := mul_nonneg hrate (by linarith)
  unfold level
  rcases le_total (b.tokens + max (t - b.last) 0 * rate) cap with hle | hle
  · rw [min_eq_left hle]
    refine le_trans (min_le_left _ _) ?_
    linarith [mul_comm rate (now - t)]
  · rw [min_eq_right hle]
    have := min_le_right (b.tokens + max (now - b.last) 0 * rate) cap
    linarith

/-- From `t` on, no more attempts succeed by `u` than there are tokens and refill. -/
theorem taken_le_level {u : K} (hcap : 0 ≤ cap) (hrate : 0 ≤ rate) (times : List K) {t : K}
    (hsorted : times.Pairwise fun s s' => s ≤ s') (hfirst : ∀ s ∈ times, t ≤ s) (htu : t ≤ u)
    (hb : 0 ≤ b.tokens) (a : K) :
    (takenWithin a u (b.takes cap rate times) : K) ≤ b.level cap rate t + rate * (u - t) := by
  induction times generalizing b t with
  | nil =>
      have hlevel : 0 ≤ b.level cap rate t := level_nonneg hcap hrate hb
      have hspan : 0 ≤ rate * (u - t) := mul_nonneg hrate (by linarith)
      simp only [takes, takenWithin, List.filter_nil, List.length_nil, Nat.cast_zero]
      linarith
  | cons s times ih =>
      have hs := hfirst s List.mem_cons_self
      obtain ⟨hlater, hsorted⟩ := List.pairwise_cons.mp hsorted
      have hlevel : 0 ≤ b.level cap rate t := level_nonneg hcap hrate hb
      by_cases hsu : s ≤ u
      · have hrest := ih (b := (b.take cap rate s).2) (t := s) hsorted hlater hsu
          (take_tokens_nonneg hcap hrate hb)
        have hcount : (takenWithin a u (b.takes cap rate (s :: times)) : K) ≤
            (if (b.take cap rate s).1 then 1 else 0) +
              takenWithin a u ((b.take cap rate s).2.takes cap rate times) := by
          have hcons := takenWithin_cons_le a u (s, (b.take cap rate s).1)
            ((b.take cap rate s).2.takes cap rate times)
          exact_mod_cast hcons
        have hleft : (b.take cap rate s).2.level cap rate s ≤
            b.level cap rate s - if (b.take cap rate s).1 then 1 else 0 :=
          take_tokens (b := b) ▸ level_take
        have hrise : b.level cap rate s ≤ b.level cap rate t + rate * (s - t) := level_le_add hrate hs
        linarith [mul_sub rate u s, mul_sub rate s t, mul_sub rate u t]
      · have hnone : takenWithin a u (b.takes cap rate (s :: times)) = 0 := by
          refine takenWithin_eq_zero fun p hp => .inl ?_
          have hmem := mem_takes hp
          rcases List.mem_cons.mp hmem with heq | hmem
          · rw [heq]
            exact not_le.mp hsu
          · exact lt_of_lt_of_le (not_le.mp hsu) (hlater _ hmem)
        have hspan : 0 ≤ rate * (u - t) := mul_nonneg hrate (by linarith)
        rw [hnone, Nat.cast_zero]
        linarith

/-- **The window bound.** Between `a` and `u`, at most `cap + rate * (u - a)` attempts succeed. -/
theorem taken_le {a u : K} (hcap : 0 ≤ cap) (hrate : 0 ≤ rate) (hau : a ≤ u) {times : List K}
    (hsorted : times.Pairwise fun s s' => s ≤ s') (hb : 0 ≤ b.tokens) :
    (takenWithin a u (b.takes cap rate times) : K) ≤ cap + rate * (u - a) := by
  induction times generalizing b with
  | nil =>
      have hspan : 0 ≤ rate * (u - a) := mul_nonneg hrate (by linarith)
      simp only [takes, takenWithin, List.filter_nil, List.length_nil, Nat.cast_zero]
      linarith
  | cons s times ih =>
      obtain ⟨hlater, hrest⟩ := List.pairwise_cons.mp hsorted
      by_cases hsa : s < a
      · have hskip : takenWithin a u (b.takes cap rate (s :: times)) =
            takenWithin a u ((b.take cap rate s).2.takes cap rate times) := by
          simp [takes, takenWithin, not_le.mpr hsa]
        rw [hskip]
        exact ih hrest (take_tokens_nonneg hcap hrate hb)
      · have hfirst : ∀ t ∈ s :: times, a ≤ t := by
          intro t ht
          rcases List.mem_cons.mp ht with rfl | ht
          · exact not_lt.mp hsa
          · exact le_trans (not_lt.mp hsa) (hlater t ht)
        have hbound := taken_le_level hcap hrate (s :: times) hsorted hfirst hau hb a
        have hlevel : b.level cap rate a ≤ cap := level_le
        linarith

end order

end TokenBucket

end SsoGateway.Lib
