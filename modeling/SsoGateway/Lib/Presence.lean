import Mathlib.Order.Nat
import SsoGateway.Lib.History

/-!
# What is there at most once

A measure of the world that no call raises by more than one, and only calls of a certain kind raise at all:
the items under a name, say, of which one is added by each call that adds one. Along a chain of calls it is
bounded by what was there and what was added. If that is one at most, what has gone is gone for good.

* `Raised` — only calls of the kind raise the measure, each by one at most.
* `Raised.bound` — the bound along a chain.
* `Raised.gone` — once it was there and has gone, it is not there again.
* `taken_once` — what a call takes only where it is free, and leaves taken, is taken once.

Nothing here is about a particular service.
-/

namespace SsoGateway.Lib

variable {S : Sig} {C W : Type}

/-- Only the calls of the kind `adds` raise the measure, each by one at most. -/
def Raised (h : Handler S C W) (measure : W → ℕ) (adds : Event S C W → Prop) [DecidablePred adds] : Prop :=
  ∀ ev, measure (ev.after h) ≤ measure ev.before + if adds ev then 1 else 0

namespace Raised

variable {h : Handler S C W} {measure : W → ℕ} {adds : Event S C W → Prop} [DecidablePred adds]
  {w w' : W}

/-- At the end of a chain there is no more than there was, and was added. -/
theorem bound (hraised : Raised h measure adds) {evs : List (Event S C W)} (hc : Chained h w evs w') :
    measure w' ≤ measure w + evs.countP fun ev => adds ev := by
  induction evs generalizing w with
  | nil =>
      cases hc
      simp
  | cons ev evs ih =>
      obtain ⟨rfl, hc⟩ := hc
      have hrest := ih hc
      have hstep := hraised ev
      rw [List.countP_cons]
      by_cases hadds : adds ev
      · simp only [hadds, if_true, decide_true] at hstep ⊢
        omega
      · simp only [hadds, if_false, decide_false, Bool.false_eq_true] at hstep ⊢
        omega

/-- What was there when some call was made was there at the start, or added before the call. -/
theorem bound_before (hraised : Raised h measure adds) {pre post : List (Event S C W)} {ev : Event S C W}
    (hc : Chained h w (pre ++ ev :: post) w') :
    measure ev.before ≤ measure w + pre.countP fun ev => adds ev := by
  obtain ⟨v, hpre, rfl, -⟩ := Chained.append.mp hc
  exact hraised.bound hpre

/-- **Gone for good.** What is there once at most, and was there, is not there after a call that leaves
none. -/
theorem gone (hraised : Raised h measure adds) {pre post : List (Event S C W)} {taken early : Event S C W}
    (hc : Chained h w (pre ++ taken :: post) w')
    (honce : measure w + (pre ++ taken :: post).countP (fun ev => adds ev) ≤ 1) (hearly : early ∈ pre)
    (hthere : 0 < measure early.before) (hnone : measure (taken.after h) = 0) :
    ∀ ev ∈ post, measure ev.before = 0 := by
  intro ev hev
  obtain ⟨mid, last, rfl⟩ := List.append_of_mem hev
  obtain ⟨first, rest, rfl⟩ := List.append_of_mem hearly
  obtain ⟨v, hpre, hbefore, hpost⟩ := Chained.append.mp hc
  have hfirst := hraised.bound_before hpre
  have hlater := hraised.bound_before hpost
  rw [hnone] at hlater
  simp only [List.countP_append, List.countP_cons] at honce
  omega

end Raised

/-- **Taken once.** A call that takes something finds it free and leaves it taken, and no call frees it; so
along a chain one call at most takes it. -/
theorem taken_once {h : Handler S C W} (taken : W → Prop) (takes : Event S C W → Prop) {w w' : W}
    (hkept : ∀ ev : Event S C W, taken ev.before → taken (ev.after h))
    (htakes : ∀ ev : Event S C W, takes ev → ¬ taken ev.before ∧ taken (ev.after h))
    {pre post : List (Event S C W)} {ev : Event S C W} (hc : Chained h w (pre ++ ev :: post) w')
    (hev : takes ev) : ∀ ev' ∈ post, ¬ takes ev' := by
  intro ev' hev' hagain
  obtain ⟨mid, last, rfl⟩ := List.append_of_mem hev'
  obtain ⟨u, -, -, hpost⟩ := Chained.append.mp hc
  obtain ⟨u', hmid, hbefore, -⟩ := Chained.append.mp hpost
  have hstill := (hmid.invariant (htakes ev hev).2 fun ev _ => hkept ev).1
  rw [← hbefore] at hstill
  exact (htakes ev' hagain).1 hstill

end SsoGateway.Lib
