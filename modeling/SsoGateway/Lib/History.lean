import SsoGateway.Lib.Contract

/-!
# Histories of calls

The calls of a run follow one another: each is made in the world the one before it left. Properties
of whole runs are proved along this chain, with the calls made so far at hand.

* `Chained h w evs w'` — the calls `evs` lead from `w` to `w'`.
* `Prog.chained_events`, `Pool.chained_events` — runs and schedules are chains.
* `Chained.invariant` — the induction rule: what one call keeps, a chain keeps.
* `remembered`, `Prog.events_traced`, `Pool.run_remember` — the same run in worlds that carry the
  calls so far, so that an invariant may speak of them.

Nothing here is about a particular service.
-/

namespace SsoGateway.Lib

variable {S : Sig} {C W α ι : Type}

/-- The calls lead from the first world to the last. -/
def Chained (h : Handler S C W) : W → List (Event S C W) → W → Prop
  | w, [], w' => w = w'
  | w, ev :: evs, w' => ev.before = w ∧ Chained h (ev.after h) evs w'

/-! ## Runs are chains -/

theorem Prog.chained_events (h : Handler S C W) (p : Prog S α) (o : ℕ → C) (w : W) :
    Chained h w (p.events h o w) (p.run h o w).2 := by
  induction p generalizing o w with
  | pure a => rfl
  | call op k ih => exact ⟨rfl, ih _ _ _⟩

theorem Pool.chained_events [DecidableEq ι] (h : Handler S (ι × C) W) (P : Pool S ι α W)
    (sched : List (ι × C)) : Chained h P.world (P.events h sched) (P.run h sched).world := by
  induction sched generalizing P with
  | nil => rfl
  | cons ic sched ih =>
      obtain ⟨i, c⟩ := ic
      have hrest := ih (P.step h i c)
      simp only [Pool.events, Pool.run]
      rcases hi : P.threads i with a | ⟨op, k⟩
      · have hstep : P.step h i c = P := by simp [Pool.step, hi]
        rw [hstep] at hrest ⊢
        simpa [Pool.stepEvents, hi] using hrest
      · have hworld : (P.step h i c).world = (h op (i, c) P.world).2 := by simp [Pool.step, hi]
        rw [hworld] at hrest
        simpa [Pool.stepEvents, hi, Chained, Event.after] using hrest

/-! ## Along a chain -/

namespace Chained

variable {h : Handler S C W} {w w' : W} {evs : List (Event S C W)}

theorem append {evs' : List (Event S C W)} :
    Chained h w (evs ++ evs') w' ↔ ∃ v, Chained h w evs v ∧ Chained h v evs' w' := by
  induction evs generalizing w with
  | nil =>
      constructor
      · intro hc
        exact ⟨w, rfl, hc⟩
      · rintro ⟨v, rfl, hc⟩
        exact hc
  | cons ev evs ih =>
      simp only [List.cons_append, Chained, ih]
      constructor
      · rintro ⟨hb, v, hv, hc⟩
        exact ⟨v, ⟨hb, hv⟩, hc⟩
      · rintro ⟨v, ⟨hb, hv⟩, hc⟩
        exact ⟨hb, v, hv, hc⟩

/-- **Induction along a chain.** What holds at the beginning and is kept by every call holds when
each call is made, and at the end. -/
theorem invariant {I : W → Prop} (hc : Chained h w evs w') (hw : I w)
    (hstep : ∀ ev ∈ evs, I ev.before → I (ev.after h)) : I w' ∧ ∀ ev ∈ evs, I ev.before := by
  induction evs generalizing w with
  | nil =>
      cases hc
      exact ⟨hw, fun ev hev => absurd hev List.not_mem_nil⟩
  | cons ev evs ih =>
      obtain ⟨rfl, hc⟩ := hc
      have hnext := hstep ev List.mem_cons_self hw
      obtain ⟨hend, hrest⟩ := ih hc hnext fun e he => hstep e (List.mem_cons_of_mem ev he)
      refine ⟨hend, fun e he => ?_⟩
      rcases List.mem_cons.mp he with rfl | he
      · exact hw
      · exact hrest e he

/-- What holds when one of the calls is made, and is kept by the calls, holds at the end. -/
theorem of_event {J : W → Prop} (hc : Chained h w evs w') {ev : Event S C W} (hev : ev ∈ evs)
    (hJ : J ev.before) (hstep : ∀ ev ∈ evs, J ev.before → J (ev.after h)) : J w' := by
  obtain ⟨pre, post, rfl⟩ := List.append_of_mem hev
  obtain ⟨v, -, rfl, hpost⟩ := append.mp hc
  refine (invariant hpost (hstep ev hev hJ) fun e he => hstep e ?_).1
  exact List.mem_append_right pre (List.mem_cons_of_mem ev he)

end Chained

/-! ## The calls so far -/

/-- The calls of a run, each in a world that remembers the calls before it, newest first. -/
def remembered (past : List (Event S C W)) :
    List (Event S C W) → List (Event S C (W × List (Event S C W)))
  | [] => []
  | ev :: evs => ⟨ev.op, ev.choice, ev.before, past⟩ :: remembered (ev :: past) evs

theorem mem_remembered {past evs : List (Event S C W)} {e : Event S C (W × List (Event S C W))} :
    e ∈ remembered past evs ↔ ∃ pre ev post, evs = pre ++ ev :: post ∧
      e = ⟨ev.op, ev.choice, ev.before, pre.reverse ++ past⟩ := by
  induction evs generalizing past with
  | nil => simp [remembered]
  | cons ev₀ evs ih =>
      rw [remembered, List.mem_cons, ih]
      constructor
      · rintro (rfl | ⟨pre, ev, post, rfl, rfl⟩)
        · exact ⟨[], ev₀, evs, rfl, rfl⟩
        · exact ⟨ev₀ :: pre, ev, post, rfl, by simp⟩
      · rintro ⟨pre, ev, post, hsplit, rfl⟩
        rcases pre with _ | ⟨ev₁, pre⟩
        · obtain ⟨rfl, rfl⟩ := List.cons_eq_cons.mp hsplit
          exact .inl rfl
        · obtain ⟨rfl, rfl⟩ := List.cons_eq_cons.mp hsplit
          exact .inr ⟨pre, ev, post, rfl, by simp⟩

theorem append_remembered {past evs evs' : List (Event S C W)} :
    remembered past (evs ++ evs') = remembered past evs ++ remembered (evs.reverse ++ past) evs' := by
  induction evs generalizing past with
  | nil => rfl
  | cons ev evs ih => simp [remembered, ih]

theorem Prog.events_traced (h : Handler S C W) (p : Prog S α) (o : ℕ → C) (w : W)
    (past : List (Event S C W)) :
    p.events h.traced o (w, past) = remembered past (p.events h o w) := by
  induction p generalizing o w past with
  | pure a => rfl
  | call op k ih =>
      have hrest := ih (h op (o 0) w).1 (fun n => o (n + 1)) (h op (o 0) w).2 (⟨op, o 0, w⟩ :: past)
      simp only [Prog.events, remembered, ← hrest]
      rfl

/-- The pool in worlds that remember the calls. -/
def Pool.remember (P : Pool S ι α W) (past : List (Event S (ι × C) W)) :
    Pool S ι α (W × List (Event S (ι × C) W)) := ⟨(P.world, past), P.threads⟩

/-- One step of a pool that remembers. -/
theorem Pool.step_remember [DecidableEq ι] (h : Handler S (ι × C) W) (P : Pool S ι α W) (i : ι)
    (c : C) (past : List (Event S (ι × C) W)) :
    (P.remember past).step h.traced i c =
        (P.step h i c).remember ((P.stepEvents i c).reverse ++ past) ∧
      (P.remember past).stepEvents i c = remembered past (P.stepEvents i c) := by
  unfold Pool.remember Pool.step Pool.stepEvents
  rcases hi : P.threads i with a | ⟨op, k⟩
  · exact ⟨rfl, rfl⟩
  · exact ⟨rfl, rfl⟩

/-- A schedule of a pool that remembers is the schedule of the pool, with its calls. -/
theorem Pool.run_remember [DecidableEq ι] (h : Handler S (ι × C) W) (P : Pool S ι α W)
    (sched : List (ι × C)) (past : List (Event S (ι × C) W)) :
    (P.remember past).run h.traced sched =
        (P.run h sched).remember ((P.events h sched).reverse ++ past) ∧
      (P.remember past).events h.traced sched = remembered past (P.events h sched) := by
  induction sched generalizing P past with
  | nil => exact ⟨rfl, rfl⟩
  | cons ic sched ih =>
      obtain ⟨i, c⟩ := ic
      obtain ⟨hstep, hevents⟩ := Pool.step_remember h P i c past
      obtain ⟨hrun, hrest⟩ := ih (P.step h i c) ((P.stepEvents i c).reverse ++ past)
      simp only [Pool.run, Pool.events, hstep, hevents, hrun, hrest, append_remembered]
      simp

end SsoGateway.Lib
