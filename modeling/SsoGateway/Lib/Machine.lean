import Mathlib.Logic.Basic
import Mathlib.Data.Option.Basic

/-!
# Machines

A state machine whose actions may be disabled: `step s a` is the next state, or none where the action
has to wait.

* `Machine.run` — a list of actions, none of them disabled.
* `Machine.Along` — what holds of every action of a run, in the state it is taken in.
* `Machine.run_invariant` — the induction rule; `Along.of_invariant` — its form for what every action
  does.

Nothing here is about a particular service.
-/

namespace SsoGateway.Lib.Machine

variable {σ α : Type} {step : σ → α → Option σ}

/-- The state after a list of actions, if none of them is disabled. -/
def run (step : σ → α → Option σ) : σ → List α → Option σ
  | s, [] => some s
  | s, a :: as => (step s a).bind fun s' => run step s' as

/-- Every action of the run satisfies `P`, in the state it is taken in. -/
def Along (step : σ → α → Option σ) (P : σ → α → Prop) : σ → List α → Prop
  | _, [] => True
  | s, a :: as => P s a ∧ match step s a with
    | some s' => Along step P s' as
    | none => True

instance decidableAlong {P : σ → α → Prop} [∀ s a, Decidable (P s a)] :
    ∀ s as, Decidable (Along step P s as)
  | _, [] => .isTrue trivial
  | s, a :: as => by
      unfold Along
      have hrest : Decidable (match step s a with
          | some s' => Along step P s' as
          | none => True) := by
        split
        · exact decidableAlong _ as
        · exact .isTrue trivial
      exact inferInstance

/-- What holds of all actions of a list, in any state, holds along its run. -/
theorem Along.of_forall {Q : α → Prop} {s : σ} {as : List α} (hQ : ∀ a ∈ as, Q a) :
    Along step (fun _ a => Q a) s as := by
  induction as generalizing s with
  | nil => trivial
  | cons a as ih =>
      refine ⟨hQ a List.mem_cons_self, ?_⟩
      rcases step s a with _ | s'
      · trivial
      · exact ih fun b hb => hQ b (List.mem_cons_of_mem a hb)

/-- What holds of all actions holds of those of a run. -/
theorem Along.and_forall {P : σ → α → Prop} {Q : α → Prop} {s : σ} {as : List α}
    (hP : Along step P s as) (hQ : ∀ a ∈ as, Q a) : Along step (fun s a => Q a ∧ P s a) s as := by
  induction as generalizing s with
  | nil => trivial
  | cons a as ih =>
      refine ⟨⟨hQ a List.mem_cons_self, hP.1⟩, ?_⟩
      have hrest := hP.2
      rcases hstep : step s a with _ | s'
      · trivial
      · rw [hstep] at hrest
        exact ih hrest fun b hb => hQ b (List.mem_cons_of_mem a hb)

/-- **Induction along a run.** What every action keeps that satisfies `P`, a run keeps. -/
theorem run_invariant {I : σ → Prop} {P : σ → α → Prop}
    (hstep : ∀ s a s', I s → P s a → step s a = some s' → I s') {s s' : σ} {as : List α}
    (hs : I s) (hP : Along step P s as) (hrun : run step s as = some s') : I s' := by
  induction as generalizing s with
  | nil =>
      simp only [run, Option.some.injEq] at hrun
      exact hrun ▸ hs
  | cons a as ih =>
      obtain ⟨v, hv, hrest⟩ := Option.bind_eq_some_iff.mp hrun
      unfold Along at hP
      rw [hv] at hP
      exact ih (hstep s a v hs hP.1 hv) hP.2 hrest

/-- **What holds along a run.** If every action that satisfies `P` keeps `I`, and does `Q` where `I`
holds, then every action of a run does `Q`. -/
theorem Along.of_invariant {I : σ → Prop} {P Q : σ → α → Prop}
    (hstep : ∀ s a s', I s → P s a → step s a = some s' → I s')
    (hQ : ∀ s a, I s → P s a → Q s a) {s : σ} {as : List α} (hs : I s) (hP : Along step P s as) :
    Along step Q s as := by
  induction as generalizing s with
  | nil => trivial
  | cons a as ih =>
      refine ⟨hQ s a hs hP.1, ?_⟩
      have hrest := hP.2
      rcases hv : step s a with _ | s'
      · trivial
      · rw [hv] at hrest
        exact ih (hstep s a s' hs hP.1 hv) hrest

/-- A run of two lists of actions is a run of the first, and then one of the second. -/
theorem run_append {s : σ} {as bs : List α} :
    run step s (as ++ bs) = (run step s as).bind fun s' => run step s' bs := by
  induction as generalizing s with
  | nil => rfl
  | cons a as ih =>
      simp only [List.cons_append, run, Option.bind_assoc]
      exact congrArg _ (funext fun s' => ih)

end SsoGateway.Lib.Machine
