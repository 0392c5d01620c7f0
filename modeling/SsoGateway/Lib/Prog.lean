import Mathlib.Logic.Function.Basic
import Mathlib.Data.List.Basic

/-!
# Programs over a signature of calls, their runs and their events

A service is code that makes calls to stores and backends and decides on the answers. It is
embedded as a *call tree*: `Prog S α` is either a finished value or one call of the signature
`S` with a continuation for every answer.

* `Handler S C W` — what one call does to a world `W`. The type `C` holds whatever the
  environment decides for that call (a failure, a generated identifier, an instant), so a
  handler is a function and runs are computable.
* `Prog.run h p o w` — the run of `p` from `w` under the choices `o 0, o 1, …`.
* `Prog.events h p o w` — the calls of that run in order, each with its choice and the world
  it was made in. A property of "every call the code makes" is a property of this list.
* `Handler.traced` — the same handler over worlds that also carry the calls made so far, newest
  first (`run_traced`); an assertion about such a world may speak of the past.

Nothing here is about a particular service.
-/

namespace SsoGateway.Lib

/-- A signature: the calls a program may make, and the type of the answer to each. -/
structure Sig where
  /-- The calls. -/
  Op : Type
  /-- The answer to a call. -/
  Res : Op → Type

/-- A program: a call tree over the signature `S`. -/
inductive Prog (S : Sig) (α : Type) : Type where
  /-- The program has finished. -/
  | pure (a : α) : Prog S α
  /-- One call, and how to go on with each answer. -/
  | call (op : S.Op) (k : S.Res op → Prog S α) : Prog S α

/-- What a call does: from the environment's choice and the world, an answer and a new world. -/
abbrev Handler (S : Sig) (C W : Type) := (op : S.Op) → C → W → S.Res op × W

/-- One call of a run, with the choice it was answered by and the world it was made in. -/
structure Event (S : Sig) (C W : Type) where
  /-- The call. -/
  op : S.Op
  /-- The environment's choice for it. -/
  choice : C
  /-- The world just before the call. -/
  before : W

/-- The answer the call of an event received. -/
def Event.res {S : Sig} {C W : Type} (h : Handler S C W) (ev : Event S C W) : S.Res ev.op :=
  (h ev.op ev.choice ev.before).1

/-- The world just after the call of an event. -/
def Event.after {S : Sig} {C W : Type} (h : Handler S C W) (ev : Event S C W) : W :=
  (h ev.op ev.choice ev.before).2

/-- Two checks in a row succeed if both do. -/
theorem except_bind_eq_ok {ε α β : Type} {x : Except ε α} {f : α → Except ε β} {b : β} :
    (x >>= f) = .ok b ↔ ∃ a, x = .ok a ∧ f a = .ok b := by
  cases x with
  | ok a =>
      constructor
      · intro h
        exact ⟨a, rfl, h⟩
      · rintro ⟨a', ha', h⟩
        cases ha'
        exact h
  | error e =>
      refine iff_of_false nofun ?_
      rintro ⟨a, ha, -⟩
      cases ha

/-- A check of every item of a list succeeds just if each does. -/
theorem except_forM_eq_ok {ε α : Type} {f : α → Except ε Unit} {l : List α} :
    l.forM f = .ok () ↔ ∀ a ∈ l, f a = .ok () := by
  induction l with
  | nil => simp [pure, Except.pure]
  | cons a l ih =>
      have hcons : (a :: l).forM f = f a >>= fun _ => l.forM f := rfl
      rw [hcons, except_bind_eq_ok]
      constructor
      · rintro ⟨_, ha, hrest⟩ b hb
        rcases List.mem_cons.mp hb with rfl | hb
        · exact ha
        · exact ih.mp hrest b hb
      · intro hall
        exact ⟨(), hall a List.mem_cons_self, ih.mpr fun b hb => hall b (List.mem_cons_of_mem a hb)⟩

namespace Prog

variable {S : Sig} {C W α β γ : Type}

/-! ## The monad of programs -/

/-- Sequential composition: graft a program at every finished leaf. -/
def bind : Prog S α → (α → Prog S β) → Prog S β
  | .pure a, f => f a
  | .call op k, f => .call op fun r => (k r).bind f

/-- The program that makes one call and returns its answer. -/
def perform (op : S.Op) : Prog S (S.Res op) := .call op .pure

instance : Monad (Prog S) where
  pure := Prog.pure
  bind := Prog.bind

theorem bind_pure_right (p : Prog S α) : p.bind .pure = p := by
  induction p with
  | pure a => rfl
  | call op k ih => exact congrArg (Prog.call op) (funext ih)

theorem bind_bind (p : Prog S α) (f : α → Prog S β) (g : β → Prog S γ) :
    (p.bind f).bind g = p.bind fun a => (f a).bind g := by
  induction p with
  | pure a => rfl
  | call op k ih => exact congrArg (Prog.call op) (funext ih)

instance : LawfulMonad (Prog S) :=
  LawfulMonad.mk' (Prog S) bind_pure_right (fun _ _ => rfl) bind_bind

/-- Run a fallible call and pass its error on, converted: `.map_err(f)?`. -/
def orThrow {ε ε' : Type} (f : ε → ε') (p : Prog S (Except ε α)) : ExceptT ε' (Prog S) α :=
  ExceptT.mk (Except.mapError f <$> p)

/-- Run a call and look at its answer, whatever it is. -/
def attempt {ε : Type} (p : Prog S α) : ExceptT ε (Prog S) α := ExceptT.lift p

/-! ## Runs -/

/-- The run of a program from a world under a stream of choices, one for each call. -/
def run (h : Handler S C W) : Prog S α → (ℕ → C) → W → α × W
  | .pure a, _, w => (a, w)
  | .call op k, o, w => (k (h op (o 0) w).1).run h (fun n => o (n + 1)) (h op (o 0) w).2

/-- The calls of the run, in the order they are made. -/
def events (h : Handler S C W) : Prog S α → (ℕ → C) → W → List (Event S C W)
  | .pure _, _, _ => []
  | .call op k, o, w =>
      ⟨op, o 0, w⟩ :: (k (h op (o 0) w).1).events h (fun n => o (n + 1)) (h op (o 0) w).2

/-- The choices of a run's calls are among those it was given. -/
theorem choice_of_mem_events {h : Handler S C W} {p : Prog S α} {o : ℕ → C} {w : W}
    {ev : Event S C W} (hev : ev ∈ p.events h o w) : ∃ n, ev.choice = o n := by
  induction p generalizing o w with
  | pure a => cases hev
  | call op k ih =>
      rcases List.mem_cons.mp hev with rfl | hev
      · exact ⟨0, rfl⟩
      · obtain ⟨n, hn⟩ := ih _ hev
        exact ⟨n + 1, hn⟩

end Prog

/-! ## Worlds that remember the calls -/

/-- A handler over worlds that carry the calls made so far, newest first. -/
def Handler.traced {S : Sig} {C W : Type} (h : Handler S C W) :
    Handler S C (W × List (Event S C W)) :=
  fun op c s => ((h op c s.1).1, (h op c s.1).2, ⟨op, c, s.1⟩ :: s.2)

/-- A traced run is the plain run together with its calls. -/
theorem Prog.run_traced {S : Sig} {C W α : Type} (h : Handler S C W) (p : Prog S α) (o : ℕ → C)
    (w : W) (tr : List (Event S C W)) :
    p.run h.traced o (w, tr) =
      ((p.run h o w).1, (p.run h o w).2, (p.events h o w).reverse ++ tr) := by
  induction p generalizing o w tr with
  | pure a => rfl
  | call op k ih =>
      have step := ih (h op (o 0) w).1 (fun n => o (n + 1)) (h op (o 0) w).2 (⟨op, o 0, w⟩ :: tr)
      simpa [Prog.run, Prog.events, Handler.traced] using step

end SsoGateway.Lib
