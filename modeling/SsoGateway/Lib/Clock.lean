import SsoGateway.Lib.Prog

/-!
# Worlds that carry a clock

The environment decides the instant of every call. A handler over worlds that carry the instant of the
last call lets an assertion compare the next instant with it.

* `Handler.clocked` — the handler; `run_clocked` — it changes nothing else of a run.

Nothing here is about a particular service.
-/

namespace SsoGateway.Lib

variable {S : Sig} {C W α τ : Type}

/-- A handler over worlds that carry the instant of the last call. -/
def Handler.clocked (h : Handler S C W) (instant : C → τ) : Handler S C (W × τ) :=
  fun op c s => ((h op c s.1).1, (h op c s.1).2, instant c)

/-- A clocked run is the plain run, and an instant. -/
theorem Prog.run_clocked (h : Handler S C W) (instant : C → τ) (p : Prog S α) (o : ℕ → C) (s : W × τ) :
    (p.run (h.clocked instant) o s).1 = (p.run h o s.1).1 ∧
      (p.run (h.clocked instant) o s).2.1 = (p.run h o s.1).2 := by
  induction p generalizing o s with
  | pure a => exact ⟨rfl, rfl⟩
  | call op k ih => exact ih _ (fun n => o (n + 1)) (h.clocked instant op (o 0) s).2

end SsoGateway.Lib
