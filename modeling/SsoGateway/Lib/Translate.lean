import SsoGateway.Lib.Precedence

/-!
# Programs of one signature as programs of another

A program whose calls are each carried out by a program of a larger signature.

* `Prog.translate` — the translation.
* `calls_translate`, `results_translate`, `sat_translate` — what was proved of the program holds of its translation.

Nothing here is about a particular service.
-/

namespace SsoGateway.Lib.Prog

variable {S T : Sig} {C W α β ε : Type} {f : (op : S.Op) → Prog T (S.Res op)}

/-- Every call of the program, carried out by `f`. -/
def translate (f : (op : S.Op) → Prog T (S.Res op)) : Prog S α → Prog T α
  | .pure a => .pure a
  | .call op k => (f op).bind fun r => (k r).translate f

/-- The same for a program that may end in an error. -/
def translateT (f : (op : S.Op) → Prog T (S.Res op)) (x : ExceptT ε (Prog S) α) :
    ExceptT ε (Prog T) α := ExceptT.mk (x.run.translate f)

theorem calls_translate {P : S.Op → Prop} {P' : T.Op → Prop} {p : Prog S α} (hp : p.Calls P)
    (hf : ∀ op, P op → (f op).Calls P') : (p.translate f).Calls P' := by
  induction p with
  | pure a => trivial
  | call op k ih => exact calls_bind (hf op hp.1) fun r => ih r (hp.2 r)

/-- What every result of the program satisfies, every result of its translation satisfies. -/
theorem results_translate {Q : α → Prop} {p : Prog S α}
    (hp : p.Before (fun _ _ => False) (fun _ => False) Q) :
    (p.translate f).Before (fun _ _ => False) (fun _ => False) Q := by
  induction p with
  | pure a => exact hp
  | call op k ih =>
      have hany : (f op).Before (fun _ _ => False) (fun _ => False) fun _ => True :=
        ((calls_true (f op)).mono fun _ _ => id).before
      exact before_bind hany fun r _ => ih r (hp.2 r id)

/-- A specification of the program is one of its translation, if it is one call by call. -/
theorem sat_translate {hS : Handler S C W} {KS : Contract S C W} {h : Handler T C W}
    {K : Contract T C W} {Q : α → W → Prop} {p : Prog S α} {w : W}
    (hf : ∀ (op : S.Op) (Q : S.Res op → W → Prop) w,
      (perform op).Sat hS KS Q w → (f op).Sat h K Q w)
    (hp : p.Sat hS KS Q w) : (p.translate f).Sat h K Q w := by
  induction p generalizing w with
  | pure a => exact hp
  | call op k ih =>
      refine sat_bind.mpr ((hf op (fun r w' => (k r).Sat hS KS Q w') w hp).post fun r w' hr => ?_)
      exact ih r hr

end SsoGateway.Lib.Prog
