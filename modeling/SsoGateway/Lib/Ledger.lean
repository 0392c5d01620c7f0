import SsoGateway.Lib.History

/-!
# Promises about the past

Programs that run interleaved, where each call is promised something of the world and of the calls
made so far. An invariant of world and past is kept by every promised call; it is what a program may
use of the others.

* `Ledger` — the invariant and the promise; `Ledger.contract` — the contract of one program.
* `Ledger.Sound` — a promised call keeps the invariant.
* `sat_perform`, `sat_calls` — the rules for one call, and for a program whose calls need no promise.
* `Ledger.run`, `run_returned` — along every schedule the invariant holds at each call, its promise
  is kept, and a program that has returned satisfies its postcondition.

Nothing here is about a particular service.
-/

namespace SsoGateway.Lib

/-- A world with the calls made so far, newest first. -/
abbrev Past (S : Sig) (ι C W : Type) := W × List (Event S (ι × C) W)

/-- An invariant of world and past, and what is promised of a call. -/
structure Ledger (S : Sig) (ι C W : Type) where
  /-- Holds whenever a call is made. -/
  inv : Past S ι C W → Prop
  /-- What is promised of a call when it is made. -/
  promise : S.Op → ι × C → Past S ι C W → Prop

namespace Ledger

variable {S : Sig} {ι C W α β ε : Type}

/-- The contract of program `i`: the past grows, the invariant is kept, and its calls are promised. -/
def contract (L : Ledger S ι C W) (i : ι) : Contract S (ι × C) (Past S ι C W) where
  rely s s' := s.2 <:+ s'.2 ∧ (L.inv s → L.inv s')
  assume _ c _ := c.1 = i
  guar := L.promise

/-- A promised call keeps the invariant. -/
def Sound (L : Ledger S ι C W) (h : Handler S (ι × C) W) : Prop :=
  ∀ op c s, L.inv s → L.promise op c s → L.inv (h.traced op c s).2

section rules

variable {L : Ledger S ι C W} {h : Handler S (ι × C) W} {i : ι}

/-- One call. -/
theorem sat_perform (hsound : L.Sound h) {op : S.Op} {Q : S.Res op → Past S ι C W → Prop}
    {s : Past S ι C W} (hs : L.inv s)
    (hcall : ∀ c s', c.1 = i → s.2 <:+ s'.2 → L.inv s' → L.promise op c s' ∧
      (L.inv (h.traced op c s').2 → Q (h op c s'.1).1 (h.traced op c s').2)) :
    (Prog.perform op : Prog S (S.Res op)).Sat h.traced (L.contract i) Q s := by
  intro s' hrely c hc
  have hs' := hrely.2 hs
  obtain ⟨hpromise, hQ⟩ := hcall c s' hc hrely.1 hs'
  exact ⟨hpromise, hQ (hsound op c s' hs' hpromise)⟩

/-- A program whose calls need no promise keeps the invariant, and what is known of the past. -/
theorem sat_calls (hsound : L.Sound h) {p : Prog S α}
    (hp : p.Calls fun op => ∀ c s, L.promise op c s) {s : Past S ι C W} (hs : L.inv s) :
    p.Sat h.traced (L.contract i) (fun _ s' => L.inv s' ∧ s.2 <:+ s'.2) s := by
  refine hp.sat (I := fun s' => L.inv s' ∧ s.2 <:+ s'.2) ?_ ?_ ⟨hs, List.suffix_refl s.2⟩
  · intro s₁ s₂ h₁ hrely
    exact ⟨hrely.2 h₁.1, h₁.2.trans hrely.1⟩
  · intro op c s₁ hop h₁ _
    exact ⟨hop c s₁, hsound op c s₁ h₁.1 (hop c s₁), h₁.2.trans (List.suffix_cons _ _)⟩

/-- Sequencing after a part whose calls need no promise. -/
theorem sat_run_bind_calls (hsound : L.Sound h) {x : ExceptT ε (Prog S) α}
    {f : α → ExceptT ε (Prog S) β} {Q : Except ε β → Past S ι C W → Prop} {s : Past S ι C W}
    (hx : x.run.Calls fun op => ∀ c s, L.promise op c s) (hs : L.inv s)
    (herror : ∀ e s', L.inv s' → s.2 <:+ s'.2 → Q (.error e) s')
    (hf : ∀ a s', L.inv s' → s.2 <:+ s'.2 → (f a).run.Sat h.traced (L.contract i) Q s') :
    (x >>= f).run.Sat h.traced (L.contract i) Q s := by
  refine Prog.sat_run_bind.mpr ((sat_calls hsound hx hs).post fun r s' hs' => ?_)
  cases r with
  | ok a => exact hf a s' hs'.1 hs'.2
  | error e => exact herror e s' hs'.1 hs'.2

end rules

/-- **Promises are kept** along every schedule: the invariant holds whenever a call is made, and the
call is as promised. -/
theorem run [DecidableEq ι] {L : Ledger S ι C W} {h : Handler S (ι × C) W} (hsound : L.Sound h)
    {P : Pool S ι α W} (hstart : L.inv (P.world, []))
    (hP : ∀ i, (P.threads i).Sat h.traced (L.contract i) (fun _ _ => True) (P.world, []))
    (sched : List (ι × C)) :
    ∀ ev ∈ remembered [] (P.events h sched),
      L.inv ev.before ∧ L.promise ev.op ev.choice ev.before := by
  obtain ⟨-, hevents⟩ := Pool.run_remember h P sched []
  have hpromises := (Pool.sat_run (h := h.traced) (K := L.contract) (Q := fun _ _ _ => True)
    (P := P.remember []) (fun _ s => ⟨List.suffix_refl s.2, id⟩)
    (fun _ _ _ _ h₁ h₂ => ⟨h₁.1.trans h₂.1, fun hs => h₂.2 (h₁.2 hs)⟩)
    (fun _ _ _ _ _ _ => trivial)
    (fun _ _ _ op c s _ hpromise => ⟨List.suffix_cons _ _, fun hs => hsound op _ s hs hpromise⟩)
    sched hP fun _ _ => rfl).2
  rw [← hevents]
  have hinv := ((P.remember []).chained_events h.traced sched).invariant (I := L.inv) hstart
    fun ev hev hI => hsound ev.op ev.choice ev.before hI (hpromises ev hev)
  exact fun ev hev => ⟨hinv.2 ev hev, hpromises ev hev⟩

/-- Along every schedule, a program that has returned satisfies its postcondition, if the others
cannot undo it. -/
theorem run_returned [DecidableEq ι] {L : Ledger S ι C W} {h : Handler S (ι × C) W}
    (hsound : L.Sound h) {P : Pool S ι α W} {Q : ι → α → Past S ι C W → Prop}
    (hQ : ∀ i a s s', s.2 <:+ s'.2 → (L.inv s → L.inv s') → Q i a s → Q i a s')
    (hP : ∀ i, (P.threads i).Sat h.traced (L.contract i) (Q i) (P.world, []))
    (sched : List (ι × C)) {i : ι} {a : α} (hret : (P.run h sched).Returned i a) :
    Q i a ((P.run h sched).world, (P.events h sched).reverse) := by
  obtain ⟨hrun, -⟩ := Pool.run_remember h P sched []
  have hends := (Pool.sat_run (h := h.traced) (K := L.contract) (Q := Q) (P := P.remember [])
    (fun _ s => ⟨List.suffix_refl s.2, id⟩)
    (fun _ _ _ _ h₁ h₂ => ⟨h₁.1.trans h₂.1, fun hs => h₂.2 (h₁.2 hs)⟩)
    (fun i a s s' hrely hq => hQ i a s s' hrely.1 hrely.2 hq)
    (fun _ _ _ op c s _ hpromise => ⟨List.suffix_cons _ _, fun hs => hsound op _ s hs hpromise⟩)
    sched hP fun _ _ => rfl).1 i
  rw [hrun] at hends
  have hthread : ((P.run h sched).remember ((P.events h sched).reverse ++ [])).threads i = .pure a :=
    hret
  rw [hthread] at hends
  have hend : Q i a ((P.run h sched).remember ((P.events h sched).reverse ++ [])).world := hends
  simpa [Pool.remember] using hend

end Ledger

end SsoGateway.Lib
