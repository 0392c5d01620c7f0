import SsoGateway.Lib.Prog

/-!
# Contracts: pre- and postconditions for programs, alone and interleaved

`Sat h K Q p w` says that the program `p`, started in the world `w`, respects the contract `K`
and ends in `Q`. A contract has three parts:

* `rely` — how the rest of the system may change the world between two calls of `p`;
* `assume` — what may be assumed of a call at the moment it is made (of the environment's choice
  for it, or of the world it meets);
* `guar` — what `p` promises of every call it makes.

The rules follow the tree: `sat_bind` for sequencing, `sat_perform` for one call. Two theorems
bring contracts down to runs: `Sat.run_events` for a program that runs alone, and `Pool.sat_run`
for any number of programs whose calls are interleaved by a scheduler, each relying on what the
others guarantee.
-/

namespace SsoGateway.Lib

/-- A contract over worlds `W` for programs of signature `S`. -/
structure Contract (S : Sig) (C W : Type) where
  /-- What the environment may do to the world between two calls. -/
  rely : W → W → Prop
  /-- What is assumed of a call when it is made. -/
  assume : S.Op → C → W → Prop
  /-- What is promised of a call when it is made. -/
  guar : S.Op → C → W → Prop

/-- The contract of a program that runs alone: the world does not change between two calls. -/
def Contract.alone {S : Sig} {C W : Type} (assume guar : S.Op → C → W → Prop) :
    Contract S C W where
  rely w w' := w = w'
  assume := assume
  guar := guar

namespace Prog

variable {S : Sig} {C W α β : Type}

/-- `p` respects `K` from `w` and ends in `Q`. -/
def Sat (h : Handler S C W) (K : Contract S C W) (Q : α → W → Prop) : Prog S α → W → Prop
  | .pure a, w => Q a w
  | .call op k, w => ∀ w', K.rely w w' → ∀ c, K.assume op c w' →
      K.guar op c w' ∧ (k (h op c w').1).Sat h K Q (h op c w').2

section rules

variable {h : Handler S C W} {K : Contract S C W}

@[simp] theorem sat_pure {Q : α → W → Prop} {a : α} {w : W} :
    (Pure.pure a : Prog S α).Sat h K Q w ↔ Q a w := Iff.rfl

theorem sat_call {Q : α → W → Prop} {op : S.Op} {k : S.Res op → Prog S α} {w : W} :
    (Prog.call op k).Sat h K Q w ↔ ∀ w', K.rely w w' → ∀ c, K.assume op c w' →
      K.guar op c w' ∧ (k (h op c w').1).Sat h K Q (h op c w').2 := Iff.rfl

@[simp] theorem sat_bind {Q : β → W → Prop} {p : Prog S α} {f : α → Prog S β} {w : W} :
    (p >>= f).Sat h K Q w ↔ p.Sat h K (fun a w' => (f a).Sat h K Q w') w := by
  induction p generalizing w with
  | pure a => rfl
  | call op k ih =>
      change (Prog.call op fun r => k r >>= f).Sat h K Q w ↔ _
      simp only [sat_call, ih]

@[simp] theorem sat_map {Q : β → W → Prop} {p : Prog S α} {f : α → β} {w : W} :
    (f <$> p).Sat h K Q w ↔ p.Sat h K (fun a w' => Q (f a) w') w := by
  rw [← bind_pure_comp]
  exact sat_bind

@[simp] theorem sat_perform {op : S.Op} {Q : S.Res op → W → Prop} {w : W} :
    (perform op : Prog S (S.Res op)).Sat h K Q w ↔ ∀ w', K.rely w w' → ∀ c, K.assume op c w' →
      K.guar op c w' ∧ Q (h op c w').1 (h op c w').2 := Iff.rfl

@[simp] theorem sat_ite {Q : α → W → Prop} {b : Prop} [Decidable b] {p q : Prog S α} {w : W} :
    (if b then p else q).Sat h K Q w ↔ if b then p.Sat h K Q w else q.Sat h K Q w := by
  split <;> rfl

/-- Consequence, in all four positions of a specification. -/
theorem Sat.mono {K' : Contract S C W} {Q Q' : α → W → Prop} {p : Prog S α} {w : W}
    (hp : p.Sat h K Q w) (hrely : ∀ w w', K'.rely w w' → K.rely w w')
    (hassume : ∀ op c w, K'.assume op c w → K.assume op c w)
    (hguar : ∀ op c w, K'.assume op c w → K.guar op c w → K'.guar op c w)
    (hQ : ∀ a w, Q a w → Q' a w) : p.Sat h K' Q' w := by
  induction p generalizing w with
  | pure a => exact hQ a w hp
  | call op k ih =>
      intro w' hw c hc
      obtain ⟨hg, hk⟩ := hp w' (hrely w w' hw) c (hassume op c w' hc)
      exact ⟨hguar op c w' hc hg, ih _ hk⟩

/-- Weakening the postcondition only. -/
theorem Sat.post {Q Q' : α → W → Prop} {p : Prog S α} {w : W} (hp : p.Sat h K Q w)
    (hQ : ∀ a w, Q a w → Q' a w) : p.Sat h K Q' w :=
  hp.mono (fun _ _ hr => hr) (fun _ _ _ ha => ha) (fun _ _ _ _ hg => hg) hQ

/-- A program meets a contract that promises nothing. -/
theorem sat_true {p : Prog S α} {w : W} (hguar : ∀ op c w, K.guar op c w) :
    p.Sat h K (fun _ _ => True) w := by
  induction p generalizing w with
  | pure a => trivial
  | call op k ih => exact fun w' _ c _ => ⟨hguar op c w', ih _⟩

/-- An assertion survives the environment as long as the rely is transitive and the
postcondition is stable. -/
theorem Sat.stable {Q : α → W → Prop} {p : Prog S α} {w w' : W}
    (htrans : ∀ a b c, K.rely a b → K.rely b c → K.rely a c)
    (hQ : ∀ a w w', K.rely w w' → Q a w → Q a w')
    (hp : p.Sat h K Q w) (hw : K.rely w w') : p.Sat h K Q w' := by
  cases p with
  | pure a => exact hQ a w w' hw hp
  | call op k => exact fun w'' hw' => hp w'' (htrans _ _ _ hw hw')

/-- A left fold of programs keeps an invariant that each of its steps keeps. -/
theorem sat_foldlM {τ : Type} {I : β → W → Prop} {f : β → τ → Prog S β} {l : List τ}
    (hf : ∀ b, ∀ x ∈ l, ∀ w, I b w → (f b x).Sat h K I w) {b : β} {w : W} (hb : I b w) :
    (l.foldlM f b).Sat h K I w := by
  induction l generalizing b w with
  | nil => exact hb
  | cons x l ih =>
      rw [List.foldlM_cons, sat_bind]
      refine (hf b x List.mem_cons_self w hb).post fun b' w' hb' => ?_
      exact ih (fun b y hy => hf b y (List.mem_cons_of_mem x hy)) hb'

end rules

/-! ## Programs that may fail

A computation in `ExceptT ε (Prog S)` is a program that ends in `Except ε`; its specification is
one of its `run`. -/

section fallible

variable {ε : Type} {h : Handler S C W} {K : Contract S C W}

@[simp] theorem sat_run_pure {Q : Except ε α → W → Prop} {a : α} {w : W} :
    (Pure.pure a : ExceptT ε (Prog S) α).run.Sat h K Q w ↔ Q (.ok a) w := Iff.rfl

@[simp] theorem sat_run_throw {Q : Except ε α → W → Prop} {e : ε} {w : W} :
    (throw e : ExceptT ε (Prog S) α).run.Sat h K Q w ↔ Q (.error e) w := Iff.rfl

@[simp] theorem sat_run_attempt {Q : Except ε α → W → Prop} {p : Prog S α} {w : W} :
    (attempt p : ExceptT ε (Prog S) α).run.Sat h K Q w ↔ p.Sat h K (fun a w' => Q (.ok a) w') w :=
  sat_map

@[simp] theorem sat_run_mk {Q : Except ε α → W → Prop} {r : Except ε α} {w : W} :
    (ExceptT.mk (Pure.pure r) : ExceptT ε (Prog S) α).run.Sat h K Q w ↔ Q r w := Iff.rfl

@[simp] theorem sat_run_orThrow {ε' : Type} {f : ε → ε'} {Q : Except ε' α → W → Prop}
    {p : Prog S (Except ε α)} {w : W} :
    (orThrow f p).run.Sat h K Q w ↔ p.Sat h K (fun r w' => Q (r.mapError f) w') w :=
  sat_map

/-- Sequencing: the rest runs after a success only. -/
@[simp] theorem sat_run_bind {Q : Except ε β → W → Prop} {x : ExceptT ε (Prog S) α}
    {f : α → ExceptT ε (Prog S) β} {w : W} :
    (x >>= f).run.Sat h K Q w ↔ x.run.Sat h K
      (fun r w' => match r with
        | .ok a => (f a).run.Sat h K Q w'
        | .error e => Q (.error e) w') w := by
  rw [ExceptT.run_bind, sat_bind]
  refine iff_of_eq (congrArg (fun q => x.run.Sat h K q w) (funext fun r => funext fun w' => ?_))
  cases r <;> rfl

@[simp] theorem sat_run_ite {Q : Except ε α → W → Prop} {b : Prop} [Decidable b]
    {x y : ExceptT ε (Prog S) α} {w : W} :
    (if b then x else y).run.Sat h K Q w ↔ if b then x.run.Sat h K Q w else y.run.Sat h K Q w := by
  split <;> rfl

end fallible

/-! ## Postconditions of success -/

/-- `P` holds after a success; nothing is said about failures. -/
def OnOk {ε : Type} (P : α → W → Prop) : Except ε α → W → Prop
  | .ok a, w => P a w
  | .error _, _ => True

section success

variable {ε ε' : Type} {h : Handler S C W} {K : Contract S C W} {w : W}

theorem OnOk.mono {P P' : α → W → Prop} (hP : ∀ a w, P a w → P' a w) {r : Except ε α}
    (hr : OnOk P r w) : OnOk P' r w := by
  cases r with
  | ok a => exact hP a w hr
  | error e => trivial

theorem onOk_iff {P : α → W → Prop} {r : Except ε α} :
    OnOk P r w ↔ ∀ a, r = .ok a → P a w := by
  cases r with
  | ok a =>
      constructor
      · intro h b hb
        cases hb
        exact h
      · intro h
        exact h a rfl
  | error e =>
      refine iff_of_true trivial fun a ha => ?_
      cases ha

theorem onOk_true {p : Prog S (Except ε α)} (hguar : ∀ op c w, K.guar op c w) :
    p.Sat h K (OnOk fun _ _ => True) w :=
  (sat_true hguar).post fun _ _ _ => onOk_iff.mpr fun _ _ => trivial

theorem onOk_run_pure {P : α → W → Prop} {a : α} (ha : P a w) :
    (Pure.pure a : ExceptT ε (Prog S) α).run.Sat h K (OnOk P) w := ha

theorem onOk_run_mk {P : α → W → Prop} {r : Except ε α} (hr : ∀ a, r = .ok a → P a w) :
    (ExceptT.mk (Pure.pure r) : ExceptT ε (Prog S) α).run.Sat h K (OnOk P) w := onOk_iff.mpr hr

theorem onOk_run_attempt {P : α → W → Prop} {p : Prog S α} (hp : p.Sat h K P w) :
    (attempt p : ExceptT ε (Prog S) α).run.Sat h K (OnOk P) w := sat_run_attempt.mpr hp

theorem onOk_run_orThrow {P : α → W → Prop} {f : ε → ε'} {p : Prog S (Except ε α)}
    (hp : p.Sat h K (OnOk P) w) : (orThrow f p).run.Sat h K (OnOk P) w := by
  refine sat_run_orThrow.mpr (hp.post fun r w' hr => ?_)
  cases r with
  | ok a => exact hr
  | error e => trivial

theorem onOk_run_map {P : β → W → Prop} {f : α → β} {x : ExceptT ε (Prog S) α}
    (hx : x.run.Sat h K (OnOk fun a w' => P (f a) w') w) :
    (f <$> x).run.Sat h K (OnOk P) w := by
  rw [ExceptT.run_map]
  refine sat_map.mpr (hx.post fun r w' hr => ?_)
  cases r with
  | ok a => exact hr
  | error e => trivial

/-- Sequencing: the rest starts from what a success of the first part ensures. -/
theorem onOk_run_bind {P : α → W → Prop} {Q : β → W → Prop} {x : ExceptT ε (Prog S) α}
    {f : α → ExceptT ε (Prog S) β} (hx : x.run.Sat h K (OnOk P) w)
    (hf : ∀ a w', P a w' → (f a).run.Sat h K (OnOk Q) w') : (x >>= f).run.Sat h K (OnOk Q) w := by
  refine sat_run_bind.mpr (hx.post fun r w' hr => ?_)
  cases r with
  | ok a => exact hf a w' hr
  | error e => trivial

/-- A loop over a list, with an invariant that speaks of the items that are left. -/
theorem onOk_run_forM {τ : Type} {I : List τ → W → Prop} {f : τ → ExceptT ε (Prog S) PUnit}
    (hf : ∀ x l w, I (x :: l) w → (f x).run.Sat h K (OnOk fun _ => I l) w) {l : List τ}
    (hl : I l w) : (l.forM f).run.Sat h K (OnOk fun _ => I []) w := by
  induction l generalizing w with
  | nil => exact hl
  | cons x l ih =>
      show (f x >>= fun _ => l.forM f).run.Sat h K _ w
      exact onOk_run_bind (hf x l w hl) fun _ w' hw' => ih hw'

/-! ### Success for certain -/

/-- The answer is a success, and `P` holds after it. -/
def Succeeds {ε : Type} (P : α → W → Prop) : Except ε α → W → Prop
  | .ok a, w => P a w
  | .error _, _ => False

theorem succeeds_iff {P : α → W → Prop} {r : Except ε α} :
    Succeeds P r w ↔ ∃ a, r = .ok a ∧ P a w := by
  cases r with
  | ok a =>
      refine ⟨fun h => ⟨a, rfl, h⟩, ?_⟩
      rintro ⟨b, hb, h⟩
      cases hb
      exact h
  | error e =>
      refine iff_of_false id ?_
      rintro ⟨a, ha, -⟩
      cases ha

theorem Succeeds.mono {P P' : α → W → Prop} (hP : ∀ a w, P a w → P' a w) {r : Except ε α}
    (hr : Succeeds P r w) : Succeeds P' r w := by
  cases r with
  | ok a => exact hP a w hr
  | error e => exact hr.elim

theorem succeeds_run_orThrow {P : α → W → Prop} {f : ε → ε'} {p : Prog S (Except ε α)}
    (hp : p.Sat h K (Succeeds P) w) : (orThrow f p).run.Sat h K (Succeeds P) w := by
  refine sat_run_orThrow.mpr (hp.post fun r w' hr => ?_)
  cases r with
  | ok a => exact hr
  | error e => exact hr.elim

/-- Sequencing: both parts succeed. -/
theorem succeeds_run_bind {P : α → W → Prop} {Q : β → W → Prop} {x : ExceptT ε (Prog S) α}
    {f : α → ExceptT ε (Prog S) β} (hx : x.run.Sat h K (Succeeds P) w)
    (hf : ∀ a w', P a w' → (f a).run.Sat h K (Succeeds Q) w') :
    (x >>= f).run.Sat h K (Succeeds Q) w := by
  refine sat_run_bind.mpr (hx.post fun r w' hr => ?_)
  cases r with
  | ok a => exact hf a w' hr
  | error e => exact hr.elim

/-- A loop whose steps all succeed. -/
theorem succeeds_run_forM {τ : Type} {I : List τ → W → Prop} {f : τ → ExceptT ε (Prog S) PUnit}
    (hf : ∀ x l w, I (x :: l) w → (f x).run.Sat h K (Succeeds fun _ => I l) w) {l : List τ}
    (hl : I l w) : (l.forM f).run.Sat h K (Succeeds fun _ => I []) w := by
  induction l generalizing w with
  | nil => exact hl
  | cons x l ih =>
      show (f x >>= fun _ => l.forM f).run.Sat h K _ w
      exact succeeds_run_bind (hf x l w hl) fun _ w' hw' => ih hw'

/-! ### An invariant that failures keep as well -/

/-- `I` holds after success and failure, and `P` after a success. -/
def Keeps {ε : Type} (I : W → Prop) (P : α → W → Prop) (r : Except ε α) (w : W) : Prop :=
  I w ∧ OnOk P r w

theorem keeps_run_pure {I : W → Prop} {P : α → W → Prop} {a : α} (hw : I w) (ha : P a w) :
    (Pure.pure a : ExceptT ε (Prog S) α).run.Sat h K (Keeps I P) w := ⟨hw, ha⟩

theorem keeps_run_mk {I : W → Prop} {P : α → W → Prop} {r : Except ε α} (hw : I w)
    (hr : ∀ a, r = .ok a → P a w) :
    (ExceptT.mk (Pure.pure r) : ExceptT ε (Prog S) α).run.Sat h K (Keeps I P) w :=
  ⟨hw, onOk_iff.mpr hr⟩

theorem keeps_run_attempt {I : W → Prop} {P : α → W → Prop} {p : Prog S α}
    (hp : p.Sat h K (fun a w' => I w' ∧ P a w') w) :
    (attempt p : ExceptT ε (Prog S) α).run.Sat h K (Keeps I P) w := sat_run_attempt.mpr hp

theorem keeps_run_orThrow {I : W → Prop} {P : α → W → Prop} {f : ε → ε'} {p : Prog S (Except ε α)}
    (hp : p.Sat h K (Keeps I P) w) : (orThrow f p).run.Sat h K (Keeps I P) w := by
  refine sat_run_orThrow.mpr (hp.post fun r w' hr => ?_)
  cases r with
  | ok a => exact hr
  | error e => exact ⟨hr.1, trivial⟩

theorem keeps_run_map {I : W → Prop} {P : β → W → Prop} {f : α → β} {x : ExceptT ε (Prog S) α}
    (hx : x.run.Sat h K (Keeps I fun a w' => P (f a) w') w) :
    (f <$> x).run.Sat h K (Keeps I P) w := by
  rw [ExceptT.run_map]
  refine sat_map.mpr (hx.post fun r w' hr => ?_)
  cases r with
  | ok a => exact hr
  | error e => exact ⟨hr.1, trivial⟩

/-- Sequencing: where the first part fails, the invariant it keeps is all there is to show. -/
theorem keeps_run_bind {I J : W → Prop} {P : α → W → Prop} {Q : β → W → Prop}
    {x : ExceptT ε (Prog S) α} {f : α → ExceptT ε (Prog S) β}
    (hx : x.run.Sat h K (Keeps J P) w) (hJ : ∀ w', J w' → I w')
    (hf : ∀ a w', J w' → P a w' → (f a).run.Sat h K (Keeps I Q) w') :
    (x >>= f).run.Sat h K (Keeps I Q) w := by
  refine sat_run_bind.mpr (hx.post fun r w' hr => ?_)
  cases r with
  | ok a => exact hf a w' hr.1 hr.2
  | error e => exact ⟨hJ w' hr.1, trivial⟩

/-- Sequencing where the first part keeps the invariant only if it fails: the rest restores it. -/
theorem keeps_run_bind_of_error {I : W → Prop} {P : α → W → Prop} {Q : β → W → Prop}
    {x : ExceptT ε (Prog S) α} {f : α → ExceptT ε (Prog S) β}
    (hx : x.run.Sat h K (fun r w' => (∀ e, r = .error e → I w') ∧ OnOk P r w') w)
    (hf : ∀ a w', P a w' → (f a).run.Sat h K (Keeps I Q) w') :
    (x >>= f).run.Sat h K (Keeps I Q) w := by
  refine sat_run_bind.mpr (hx.post fun r w' hr => ?_)
  cases r with
  | ok a => exact hf a w' hr.2
  | error e => exact ⟨hr.1 e rfl, trivial⟩

end success

/-! ## Which calls a program can make -/

/-- Every call in the tree satisfies `P`, whatever the answers. -/
def Calls (P : S.Op → Prop) : Prog S α → Prop
  | .pure _ => True
  | .call op k => P op ∧ ∀ r, (k r).Calls P

section calls

variable {P : S.Op → Prop} {ε ε' : Type}

theorem calls_pure {a : α} : (Pure.pure a : Prog S α).Calls P := trivial

theorem calls_perform {op : S.Op} (hop : P op) : (perform op : Prog S (S.Res op)).Calls P :=
  ⟨hop, fun _ => trivial⟩

theorem calls_bind {p : Prog S α} {f : α → Prog S β} (hp : p.Calls P)
    (hf : ∀ a, (f a).Calls P) : (p >>= f).Calls P := by
  induction p with
  | pure a => exact hf a
  | call op k ih => exact ⟨hp.1, fun r => ih r (hp.2 r)⟩

theorem calls_map {p : Prog S α} {f : α → β} (hp : p.Calls P) : (f <$> p).Calls P := by
  rw [← bind_pure_comp]
  exact calls_bind hp fun _ => trivial

theorem calls_run_bind {x : ExceptT ε (Prog S) α} {f : α → ExceptT ε (Prog S) β}
    (hx : x.run.Calls P) (hf : ∀ a, (f a).run.Calls P) : (x >>= f).run.Calls P := by
  rw [ExceptT.run_bind]
  refine calls_bind hx fun r => ?_
  cases r with
  | ok a => exact hf a
  | error e => exact trivial

theorem calls_run_attempt {p : Prog S α} (hp : p.Calls P) :
    (attempt p : ExceptT ε (Prog S) α).run.Calls P := calls_map hp

theorem calls_run_orThrow {f : ε → ε'} {p : Prog S (Except ε α)} (hp : p.Calls P) :
    (orThrow f p).run.Calls P := calls_map hp

theorem calls_foldlM {τ : Type} {f : β → τ → Prog S β} {l : List τ}
    (hf : ∀ b, ∀ x ∈ l, (f b x).Calls P) (b : β) : (l.foldlM f b).Calls P := by
  induction l generalizing b with
  | nil => exact trivial
  | cons x l ih =>
      rw [List.foldlM_cons]
      refine calls_bind (hf b x List.mem_cons_self) fun b' => ?_
      exact ih (fun b y hy => hf b y (List.mem_cons_of_mem x hy)) b'

theorem calls_true (p : Prog S α) : p.Calls fun _ => True := by
  induction p with
  | pure a => trivial
  | call op k ih => exact ⟨trivial, ih⟩

/-- The calls of a run are calls of the tree. -/
theorem calls_of_mem_events {p : Prog S α} (hp : p.Calls P) {h : Handler S C W} {o : ℕ → C} {w : W} :
    ∀ ev ∈ p.events h o w, P ev.op := by
  induction p generalizing o w with
  | pure a => exact fun ev hev => absurd hev List.not_mem_nil
  | call op k ih =>
      intro ev hev
      rcases List.mem_cons.mp hev with rfl | hev
      · exact hp.1
      · exact ih _ (hp.2 _) ev hev

/-- The items of a list are handled one after another, until one fails. -/
theorem calls_run_forM {τ : Type} {f : τ → ExceptT ε (Prog S) PUnit} {l : List τ}
    (hf : ∀ x ∈ l, (f x).run.Calls P) : (l.forM f).run.Calls P := by
  induction l with
  | nil => exact trivial
  | cons x l ih =>
      show (f x >>= fun _ => l.forM f).run.Calls P
      exact calls_run_bind (hf x List.mem_cons_self) fun _ =>
        ih fun y hy => hf y (List.mem_cons_of_mem x hy)

theorem calls_mapM {τ : Type} {f : τ → Prog S α} {l : List τ} (hf : ∀ x ∈ l, (f x).Calls P) :
    (l.mapM f).Calls P := by
  induction l with
  | nil => exact trivial
  | cons x l ih =>
      rw [List.mapM_cons]
      refine calls_bind (hf x List.mem_cons_self) fun a => ?_
      exact calls_bind (ih fun y hy => hf y (List.mem_cons_of_mem x hy)) fun _ => trivial

theorem Calls.mono {P' : S.Op → Prop} {p : Prog S α} (hp : p.Calls P) (h : ∀ op, P op → P' op) :
    p.Calls P' := by
  induction p with
  | pure a => trivial
  | call op k ih => exact ⟨h op hp.1, fun r => ih r (hp.2 r)⟩

/-- A program all of whose calls keep `I`, in an environment that keeps `I`, keeps `I`. -/
theorem Calls.sat {h : Handler S C W} {K : Contract S C W} {I : W → Prop} {p : Prog S α}
    (hp : p.Calls P) (hrely : ∀ w w', I w → K.rely w w' → I w')
    (hstep : ∀ op c w, P op → I w → K.assume op c w → K.guar op c w ∧ I (h op c w).2)
    {w : W} (hw : I w) : p.Sat h K (fun _ w' => I w') w := by
  induction p generalizing w with
  | pure a => exact hw
  | call op k ih =>
      intro w' hww' c hc
      obtain ⟨hg, hI⟩ := hstep op c w' hp.1 (hrely w w' hw hww') hc
      exact ⟨hg, ih _ (hp.2 _) hI⟩

/-- Frame: what every call of a program keeps still holds next to its own postcondition. -/
theorem Sat.frame {h : Handler S C W} {K : Contract S C W} {I : W → Prop} {Q : α → W → Prop}
    {p : Prog S α} {w : W} (hp : p.Sat h K Q w) (hcalls : p.Calls P)
    (hrely : ∀ w w', I w → K.rely w w' → I w')
    (hstep : ∀ op c w, P op → I w → K.assume op c w → I (h op c w).2) (hw : I w) :
    p.Sat h K (fun a w' => Q a w' ∧ I w') w := by
  induction p generalizing w with
  | pure a => exact ⟨hp, hw⟩
  | call op k ih =>
      intro w' hww' c hc
      obtain ⟨hg, hk⟩ := hp w' hww' c hc
      exact ⟨hg, ih _ hk (hcalls.2 _) (hstep op c w' hcalls.1 (hrely w w' hw hww') hc)⟩

/-! ### At most one call of a kind -/

/-- Along every path of the tree at most one call satisfies `P`. -/
def Once (P : S.Op → Prop) : Prog S α → Prop
  | .pure _ => True
  | .call op k => (∀ r, (k r).Once P) ∧ (P op → ∀ r, (k r).Calls fun op => ¬ P op)

theorem once_perform {op : S.Op} : (perform op : Prog S (S.Res op)).Once P :=
  ⟨fun _ => trivial, fun _ _ => trivial⟩

theorem Calls.once {p : Prog S α} (hp : p.Calls fun op => ¬ P op) : p.Once P := by
  induction p with
  | pure a => trivial
  | call op k ih => exact ⟨fun r => ih r (hp.2 r), fun hop => absurd hop hp.1⟩

/-- The call is made in the first part. -/
theorem once_bind_left {p : Prog S α} {f : α → Prog S β} (hp : p.Once P)
    (hf : ∀ a, (f a).Calls fun op => ¬ P op) : (p >>= f).Once P := by
  induction p with
  | pure a => exact (hf a).once
  | call op k ih =>
      exact ⟨fun r => ih r (hp.1 r), fun hop r => calls_bind (hp.2 hop r) hf⟩

/-- The call is made in the second part. -/
theorem once_bind_right {p : Prog S α} {f : α → Prog S β} (hp : p.Calls fun op => ¬ P op)
    (hf : ∀ a, (f a).Once P) : (p >>= f).Once P := by
  induction p with
  | pure a => exact hf a
  | call op k ih => exact ⟨fun r => ih r (hp.2 r), fun hop => absurd hop hp.1⟩

theorem once_map {p : Prog S α} {f : α → β} (hp : p.Once P) : (f <$> p).Once P := by
  rw [← bind_pure_comp]
  exact once_bind_left hp fun _ => trivial

theorem once_run_attempt {p : Prog S α} (hp : p.Once P) :
    (attempt p : ExceptT ε (Prog S) α).run.Once P := once_map hp

theorem once_run_orThrow {f : ε → ε'} {p : Prog S (Except ε α)} (hp : p.Once P) :
    (orThrow f p).run.Once P := once_map hp

theorem once_run_bind_left {x : ExceptT ε (Prog S) α} {f : α → ExceptT ε (Prog S) β}
    (hx : x.run.Once P) (hf : ∀ a, (f a).run.Calls fun op => ¬ P op) : (x >>= f).run.Once P := by
  rw [ExceptT.run_bind]
  refine once_bind_left hx fun r => ?_
  cases r with
  | ok a => exact hf a
  | error e => exact trivial

theorem once_run_bind_right {x : ExceptT ε (Prog S) α} {f : α → ExceptT ε (Prog S) β}
    (hx : x.run.Calls fun op => ¬ P op) (hf : ∀ a, (f a).run.Once P) : (x >>= f).run.Once P := by
  rw [ExceptT.run_bind]
  refine once_bind_right hx fun r => ?_
  cases r with
  | ok a => exact hf a
  | error e => exact trivial

/-- On a run, no call before the one that satisfies `P` does. -/
theorem Once.not_of_mem_events {p : Prog S α} (hp : p.Once P) {h : Handler S C W} {o : ℕ → C} {w : W}
    {pre post : List (Event S C W)} {ev : Event S C W} (hev : p.events h o w = pre ++ ev :: post)
    (hP : P ev.op) : ∀ e ∈ pre, ¬ P e.op := by
  induction p generalizing o w pre with
  | pure a =>
      have hlength := congrArg List.length hev
      simp [events] at hlength
  | call op k ih =>
      rcases pre with _ | ⟨e₀, pre⟩
      · exact fun e he => absurd he List.not_mem_nil
      · obtain ⟨rfl, hrest⟩ := List.cons_eq_cons.mp hev
        have hlater : ev ∈ (k (h op (o 0) w).1).events h (fun n => o (n + 1)) (h op (o 0) w).2 := by
          rw [hrest]
          exact List.mem_append_right pre List.mem_cons_self
        intro e he
        rcases List.mem_cons.mp he with rfl | he
        · exact fun hop => calls_of_mem_events (hp.2 hop _) ev hlater hP
        · exact ih _ (hp.1 _) hrest e he

end calls

/-! ## Programs that run alone -/

section alone

variable {h : Handler S C W} {K : Contract S C W}

/-- A specification read on a run: if every call meets what is assumed of it, every call meets
what is promised of it and the run ends in the postcondition. -/
theorem Sat.run_events {Q : α → W → Prop} {p : Prog S α} (hrefl : ∀ w, K.rely w w)
    {o : ℕ → C} {w : W} (hp : p.Sat h K Q w)
    (hassume : ∀ ev ∈ p.events h o w, K.assume ev.op ev.choice ev.before) :
    (∀ ev ∈ p.events h o w, K.guar ev.op ev.choice ev.before) ∧
      Q (p.run h o w).1 (p.run h o w).2 := by
  induction p generalizing o w with
  | pure a => exact ⟨fun ev hev => absurd hev List.not_mem_nil, hp⟩
  | call op k ih =>
      have hhead := hassume ⟨op, o 0, w⟩ List.mem_cons_self
      obtain ⟨hg, hk⟩ := hp w (hrefl w) (o 0) hhead
      obtain ⟨htail, hend⟩ := ih _ hk fun ev hev => hassume ev (List.mem_cons_of_mem _ hev)
      refine ⟨fun ev hev => ?_, hend⟩
      rcases List.mem_cons.mp hev with rfl | hev
      · exact hg
      · exact htail ev hev

/-- A specification read on the run of a program that runs alone and promises nothing of its calls:
if what it assumes of a call follows from the environment's choice, the run ends in the
postcondition. -/
theorem Sat.run_of_choices {A : S.Op → C → W → Prop} {Q : α → W → Prop} {p : Prog S α}
    {o : ℕ → C} {w : W} (hp : p.Sat h (Contract.alone A fun _ _ _ => True) Q w)
    (hA : ∀ op n w, A op (o n) w) : Q (p.run h o w).1 (p.run h o w).2 := by
  induction p generalizing o w with
  | pure a => exact hp
  | call op k ih => exact ih _ (hp w rfl (o 0) (hA op 0 w)).2 fun op n w => hA op (n + 1) w

/-- If every promised call keeps `I`, a run keeps `I`. -/
theorem Sat.run_invariant {I : W → Prop} {p : Prog S α} (hrefl : ∀ w, K.rely w w)
    (hstep : ∀ op c w, K.assume op c w → K.guar op c w → I w → I (h op c w).2)
    {Q : α → W → Prop} {o : ℕ → C} {w : W} (hp : p.Sat h K Q w)
    (hassume : ∀ ev ∈ p.events h o w, K.assume ev.op ev.choice ev.before) (hI : I w) :
    I (p.run h o w).2 := by
  induction p generalizing o w with
  | pure a => exact hI
  | call op k ih =>
      have hhead := hassume ⟨op, o 0, w⟩ List.mem_cons_self
      obtain ⟨hg, hk⟩ := hp w (hrefl w) (o 0) hhead
      exact ih _ hk (fun ev hev => hassume ev (List.mem_cons_of_mem _ hev))
        (hstep op (o 0) w hhead hg hI)

end alone

end Prog

/-! ## Programs that run interleaved -/

/-- A world shared by a family of programs. -/
structure Pool (S : Sig) (ι α W : Type) where
  /-- The shared world. -/
  world : W
  /-- What is left to run of each program. -/
  threads : ι → Prog S α

namespace Pool

theorem three_ne_zero : 3 ≠ 0 := by decide

/-- The programs of a pool of three go by numerals. -/
instance : @NeZero Nat Zero.ofOfNat0 3 := ⟨three_ne_zero⟩

variable {S : Sig} {ι C W α : Type} [DecidableEq ι]

/-- The scheduler picks program `i`: it makes its next call, if it has one. -/
def step (h : Handler S (ι × C) W) (P : Pool S ι α W) (i : ι) (c : C) : Pool S ι α W :=
  match P.threads i with
  | .pure _ => P
  | .call op k =>
      ⟨(h op (i, c) P.world).2, Function.update P.threads i (k (h op (i, c) P.world).1)⟩

/-- The call made by that step, if any. -/
def stepEvents (P : Pool S ι α W) (i : ι) (c : C) : List (Event S (ι × C) W) :=
  match P.threads i with
  | .pure _ => []
  | .call op _ => [⟨op, (i, c), P.world⟩]

/-- The pool after a schedule. -/
def run (h : Handler S (ι × C) W) (P : Pool S ι α W) : List (ι × C) → Pool S ι α W
  | [] => P
  | (i, c) :: sched => (P.step h i c).run h sched

/-- The calls made along a schedule, in order, each with the program that made it. -/
def events (h : Handler S (ι × C) W) (P : Pool S ι α W) :
    List (ι × C) → List (Event S (ι × C) W)
  | [] => []
  | (i, c) :: sched => P.stepEvents i c ++ (P.step h i c).events h sched

/-- The calls of a schedule are made under its choices. -/
theorem choice_of_mem_events {h : Handler S (ι × C) W} (sched : List (ι × C)) {P : Pool S ι α W}
    {ev : Event S (ι × C) W} (hev : ev ∈ P.events h sched) : ev.choice ∈ sched := by
  induction sched generalizing P with
  | nil => exact absurd hev List.not_mem_nil
  | cons ic sched ih =>
      rcases List.mem_append.mp hev with hev | hev
      · unfold stepEvents at hev
        split at hev
        · exact absurd hev List.not_mem_nil
        · rw [List.mem_singleton.mp hev]
          exact List.mem_cons_self
      · exact List.mem_cons_of_mem ic (ih hev)

/-- The calls along a schedule are calls of the programs. -/
theorem calls_of_mem_events {h : Handler S (ι × C) W} {Q : S.Op → Prop} {P : Pool S ι α W}
    (hP : ∀ i, (P.threads i).Calls Q) (sched : List (ι × C)) :
    ∀ ev ∈ P.events h sched, Q ev.op := by
  induction sched generalizing P with
  | nil => exact fun ev hev => absurd hev List.not_mem_nil
  | cons ic sched ih =>
      obtain ⟨i, c⟩ := ic
      intro ev hev
      rcases hi : P.threads i with a | ⟨op, k⟩
      · have hstep : P.step h i c = P := by simp [step, hi]
        simp only [events, stepEvents, hi, hstep, List.nil_append] at hev
        exact ih hP ev hev
      · have hcall : (Prog.call op k).Calls Q := hi ▸ hP i
        simp only [events, stepEvents, hi] at hev
        rcases List.mem_cons.mp hev with rfl | hev
        · exact hcall.1
        · refine ih (fun j => ?_) ev hev
          by_cases hji : j = i
          · subst hji
            simpa [step, hi] using hcall.2 _
          · simpa [step, hi, Function.update_of_ne hji] using hP j

/-- Program `i` has returned `a`. -/
def Returned (P : Pool S ι α W) (i : ι) (a : α) : Prop := P.threads i = .pure a

/-- One scheduling step keeps every program's specification, and the call it makes meets what
its program promises. -/
theorem sat_step {h : Handler S (ι × C) W} {K : ι → Contract S (ι × C) W}
    {Q : ι → α → W → Prop} {P : Pool S ι α W} (hrefl : ∀ i w, (K i).rely w w)
    (htrans : ∀ i a b c, (K i).rely a b → (K i).rely b c → (K i).rely a c)
    (hQ : ∀ i a w w', (K i).rely w w' → Q i a w → Q i a w')
    (hcompat : ∀ i j, i ≠ j → ∀ op c w, (K i).assume op (i, c) w → (K i).guar op (i, c) w →
      (K j).rely w (h op (i, c) w).2)
    (hP : ∀ i, (P.threads i).Sat h (K i) (Q i) P.world) (i : ι) (c : C)
    (hassume : ∀ ev ∈ P.stepEvents i c, (K i).assume ev.op ev.choice ev.before) :
    (∀ j, ((P.step h i c).threads j).Sat h (K j) (Q j) (P.step h i c).world) ∧
      ∀ ev ∈ P.stepEvents i c, (K i).guar ev.op ev.choice ev.before := by
  unfold stepEvents step at *
  rcases hi : P.threads i with a | ⟨op, k⟩
  · simpa [hi] using hP
  · rw [hi] at hassume
    have hhead := hassume ⟨op, (i, c), P.world⟩ List.mem_cons_self
    have hsat : (Prog.call op k).Sat h (K i) (Q i) P.world := hi ▸ hP i
    obtain ⟨hg, hk⟩ := hsat P.world (hrefl i P.world) (i, c) hhead
    refine ⟨fun j => ?_, fun ev hev => ?_⟩
    · by_cases hji : j = i
      · subst hji
        simpa using hk
      · -- the other programs only see a step their rely allows
        have hrely := hcompat i j (Ne.symm hji) op c P.world hhead hg
        simpa [Function.update_of_ne hji] using (hP j).stable (htrans j) (hQ j) hrely
    · rw [List.mem_singleton.mp hev]
      exact hg

/-- **Parallel composition.** If each program meets its contract and relies only on what the
others guarantee, then along every schedule whose calls meet what is assumed of them each call
meets what is promised of it, and each program still meets its specification at the end. -/
theorem sat_run {h : Handler S (ι × C) W} {K : ι → Contract S (ι × C) W}
    {Q : ι → α → W → Prop} (hrefl : ∀ i w, (K i).rely w w)
    (htrans : ∀ i a b c, (K i).rely a b → (K i).rely b c → (K i).rely a c)
    (hQ : ∀ i a w w', (K i).rely w w' → Q i a w → Q i a w')
    (hcompat : ∀ i j, i ≠ j → ∀ op c w, (K i).assume op (i, c) w → (K i).guar op (i, c) w →
      (K j).rely w (h op (i, c) w).2)
    (sched : List (ι × C)) {P : Pool S ι α W}
    (hP : ∀ i, (P.threads i).Sat h (K i) (Q i) P.world)
    (hassume : ∀ ev ∈ P.events h sched, (K ev.choice.1).assume ev.op ev.choice ev.before) :
    (∀ i, ((P.run h sched).threads i).Sat h (K i) (Q i) (P.run h sched).world) ∧
      ∀ ev ∈ P.events h sched, (K ev.choice.1).guar ev.op ev.choice ev.before := by
  induction sched generalizing P with
  | nil => exact ⟨hP, fun ev hev => absurd hev List.not_mem_nil⟩
  | cons ic sched ih =>
      obtain ⟨i, c⟩ := ic
      have hthread : ∀ ev ∈ P.stepEvents i c, ev.choice.1 = i := by
        intro ev hev
        unfold stepEvents at hev
        split at hev
        · exact absurd hev List.not_mem_nil
        · rw [List.mem_singleton.mp hev]
      have hhead : ∀ ev ∈ P.stepEvents i c, (K i).assume ev.op ev.choice ev.before :=
        fun ev hev => hthread ev hev ▸ hassume ev (List.mem_append_left _ hev)
      obtain ⟨hnext, hguar⟩ := sat_step hrefl htrans hQ hcompat hP i c hhead
      obtain ⟨hend, hrest⟩ := ih hnext fun ev hev => hassume ev (List.mem_append_right _ hev)
      refine ⟨hend, fun ev hev => ?_⟩
      rcases List.mem_append.mp hev with hev | hev
      · rw [hthread ev hev]
        exact hguar ev hev
      · exact hrest ev hev

omit [DecidableEq ι] in
/-- A program that has returned satisfies its postcondition. -/
theorem sat_returned {h : Handler S (ι × C) W} {K : Contract S (ι × C) W}
    {Q : α → W → Prop} {P : Pool S ι α W} {i : ι} {a : α} (hret : P.Returned i a)
    (hP : (P.threads i).Sat h K Q P.world) : Q a P.world := by
  rw [hret] at hP
  exact hP

end Pool

end SsoGateway.Lib
