import SsoGateway.Lib.History
import SsoGateway.Lib.Precedence
import SsoGateway.Lib.Translate

/-!
# The calls of one program

What one program of a pool has done so far, whatever the others do in between: its own calls, each with
its answer. What is promised of its calls may speak of these, and is read off its tree alone.

* `Reply` — a call with its answer.
* `scripted`, `Answering` — a handler whose world is the calls so far, and which may answer anything.
* `Prog.answering_replies` — what a program of which only the calls are known adds to them.
* `Prog.answering_translate` — the calls of a program of a smaller signature.
* `Prog.Adds` — a step that may fail, by what its success rests on.
* `Pool.own` — the calls of one program along a schedule, newest first.
* `Pool.own_calls` — along every schedule each of them is as promised.
* `Pool.own_returned` — and so is what the program returns.

Nothing here is about a particular service.
-/

namespace SsoGateway.Lib

variable {S : Sig} {ι α C W : Type}

/-- A call with its answer. -/
abbrev Reply (S : Sig) := (op : S.Op) × S.Res op

/-- A call of a run, with its answer. -/
def Event.answered (h : Handler S C W) (ev : Event S C W) : Reply S :=
  ⟨ev.op, (h ev.op ev.choice ev.before).1⟩

theorem Event.answered_eq_iff {h : Handler S C W} {ev : Event S C W} {op : S.Op} {r : S.Res op} :
    ev.answered h = ⟨op, r⟩ ↔ ∃ c w, ev = ⟨op, c, w⟩ ∧ (h op c w).1 = r := by
  obtain ⟨op', c, w⟩ := ev
  constructor
  · intro heq
    obtain rfl : op' = op := congrArg Sigma.fst heq
    exact ⟨c, w, rfl, eq_of_heq (Sigma.mk.inj heq).2⟩
  · rintro ⟨c', w', ⟨⟩, rfl⟩
    rfl

/-- Any answers, of which the world keeps track. -/
def scripted (S : Sig) : Handler S ((op : S.Op) → S.Res op) (List (Reply S)) :=
  fun op answers past => (answers op, ⟨op, answers op⟩ :: past)

/-- What is promised of a call, by the calls before it. -/
def Answering (promise : S.Op → List (Reply S) → Prop) :
    Contract S ((op : S.Op) → S.Res op) (List (Reply S)) :=
  .alone (fun _ _ _ => True) fun op _ past => promise op past

namespace Prog

variable {promise : S.Op → List (Reply S) → Prop} {past : List (Reply S)}

/-- One call. -/
theorem answering_perform {op : S.Op} {Q : S.Res op → List (Reply S) → Prop}
    (hpromise : promise op past) (hQ : ∀ r, Q r (⟨op, r⟩ :: past)) :
    (perform op : Prog S (S.Res op)).Sat (scripted S) (Answering promise) Q past := by
  intro past' hsame answers _
  subst hsame
  exact ⟨hpromise, hQ _⟩

/-- A program whose calls are promised whatever came before. -/
theorem answering_calls {p : Prog S α} (hp : p.Calls fun op => ∀ past, promise op past) :
    p.Sat (scripted S) (Answering promise) (fun _ _ => True) past :=
  hp.sat (fun _ _ _ _ => trivial) (fun _ _ past hop _ _ => ⟨hop past, trivial⟩) trivial

/-- A program of which it is known what it calls, and what it does before certain answers: the calls it
adds, and for each such answer that it came, or that the result is as it is without. -/
theorem answering_replies {β : Type} {P : S.Op → Prop} {R : β → (op : S.Op) → S.Res op → Prop}
    {Q : β → α → Prop}
    (hpromise : ∀ op, P op → ∀ replies : List (Reply S), (∀ x ∈ replies, P x.1) →
      promise op (replies ++ past)) {p : Prog S α} :
    ∀ replies : List (Reply S), p.Calls P → (∀ x ∈ replies, P x.1) →
    (∀ b, (∃ x ∈ replies, R b x.1 x.2) ∨ p.Before (R b) (fun _ => False) (Q b)) →
    p.Sat (scripted S) (Answering promise) (fun r past' => ∃ replies, past' = replies ++ past ∧
      (∀ x ∈ replies, P x.1) ∧ ∀ b, (∃ x ∈ replies, R b x.1 x.2) ∨ Q b r) (replies ++ past) := by
  induction p with
  | pure a =>
      intro replies _ hreplies hbefore
      exact ⟨replies, rfl, hreplies, hbefore⟩
  | call op k ih =>
      intro replies hcalls hreplies hbefore past' hsame answers _
      subst hsame
      refine ⟨hpromise op hcalls.1 replies hreplies, ?_⟩
      refine ih (answers op) (⟨op, answers op⟩ :: replies) (hcalls.2 _) ?_ ?_
      · exact List.forall_mem_cons.mpr ⟨hcalls.1, hreplies⟩
      · intro b
        rcases hbefore b with ⟨x, hx, hR⟩ | hb
        · exact .inl ⟨x, List.mem_cons_of_mem _ hx, hR⟩
        · by_cases hR : R b op (answers op)
          · exact .inl ⟨_, List.mem_cons_self, hR⟩
          · exact .inr (hb.2 _ hR)

/-- The same of a program that starts. -/
theorem answering_calls_replies {P : S.Op → Prop} {p : Prog S α} (hcalls : p.Calls P)
    (hpromise : ∀ op, P op → ∀ replies : List (Reply S), (∀ x ∈ replies, P x.1) →
      promise op (replies ++ past)) :
    p.Sat (scripted S) (Answering promise) (fun _ past' => ∃ replies, past' = replies ++ past ∧
      ∀ x ∈ replies, P x.1) past := by
  have hsat := answering_replies (R := fun b : Empty => b.elim) (Q := fun b => b.elim) hpromise [] hcalls
    (List.forall_mem_nil _) fun b => b.elim
  refine Sat.post hsat fun r past' hr => ?_
  obtain ⟨replies, hpast, hreplies, -⟩ := hr
  exact ⟨replies, hpast, hreplies⟩

/-- A program of a smaller signature: the calls it adds are those it makes there. -/
theorem answering_translate {T : Sig} {f : (op : T.Op) → Prog S (T.Res op)} (lift : Reply T → Reply S)
    (hf : ∀ (op : T.Op) (Q : T.Res op → List (Reply S) → Prop) (past : List (Reply S)),
      (∀ answers : (op : T.Op) → T.Res op, Q (answers op) (lift ⟨op, answers op⟩ :: past)) →
      (f op).Sat (scripted S) (Answering promise) Q past)
    {p : Prog T α} {Q : α → List (Reply T) → Prop} {own : List (Reply T)}
    (hp : p.Sat (scripted T) (Answering fun _ _ => True) Q own) :
    (p.translate f).Sat (scripted S) (Answering promise)
      (fun r past' => ∃ replies, past' = replies.map lift ++ past ∧ Q r (replies ++ own)) past := by
  induction p generalizing own past with
  | pure a => exact ⟨[], rfl, hp⟩
  | call op k ih =>
      refine sat_bind.mpr (hf op _ past fun answers => ?_)
      obtain ⟨-, hrest⟩ := hp own rfl answers trivial
      refine (ih (answers op) hrest).post fun r past' hr => ?_
      obtain ⟨replies, rfl, hQ⟩ := hr
      refine ⟨replies ++ [⟨op, answers op⟩], ?_, ?_⟩
      · simp
      · rw [List.append_assoc]
        exact hQ

/-- The calls before a program are still there after it. -/
theorem answering_grows {p : Prog S α} {Q : α → List (Reply S) → Prop}
    (hp : p.Sat (scripted S) (Answering promise) Q past) :
    p.Sat (scripted S) (Answering promise) (fun a past' => past ⊆ past' ∧ Q a past') past := by
  induction p generalizing past with
  | pure a => exact ⟨List.Subset.refl _, hp⟩
  | call op k ih =>
      intro past' hsame answers _
      subst hsame
      obtain ⟨hguar, hrest⟩ := hp past rfl answers trivial
      refine ⟨hguar, Sat.post (ih _ hrest) fun a past'' ha => ⟨?_, ha.2⟩⟩
      exact List.Subset.trans (List.subset_cons_self _ _) ha.1

/-- Two postconditions of one program. -/
theorem Sat.and {h : Handler S C W} {K : Contract S C W} {Q Q' : α → W → Prop} {p : Prog S α} {w : W}
    (hp : p.Sat h K Q w) (hp' : p.Sat h K Q' w) : p.Sat h K (fun a w' => Q a w' ∧ Q' a w') w := by
  induction p generalizing w with
  | pure a => exact ⟨hp, hp'⟩
  | call op k ih =>
      intro w' hrely c hassume
      obtain ⟨hguar, hrest⟩ := hp w' hrely c hassume
      exact ⟨hguar, ih _ hrest (hp' w' hrely c hassume).2⟩

/-! ### Steps that may fail -/

section adds

variable {ε ε' β : Type} {R : α → List (Reply S) → Prop}

/-- Where the step succeeds, the calls before it are still there, and its result is as the calls say. -/
def Adds (promise : S.Op → List (Reply S) → Prop) (R : α → List (Reply S) → Prop)
    (x : ExceptT ε (Prog S) α) (past : List (Reply S)) : Prop :=
  x.run.Sat (scripted S) (Answering promise) (OnOk fun a past' => past ⊆ past' ∧ R a past') past

theorem Adds.mono {R' : α → List (Reply S) → Prop} {x : ExceptT ε (Prog S) α} (hx : Adds promise R x past)
    (hR : ∀ a past', past ⊆ past' → R a past' → R' a past') : Adds promise R' x past :=
  Sat.post hx fun _ _ hr => OnOk.mono (fun a past' h => ⟨h.1, hR a past' h.1 h.2⟩) hr

theorem adds_pure {a : α} (ha : R a past) : Adds promise R (Pure.pure a : ExceptT ε (Prog S) α) past :=
  ⟨List.Subset.refl _, ha⟩

theorem adds_throw {e : ε} : Adds promise R (throw e : ExceptT ε (Prog S) α) past := trivial

theorem adds_mk {r : Except ε α} (hr : ∀ a, r = .ok a → R a past) :
    Adds promise R (ExceptT.mk (Pure.pure r) : ExceptT ε (Prog S) α) past :=
  onOk_run_mk fun a ha => ⟨List.Subset.refl _, hr a ha⟩

theorem adds_bind {T : β → List (Reply S) → Prop} {x : ExceptT ε (Prog S) α} {f : α → ExceptT ε (Prog S) β}
    (hx : Adds promise R x past)
    (hf : ∀ a past', past ⊆ past' → R a past' → Adds promise T (f a) past') :
    Adds promise T (x >>= f) past := by
  refine onOk_run_bind hx fun a past' ha => ?_
  refine Sat.post (hf a past' ha.1 ha.2) fun _ _ hr => OnOk.mono (fun _ _ hb => ?_) hr
  exact ⟨List.Subset.trans ha.1 hb.1, hb.2⟩

theorem adds_map {T : β → List (Reply S) → Prop} {x : ExceptT ε (Prog S) α} {f : α → β}
    (hx : Adds promise (fun a => T (f a)) x past) : Adds promise T (f <$> x) past :=
  onOk_run_map hx

/-- A program whose error ends the step. -/
theorem adds_orThrow {f : ε' → ε} {p : Prog S (Except ε' α)} (hp : p.Sat (scripted S) (Answering promise)
    (OnOk fun a past' => past ⊆ past' ∧ R a past') past) : Adds promise R (orThrow f p) past :=
  onOk_run_orThrow hp

/-- A program that never fails. -/
theorem adds_attempt {p : Prog S α} (hp : p.Sat (scripted S) (Answering promise)
    (fun a past' => past ⊆ past' ∧ R a past') past) :
    Adds promise R (attempt p : ExceptT ε (Prog S) α) past :=
  onOk_run_attempt hp

/-- One call of a step. -/
theorem adds_perform {op : S.Op} {R : S.Res op → List (Reply S) → Prop} (hpromise : promise op past)
    (hR : ∀ r, R r (⟨op, r⟩ :: past)) :
    Adds promise R (attempt (perform op) : ExceptT ε (Prog S) (S.Res op)) past :=
  adds_attempt (answering_perform hpromise fun r => ⟨List.subset_cons_self _ _, hR r⟩)

end adds

end Prog

namespace Pool

variable [DecidableEq ι] {h : Handler S (ι × C) W}

/-- The calls of one program, newest first. -/
def own (h : Handler S (ι × C) W) (i : ι) (evs : List (Event S (ι × C) W)) : List (Reply S) :=
  ((evs.filter fun ev => ev.choice.1 = i).map (Event.answered h)).reverse

theorem mem_own {i : ι} {evs : List (Event S (ι × C) W)} {a : Reply S} :
    a ∈ own h i evs ↔ ∃ ev ∈ evs, ev.choice.1 = i ∧ ev.answered h = a := by
  simp [own, and_assoc]

theorem own_cons {i : ι} {ev : Event S (ι × C) W} {evs : List (Event S (ι × C) W)} :
    own h i (ev :: evs) = own h i evs ++ if ev.choice.1 = i then [ev.answered h] else [] := by
  by_cases hi : ev.choice.1 = i
  · simp [own, hi]
  · simp [own, hi]

/-- **The calls of one program** along a schedule are as promised by its own calls before them. -/
theorem own_calls {promise : S.Op → List (Reply S) → Prop} {Q : α → List (Reply S) → Prop}
    (sched : List (ι × C)) {P : Pool S ι α W} {i : ι} {past : List (Reply S)}
    (hP : (P.threads i).Sat (scripted S) (Answering promise) Q past) :
    ∀ pre ev post, P.events h sched = pre ++ ev :: post → ev.choice.1 = i →
      promise ev.op (own h i pre ++ past) := by
  induction sched generalizing P past with
  | nil =>
      intro pre ev post hsplit
      simp [events] at hsplit
  | cons jc sched ih =>
      obtain ⟨j, c⟩ := jc
      intro pre ev post hsplit hev
      rcases hj : P.threads j with a | ⟨op, k⟩
      · have hstep : P.step h j c = P := by simp [step, hj]
        simp only [events, stepEvents, hj, hstep, List.nil_append] at hsplit
        exact ih hP pre ev post hsplit hev
      · simp only [events, stepEvents, hj, List.cons_append, List.nil_append] at hsplit
        by_cases hji : j = i
        · subst hji
          have hcall : (Prog.call op k).Sat (scripted S) (Answering promise) Q past := hj ▸ hP
          obtain ⟨hpromise, hrest⟩ :=
            hcall past rfl (fun op' => (h op' (j, c) P.world).1) trivial
          rcases pre with _ | ⟨first, pre⟩
          · obtain ⟨rfl, -⟩ := List.cons_eq_cons.mp hsplit
            exact hpromise
          · obtain ⟨rfl, hlater⟩ := List.cons_eq_cons.mp hsplit
            have hnext : ((P.step h j c).threads j).Sat (scripted S) (Answering promise) Q
                (⟨op, (h op (j, c) P.world).1⟩ :: past) := by
              simpa [step, hj, scripted] using hrest
            have hlast := ih hnext pre ev post hlater hev
            rw [own_cons, if_pos rfl, List.append_assoc]
            exact hlast
        · rcases pre with _ | ⟨first, pre⟩
          · obtain ⟨rfl, -⟩ := List.cons_eq_cons.mp hsplit
            exact absurd hev hji
          · obtain ⟨rfl, hlater⟩ := List.cons_eq_cons.mp hsplit
            have hnext : ((P.step h j c).threads i).Sat (scripted S) (Answering promise) Q past := by
              simpa [step, hj, Function.update_of_ne (Ne.symm hji)] using hP
            rw [own_cons, if_neg hji, List.append_nil]
            exact ih hnext pre ev post hlater hev

/-- **What one program returns** along a schedule is as promised by all of its own calls. -/
theorem own_returned {promise : S.Op → List (Reply S) → Prop} {Q : α → List (Reply S) → Prop}
    (sched : List (ι × C)) {P : Pool S ι α W} {i : ι} {past : List (Reply S)} {a : α}
    (hP : (P.threads i).Sat (scripted S) (Answering promise) Q past)
    (hreturned : (P.run h sched).Returned i a) : Q a (own h i (P.events h sched) ++ past) := by
  induction sched generalizing P past with
  | nil =>
      have hpure : (Prog.pure a : Prog S α).Sat (scripted S) (Answering promise) Q past :=
        (show P.threads i = .pure a from hreturned) ▸ hP
      exact hpure
  | cons jc sched ih =>
      obtain ⟨j, c⟩ := jc
      rcases hj : P.threads j with b | ⟨op, k⟩
      · have hstep : P.step h j c = P := by simp [step, hj]
        have hrest : (P.run h sched).Returned i a := by
          simpa only [run, hstep] using hreturned
        simpa only [events, stepEvents, hj, hstep, List.nil_append] using ih hP hrest
      · have hsame : P.events h ((j, c) :: sched) = ⟨op, (j, c), P.world⟩ :: (P.step h j c).events h sched := by
          simp only [events, stepEvents, hj, List.cons_append, List.nil_append]
        rw [hsame, own_cons]
        by_cases hji : j = i
        · subst hji
          have hcall : (Prog.call op k).Sat (scripted S) (Answering promise) Q past := hj ▸ hP
          obtain ⟨-, hrest⟩ := hcall past rfl (fun op' => (h op' (j, c) P.world).1) trivial
          have hnext : ((P.step h j c).threads j).Sat (scripted S) (Answering promise) Q
              (⟨op, (h op (j, c) P.world).1⟩ :: past) := by
            simpa [step, hj, scripted] using hrest
          rw [if_pos rfl, List.append_assoc]
          exact ih hnext hreturned
        · have hnext : ((P.step h j c).threads i).Sat (scripted S) (Answering promise) Q past := by
            simpa [step, hj, Function.update_of_ne (Ne.symm hji)] using hP
          rw [if_neg hji, List.append_nil]
          exact ih hnext hreturned

end Pool

end SsoGateway.Lib
