import SsoGateway.Lib.Contract

/-!
# Which calls come before and after which

Static properties of call trees about the order of the calls on a path, whatever the answers.

* `Prog.Before R I Q` — as long as no call has been answered as `R` says, no call of `I` is made,
  and a result satisfies `Q`.
* `Prog.Must E` — a call of `E` is made before the program ends.
* `Prog.Then W E` — after a call answered as `W` says, a call of `E` is made before the program ends.
* `Prog.Final E` — after a call of `E` the program has ended.

Each has a rule for sequencing. `Pool.before_run`, `Pool.then_run` and `Pool.final_run` bring them to the
calls of a program among others: the call found on the path is one of that program's.

Nothing here is about a particular service.
-/

namespace SsoGateway.Lib

variable {S : Sig} {C W α β ε ε' ι : Type}

namespace Prog

/-! ## Before -/

/-- Until a call is answered as `R` says, no call of `I` is made, and a result satisfies `Q`. -/
def Before (R : (op : S.Op) → S.Res op → Prop) (I : S.Op → Prop) (Q : α → Prop) : Prog S α → Prop
  | .pure a => Q a
  | .call op k => ¬ I op ∧ ∀ r, ¬ R op r → (k r).Before R I Q

section before

variable {R : (op : S.Op) → S.Res op → Prop} {I : S.Op → Prop}

theorem before_pure {Q : α → Prop} {a : α} (ha : Q a) : (Pure.pure a : Prog S α).Before R I Q := ha

theorem before_perform {op : S.Op} {Q : S.Res op → Prop} (hop : ¬ I op)
    (hQ : ∀ r, ¬ R op r → Q r) : (perform op : Prog S (S.Res op)).Before R I Q := ⟨hop, hQ⟩

theorem before_bind {P : α → Prop} {Q : β → Prop} {p : Prog S α} {f : α → Prog S β}
    (hp : p.Before R I P) (hf : ∀ a, P a → (f a).Before R I Q) : (p >>= f).Before R I Q := by
  induction p with
  | pure a => exact hf a hp
  | call op k ih => exact ⟨hp.1, fun r hr => ih r (hp.2 r hr)⟩

theorem before_map {Q : β → Prop} {p : Prog S α} {f : α → β}
    (hp : p.Before R I fun a => Q (f a)) : (f <$> p).Before R I Q := by
  rw [← bind_pure_comp]
  exact before_bind hp fun a ha => ha

theorem Before.post {P Q : α → Prop} {p : Prog S α} (hp : p.Before R I P) (hQ : ∀ a, P a → Q a) :
    p.Before R I Q := by
  induction p with
  | pure a => exact hQ a hp
  | call op k ih => exact ⟨hp.1, fun r hr => ih r (hp.2 r hr)⟩

/-- More answers to stop at, and fewer calls to rule out. -/
theorem Before.mono {R' : (op : S.Op) → S.Res op → Prop} {I' : S.Op → Prop} {Q : α → Prop}
    {p : Prog S α} (hp : p.Before R I Q) (hR : ∀ op r, R op r → R' op r)
    (hI : ∀ op, I' op → I op) : p.Before R' I' Q := by
  induction p with
  | pure a => exact hp
  | call op k ih =>
      exact ⟨fun h => hp.1 (hI op h), fun r hr => ih r (hp.2 r fun h => hr (hR op r h))⟩

theorem Calls.before {p : Prog S α} (hp : p.Calls fun op => ¬ I op) :
    p.Before R I fun _ => True := by
  induction p with
  | pure a => trivial
  | call op k ih => exact ⟨hp.1, fun r _ => ih r (hp.2 r)⟩

/-- What every result satisfies, a postcondition may say as well. -/
theorem Before.sat {h : Handler S C W} {K : Contract S C W} {P : α → Prop} {Q : α → W → Prop}
    {p : Prog S α} (hp : p.Before (fun _ _ => False) (fun _ => False) P) {w : W}
    (hQ : p.Sat h K Q w) : p.Sat h K (fun a w' => P a ∧ Q a w') w := by
  induction p generalizing w with
  | pure a => exact ⟨hp, hQ⟩
  | call op k ih =>
      intro w' hw c hc
      obtain ⟨hg, hk⟩ := hQ w' hw c hc
      exact ⟨hg, ih _ (hp.2 _ id) hk⟩

theorem before_run_attempt {Q : Except ε α → Prop} {p : Prog S α}
    (hp : p.Before R I fun a => Q (.ok a)) :
    (attempt p : ExceptT ε (Prog S) α).run.Before R I Q := before_map hp

theorem before_run_orThrow {Q : Except ε' α → Prop} {f : ε → ε'} {p : Prog S (Except ε α)}
    (hp : p.Before R I fun r => Q (r.mapError f)) : (orThrow f p).run.Before R I Q := before_map hp

theorem before_run_map {Q : Except ε β → Prop} {f : α → β} {x : ExceptT ε (Prog S) α}
    (hx : x.run.Before R I fun r => Q (r.map f)) : (f <$> x).run.Before R I Q := by
  rw [ExceptT.run_map]
  exact before_map hx

/-- Sequencing: `P` holds of a success of the first part; a failure must satisfy `Q` itself. -/
theorem before_run_bind {P : α → Prop} {Q : Except ε β → Prop} {x : ExceptT ε (Prog S) α}
    {f : α → ExceptT ε (Prog S) β}
    (hx : x.run.Before R I fun r => (∀ a, r = .ok a → P a) ∧ ∀ e, r = .error e → Q (.error e))
    (hf : ∀ a, P a → (f a).run.Before R I Q) : (x >>= f).run.Before R I Q := by
  rw [ExceptT.run_bind]
  refine before_bind hx fun r hr => ?_
  cases r with
  | ok a => exact hf a (hr.1 a rfl)
  | error e => exact hr.2 e rfl

end before

/-! ## After -/

/-- A call of `E` is made before the program ends. -/
def Must (E : S.Op → Prop) : Prog S α → Prop
  | .pure _ => False
  | .call op k => E op ∨ ∀ r, (k r).Must E

/-- After a call answered as `W` says, a call of `E` is made before the program ends. -/
def Then (W : (op : S.Op) → S.Res op → Prop) (E : S.Op → Prop) : Prog S α → Prop
  | .pure _ => True
  | .call op k => ∀ r, (k r).Then W E ∧ (W op r → (k r).Must E)

section after

variable {V : (op : S.Op) → S.Res op → Prop} {E : S.Op → Prop}

theorem must_bind_left {p : Prog S α} {f : α → Prog S β} (hp : p.Must E) : (p >>= f).Must E := by
  induction p with
  | pure a => exact absurd hp id
  | call op k ih => exact hp.imp id fun h r => ih r (h r)

theorem must_bind_right {p : Prog S α} {f : α → Prog S β} (hf : ∀ a, (f a).Must E) :
    (p >>= f).Must E := by
  induction p with
  | pure a => exact hf a
  | call op k ih => exact .inr fun r => ih r

theorem must_map {p : Prog S α} {f : α → β} (hp : p.Must E) : (f <$> p).Must E := by
  rw [← bind_pure_comp]
  exact must_bind_left hp

theorem must_perform {op : S.Op} (hop : E op) : (perform op : Prog S (S.Res op)).Must E := .inl hop

theorem must_run_attempt {p : Prog S α} (hp : p.Must E) :
    (attempt p : ExceptT ε (Prog S) α).run.Must E := must_map hp

theorem must_run_bind_left {x : ExceptT ε (Prog S) α} {f : α → ExceptT ε (Prog S) β}
    (hx : x.run.Must E) : (x >>= f).run.Must E := by
  rw [ExceptT.run_bind]
  exact must_bind_left hx

theorem must_run_bind_right {x : ExceptT ε (Prog S) α} {f : α → ExceptT ε (Prog S) β}
    (hx : ∃ p : Prog S α, x = attempt p) (hf : ∀ a, (f a).run.Must E) : (x >>= f).run.Must E := by
  obtain ⟨p, rfl⟩ := hx
  rw [ExceptT.run_bind]
  show ((Except.ok <$> p) >>= _).Must E
  rw [map_eq_pure_bind, bind_assoc]
  exact must_bind_right fun a => hf a

theorem then_map {p : Prog S α} {f : α → β} (hp : p.Then V E) : (f <$> p).Then V E := by
  rw [← bind_pure_comp]
  induction p with
  | pure a => exact trivial
  | call op k ih => exact fun r => ⟨ih r (hp r).1, fun hr => must_bind_left ((hp r).2 hr)⟩

theorem then_run_map {f : α → β} {x : ExceptT ε (Prog S) α} (hx : x.run.Then V E) :
    (f <$> x).run.Then V E := by
  rw [ExceptT.run_map]
  exact then_map hx

/-- No call is answered as `W` says. -/
theorem Calls.then' {p : Prog S α} (hp : p.Calls fun op => ∀ r, ¬ V op r) : p.Then V E := by
  induction p with
  | pure a => trivial
  | call op k ih => exact fun r => ⟨ih r (hp.2 r), fun hr => absurd hr (hp.1 r)⟩

/-- Sequencing, where no call of the first part is answered as `W` says. -/
theorem then_bind_right {p : Prog S α} {f : α → Prog S β} (hp : p.Calls fun op => ∀ r, ¬ V op r)
    (hf : ∀ a, (f a).Then V E) : (p >>= f).Then V E := by
  induction p with
  | pure a => exact hf a
  | call op k ih => exact fun r => ⟨ih r (hp.2 r), fun hr => absurd hr (hp.1 r)⟩

theorem then_run_bind_right {x : ExceptT ε (Prog S) α} {f : α → ExceptT ε (Prog S) β}
    (hx : x.run.Calls fun op => ∀ r, ¬ V op r) (hf : ∀ a, (f a).run.Then V E) :
    (x >>= f).run.Then V E := by
  rw [ExceptT.run_bind]
  refine then_bind_right hx fun r => ?_
  cases r with
  | ok a => exact hf a
  | error e => exact trivial

/-- Sequencing, where a good answer of one call is followed by a program that makes a call of `E`. -/
theorem then_run_orThrow_bind {f : ε → ε'} (op : S.Op) (view : S.Res op → Except ε α)
    {g : α → ExceptT ε' (Prog S) β} (hthen : ∀ a, (g a).run.Then V E)
    (hmust : ∀ r a, V op r → view r = .ok a → (g a).run.Must E)
    (hok : ∀ r, V op r → ∃ a, view r = .ok a) :
    (orThrow f (Prog.call op fun r => Prog.pure (view r)) >>= g).run.Then V E := by
  intro r
  show Prog.Then V E ((ExceptT.mk (Prog.pure ((view r).mapError f)) >>= g).run) ∧
    (V op r → Prog.Must E ((ExceptT.mk (Prog.pure ((view r).mapError f)) >>= g).run))
  rcases hr : view r with e | a
  · refine ⟨trivial, fun hV => ?_⟩
    obtain ⟨a, ha⟩ := hok r hV
    rw [hr] at ha
    cases ha
  · exact ⟨hthen a, fun hV => hmust r a hV hr⟩

end after

/-! ## The end -/

/-- A call of `E` is the last one. -/
def Final (E : S.Op → Prop) : Prog S α → Prop
  | .pure _ => True
  | .call op k => (∀ r, (k r).Final E) ∧ (E op → ∀ r, ∃ a, k r = .pure a)

section final

variable {E : S.Op → Prop}

theorem final_perform {op : S.Op} : (perform op : Prog S (S.Res op)).Final E :=
  ⟨fun _ => trivial, fun _ r => ⟨r, rfl⟩⟩

theorem Calls.final {p : Prog S α} (hp : p.Calls fun op => ¬ E op) : p.Final E := by
  induction p with
  | pure a => trivial
  | call op k ih => exact ⟨fun r => ih r (hp.2 r), fun hop => absurd hop hp.1⟩

/-- Sequencing, where the last call is in the second part. -/
theorem final_bind_right {p : Prog S α} {f : α → Prog S β} (hp : p.Calls fun op => ¬ E op)
    (hf : ∀ a, (f a).Final E) : (p >>= f).Final E := by
  induction p with
  | pure a => exact hf a
  | call op k ih => exact ⟨fun r => ih r (hp.2 r), fun hop => absurd hop hp.1⟩

/-- Sequencing, where the second part makes no call. -/
theorem final_bind_left {p : Prog S α} {f : α → Prog S β} (hp : p.Final E)
    (hf : ∀ a, ∃ b, f a = .pure b) : (p >>= f).Final E := by
  induction p with
  | pure a =>
      obtain ⟨b, hb⟩ := hf a
      show (f a).Final E
      rw [hb]
      trivial
  | call op k ih =>
      refine ⟨fun r => ih r (hp.1 r), fun hop r => ?_⟩
      obtain ⟨a, ha⟩ := hp.2 hop r
      show ∃ b, (k r).bind f = .pure b
      rw [ha]
      exact hf a

theorem final_map {p : Prog S α} {f : α → β} (hp : p.Final E) : (f <$> p).Final E := by
  rw [← bind_pure_comp]
  exact final_bind_left hp fun a => ⟨f a, rfl⟩

theorem final_run_bind_right {x : ExceptT ε (Prog S) α} {f : α → ExceptT ε (Prog S) β}
    (hx : x.run.Calls fun op => ¬ E op) (hf : ∀ a, (f a).run.Final E) : (x >>= f).run.Final E := by
  rw [ExceptT.run_bind]
  refine final_bind_right hx fun r => ?_
  cases r with
  | ok a => exact hf a
  | error e => exact trivial

theorem final_run_bind_left {x : ExceptT ε (Prog S) α} {f : α → ExceptT ε (Prog S) β}
    (hx : x.run.Final E) (hf : ∀ a, ∃ b, (f a).run = .pure b) : (x >>= f).run.Final E := by
  rw [ExceptT.run_bind]
  refine final_bind_left hx fun r => ?_
  cases r with
  | ok a => exact hf a
  | error e => exact ⟨.error e, rfl⟩

end final

end Prog

/-! ## Among other programs -/

namespace Pool

variable [DecidableEq ι] {h : Handler S (ι × C) W}

/-- A step of the program `i` itself. -/
theorem step_call {P : Pool S ι α W} {i : ι} {op : S.Op} {k : S.Res op → Prog S α}
    (hi : P.threads i = .call op k) (c : C) :
    P.stepEvents i c = [⟨op, (i, c), P.world⟩] ∧
      (P.step h i c).threads i = k (h op (i, c) P.world).1 := by
  unfold stepEvents step
  rw [hi]
  exact ⟨rfl, Function.update_self _ _ _⟩

/-- A step of another program. -/
theorem step_other {P : Pool S ι α W} {i j : ι} (hji : j ≠ i) (c : C) :
    (P.step h j c).threads i = P.threads i ∧ ∀ ev ∈ P.stepEvents j c, ev.choice.1 = j := by
  unfold stepEvents step
  rcases P.threads j with a | ⟨op, k⟩
  · exact ⟨rfl, fun ev hev => absurd hev List.not_mem_nil⟩
  · refine ⟨Function.update_of_ne (Ne.symm hji) _ _, fun ev hev => ?_⟩
    rw [List.mem_singleton.mp hev]

/-- A program that has ended makes no call. -/
theorem step_ended {P : Pool S ι α W} {i : ι} {a : α} (hi : P.threads i = .pure a) (c : C) :
    P.step h i c = P ∧ P.stepEvents i c = [] := by
  unfold stepEvents step
  rw [hi]
  exact ⟨rfl, rfl⟩

/-- A program that has ended stays so. -/
theorem returned_run (sched : List (ι × C)) {P : Pool S ι α W} {i : ι} {a : α} (hi : P.Returned i a) :
    (P.run h sched).Returned i a := by
  induction sched generalizing P with
  | nil => exact hi
  | cons jc sched ih =>
      obtain ⟨j, c⟩ := jc
      apply ih
      by_cases hji : j = i
      · subst hji
        rw [(step_ended (h := h) hi c).1]
        exact hi
      · exact (step_other (h := h) hji c).1.trans hi

theorem events_append (P : Pool S ι α W) (sched sched' : List (ι × C)) :
    P.events h (sched ++ sched') = P.events h sched ++ (P.run h sched).events h sched' := by
  induction sched generalizing P with
  | nil => rfl
  | cons ic sched ih => simp [events, run, ih]

theorem run_append (P : Pool S ι α W) (sched sched' : List (ι × C)) :
    P.run h (sched ++ sched') = (P.run h sched).run h sched' := by
  induction sched generalizing P with
  | nil => rfl
  | cons ic sched ih => exact ih _

/-- **What comes before.** Along a schedule, a call of `I` of the program comes after one of its calls
that was answered as `R` says, and so does a result that `Q` does not allow. -/
theorem before_run {R : (op : S.Op) → S.Res op → Prop} {I : S.Op → Prop} {Q : α → Prop} {i : ι}
    (sched : List (ι × C)) {P : Pool S ι α W} (hP : (P.threads i).Before R I Q) :
    (∀ pre ev post, P.events h sched = pre ++ ev :: post → ev.choice.1 = i → I ev.op →
        ∃ e ∈ pre, e.choice.1 = i ∧ R e.op (e.res h)) ∧
      ∀ a, (P.run h sched).Returned i a → ¬ Q a →
        ∃ e ∈ P.events h sched, e.choice.1 = i ∧ R e.op (e.res h) := by
  induction sched generalizing P with
  | nil =>
      refine ⟨fun pre ev post hsplit _ _ => ?_, fun a ha hQ => ?_⟩
      · exact absurd hsplit (by simp [events])
      · rw [show P.threads i = .pure a from ha] at hP
        exact absurd hP hQ
  | cons jc sched ih =>
      obtain ⟨j, c⟩ := jc
      by_cases hfound : ∃ e ∈ P.stepEvents j c, e.choice.1 = i ∧ R e.op (e.res h)
      · -- the step itself is the call that was looked for
        obtain ⟨e, he, hei, hR⟩ := hfound
        refine ⟨fun pre ev post hsplit hev hI => ?_, fun a _ _ => ?_⟩
        · by_cases hji : j = i
          · subst hji
            rcases hj : P.threads j with a | ⟨op, k⟩
            · rw [(step_ended (h := h) hj c).2] at he
              exact absurd he List.not_mem_nil
            · have hcall := step_call (h := h) hj c
              rw [hj] at hP
              simp only [events, hcall.1, List.singleton_append] at hsplit
              rw [hcall.1] at he
              obtain rfl := List.mem_singleton.mp he
              rcases pre with _ | ⟨e₀, pre⟩
              · obtain ⟨rfl, -⟩ := List.cons_eq_cons.mp hsplit
                exact absurd hI hP.1
              · obtain ⟨rfl, -⟩ := List.cons_eq_cons.mp hsplit
                exact ⟨_, List.mem_cons_self, hei, hR⟩
          · exact absurd (((step_other (h := h) hji c).2 e he).symm.trans hei) hji
        · exact ⟨e, List.mem_append_left _ he, hei, hR⟩
      · have hnext : ((P.step h j c).threads i).Before R I Q ∧ ∀ ev ∈ P.stepEvents j c,
            ev.choice.1 = i → ¬ I ev.op := by
          by_cases hji : j = i
          · subst hji
            rcases hj : P.threads j with a | ⟨op, k⟩
            · obtain ⟨hstep, hnone⟩ := step_ended (h := h) hj c
              rw [hstep, hnone]
              exact ⟨hP, fun ev hev => absurd hev List.not_mem_nil⟩
            · obtain ⟨hevents, hthread⟩ := step_call (h := h) hj c
              rw [hj] at hP
              rw [hevents] at hfound ⊢
              rw [hthread]
              refine ⟨hP.2 _ fun hR => hfound ⟨_, List.mem_singleton_self _, rfl, hR⟩, ?_⟩
              intro ev hev _
              rw [List.mem_singleton.mp hev]
              exact hP.1
          · obtain ⟨hthread, hothers⟩ := step_other (h := h) hji c
            rw [hthread]
            exact ⟨hP, fun ev hev hi => absurd ((hothers ev hev).symm.trans hi) hji⟩
        obtain ⟨hcalls, hresult⟩ := ih hnext.1
        refine ⟨fun pre ev post hsplit hev hI => ?_, fun a ha hQ => ?_⟩
        · rw [events] at hsplit
          rcases List.append_eq_append_iff.mp hsplit with ⟨pre', rfl, hrest⟩ | ⟨l, hl, hrest⟩
          · obtain ⟨e, he, hei, hR⟩ := hcalls pre' ev post hrest hev hI
            exact ⟨e, List.mem_append_right _ he, hei, hR⟩
          · rcases l with _ | ⟨e₀, l⟩
            · rw [List.nil_append] at hrest
              obtain ⟨e, he, -⟩ := hcalls [] ev post hrest.symm hev hI
              exact absurd he List.not_mem_nil
            · obtain ⟨rfl, -⟩ := List.cons_eq_cons.mp hrest
              exact absurd hI (hnext.2 ev (by simp [hl]) hev)
        · obtain ⟨e, he, hei, hR⟩ := hresult a ha hQ
          exact ⟨e, List.mem_append_right _ he, hei, hR⟩

/-- A program that must make a call of `E` has made one when it has ended. -/
theorem must_run {E : S.Op → Prop} {i : ι} (sched : List (ι × C)) {P : Pool S ι α W}
    (hP : (P.threads i).Must E) {a : α} (hret : (P.run h sched).Returned i a) :
    ∃ e ∈ P.events h sched, e.choice.1 = i ∧ E e.op := by
  induction sched generalizing P with
  | nil =>
      rw [show P.threads i = .pure a from hret] at hP
      exact absurd hP id
  | cons jc sched ih =>
      obtain ⟨j, c⟩ := jc
      by_cases hji : j = i
      · subst hji
        rcases hj : P.threads j with b | ⟨op, k⟩
        · rw [hj] at hP
          exact absurd hP id
        · obtain ⟨hevents, hthread⟩ := step_call (h := h) hj c
          rw [hj] at hP
          rw [events, hevents]
          rcases hP with hE | hmust
          · exact ⟨_, List.mem_cons_self, rfl, hE⟩
          · obtain ⟨e, he, hei, hE⟩ := ih (hthread ▸ hmust _) hret
            exact ⟨e, List.mem_cons_of_mem _ he, hei, hE⟩
      · have hnext : ((P.step h j c).threads i).Must E := by
          rw [(step_other (h := h) hji c).1]
          exact hP
        obtain ⟨e, he, hei, hE⟩ := ih hnext hret
        exact ⟨e, List.mem_append_right _ he, hei, hE⟩

/-- **What comes after.** When the program has ended, a call of it that was answered as `V` says has
been followed by one of its calls of `E`. -/
theorem then_run {V : (op : S.Op) → S.Res op → Prop} {E : S.Op → Prop} {i : ι}
    (sched : List (ι × C)) {P : Pool S ι α W} (hP : (P.threads i).Then V E) {a : α}
    (hret : (P.run h sched).Returned i a) {pre post : List (Event S (ι × C) W)}
    {ev : Event S (ι × C) W} (hsplit : P.events h sched = pre ++ ev :: post)
    (hev : ev.choice.1 = i) (hV : V ev.op (ev.res h)) : ∃ e ∈ post, e.choice.1 = i ∧ E e.op := by
  induction sched generalizing P pre with
  | nil => exact absurd hsplit (by simp [events])
  | cons jc sched ih =>
      obtain ⟨j, c⟩ := jc
      by_cases hji : j = i
      · subst hji
        rcases hj : P.threads j with b | ⟨op, k⟩
        · obtain ⟨hstep, hnone⟩ := step_ended (h := h) hj c
          rw [events, hnone, hstep] at hsplit
          rw [run, hstep] at hret
          exact ih hP hret hsplit
        · obtain ⟨hevents, hthread⟩ := step_call (h := h) hj c
          rw [hj] at hP
          rw [events, hevents, List.singleton_append] at hsplit
          rcases pre with _ | ⟨e₀, pre⟩
          · obtain ⟨rfl, rfl⟩ := List.cons_eq_cons.mp hsplit
            exact must_run sched (hthread ▸ (hP _).2 hV) hret
          · obtain ⟨rfl, hrest⟩ := List.cons_eq_cons.mp hsplit
            exact ih (hthread ▸ (hP _).1) hret hrest
      · obtain ⟨hthread, hothers⟩ := step_other (h := h) hji c
        rw [← hthread] at hP
        rw [events] at hsplit
        rcases List.append_eq_append_iff.mp hsplit with ⟨pre', rfl, hrest⟩ | ⟨l, hl, hrest⟩
        · exact ih hP hret hrest
        · rcases l with _ | ⟨e₀, l⟩
          · have hnil : (P.step h j c).events h sched = [] ++ ev :: post := hrest.symm
            exact ih hP hret hnil
          · obtain ⟨rfl, -⟩ := List.cons_eq_cons.mp hrest
            have hstep : ev ∈ P.stepEvents j c := by
              rw [hl]
              exact List.mem_append_right _ List.mem_cons_self
            exact absurd ((hothers ev hstep).symm.trans hev) hji

/-- A program that has made its last call has ended. -/
theorem final_run {E : S.Op → Prop} {i : ι} (sched : List (ι × C)) {P : Pool S ι α W}
    (hP : (P.threads i).Final E) {e : Event S (ι × C) W} (he : e ∈ P.events h sched)
    (hei : e.choice.1 = i) (hE : E e.op) : ∃ a, (P.run h sched).Returned i a := by
  induction sched generalizing P with
  | nil => exact absurd he List.not_mem_nil
  | cons jc sched ih =>
      obtain ⟨j, c⟩ := jc
      rcases List.mem_append.mp he with he | he
      · -- the step itself is the last call, and nothing moves a program that has ended
        have hji : j = i := by
          by_contra hji
          exact hji (((step_other (h := h) hji c).2 e he).symm.trans hei)
        subst hji
        rcases hj : P.threads j with a | ⟨op, k⟩
        · rw [(step_ended (h := h) hj c).2] at he
          exact absurd he List.not_mem_nil
        · obtain ⟨hevents, hthread⟩ := step_call (h := h) hj c
          rw [hevents] at he
          obtain rfl := List.mem_singleton.mp he
          rw [hj] at hP
          obtain ⟨a, ha⟩ := hP.2 hE (h op (j, c) P.world).1
          exact ⟨a, returned_run (h := h) sched (hthread.trans ha)⟩
      · apply ih _ he
        by_cases hji : j = i
        · subst hji
          rcases hj : P.threads j with a | ⟨op, k⟩
          · rw [(step_ended (h := h) hj c).1, hj]
            trivial
          · rw [(step_call (h := h) hj c).2]
            rw [hj] at hP
            exact hP.1 _
        · rw [(step_other (h := h) hji c).1]
          exact hP

end Pool

end SsoGateway.Lib
