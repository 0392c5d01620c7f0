import SsoGateway.Lib.Prog

/-!
# Straight-line programs

A program that makes its calls one after another and gives up at the first that fails. Its calls
are listed by labels, and `good` says when a call of a label is answered well; which fault of which
call ends the program can then be told from the choices alone.

* `Prog.Straight` — the calls of a program, from a world.
* `straight_bind`, `straight_forM` — sequencing and loops.
* `Straight.run_ok`, `Straight.run_error` — the run under given choices.
* `run_orThrow_bind` — the run of one call and what follows it.

Nothing here is about a particular service.
-/

namespace SsoGateway.Lib.Prog

variable {S : Sig} {C W α β ε ε' ν : Type}

/-- From `w`, the program makes one call for each label. After a good one it goes on, after any other
one it ends in an error. Every world on the way satisfies `I`, and a success ends in `P`. -/
def Straight (h : Handler S C W) (good : ν → C → Prop) (I : W → Prop) (P : α → W → Prop) :
    List ν → Prog S (Except ε α) → W → Prop
  | [], .pure (.ok a), w => P a w
  | n :: ns, .call op k, w => ∀ c, I (h op c w).2 ∧
      (good n c → (k (h op c w).1).Straight h good I P ns (h op c w).2) ∧
      (¬ good n c → ∃ e, k (h op c w).1 = .pure (.error e))
  | _, _, _ => False

section rules

variable {h : Handler S C W} {good : ν → C → Prop} {I : W → Prop} {w : W}

theorem straight_run_pure {P : α → W → Prop} {a : α} (ha : P a w) :
    (Pure.pure a : ExceptT ε (Prog S) α).run.Straight h good I P [] w := ha

/-- One call, whose answer is read as a result. -/
theorem straight_run_orThrow {P : α → W → Prop} {n : ν} {f : ε → ε'} (op : S.Op)
    (view : S.Res op → Except ε α)
    (hcall : ∀ c, I (h op c w).2 ∧
      (good n c → ∃ a, view (h op c w).1 = .ok a ∧ P a (h op c w).2) ∧
      (¬ good n c → ∃ e, view (h op c w).1 = .error e)) :
    (orThrow f (Prog.call op fun r => Prog.pure (view r))).run.Straight h good I P [n] w := by
  intro c
  obtain ⟨hI, hgood, hbad⟩ := hcall c
  refine ⟨hI, fun hc => ?_, fun hc => ?_⟩
  · obtain ⟨a, ha, hP⟩ := hgood hc
    show (Prog.pure (Except.mapError f (view _))).Straight h good I P [] _
    rw [ha]
    exact hP
  · obtain ⟨e, he⟩ := hbad hc
    refine ⟨f e, ?_⟩
    show Prog.pure (Except.mapError f (view _)) = _
    rw [he]
    rfl

/-- Weakening the postcondition. -/
theorem Straight.post {P P' : α → W → Prop} {ns : List ν} {p : Prog S (Except ε α)}
    (hp : p.Straight h good I P ns w) (hP : ∀ a w, P a w → P' a w) :
    p.Straight h good I P' ns w := by
  induction ns generalizing p w with
  | nil =>
      rcases p with (e | a) | ⟨op, k⟩
      · exact hp.elim
      · exact hP a w hp
      · exact hp.elim
  | cons n ns ih =>
      rcases p with r | ⟨op, k⟩
      · exact hp.elim
      · intro c
        obtain ⟨hI, hgood, hbad⟩ := hp c
        exact ⟨hI, fun hc => ih (hgood hc), hbad⟩

/-- Sequencing. -/
theorem straight_run_bind {P : α → W → Prop} {Q : β → W → Prop} {ns ns' : List ν}
    {x : ExceptT ε (Prog S) α} {f : α → ExceptT ε (Prog S) β}
    (hx : x.run.Straight h good I P ns w)
    (hf : ∀ a w', P a w' → (f a).run.Straight h good I Q ns' w') :
    (x >>= f).run.Straight h good I Q (ns ++ ns') w := by
  rw [ExceptT.run_bind]
  generalize x.run = p at hx
  induction ns generalizing p w with
  | nil =>
      rcases p with (e | a) | ⟨op, k⟩
      · exact hx.elim
      · exact hf a w hx
      · exact hx.elim
  | cons n ns ih =>
      rcases p with r | ⟨op, k⟩
      · exact hx.elim
      · intro c
        obtain ⟨hI, hgood, hbad⟩ := hx c
        refine ⟨hI, fun hc => ih _ (hgood hc), fun hc => ?_⟩
        obtain ⟨e, he⟩ := hbad hc
        refine ⟨e, ?_⟩
        show (k _ >>= _) = _
        rw [he]
        rfl

/-- A loop of one call for each item. -/
theorem straight_run_forM {τ : Type} {R : W → Prop} {n : ν} {f : τ → ExceptT ε (Prog S) PUnit}
    (hf : ∀ x w, R w → (f x).run.Straight h good I (fun _ => R) [n] w) (l : List τ) (hw : R w) :
    (l.forM f).run.Straight h good I (fun _ => R) (List.replicate l.length n) w := by
  induction l generalizing w with
  | nil => exact hw
  | cons x l ih =>
      show (f x >>= fun _ => l.forM f).run.Straight h good I _ ([n] ++ _) w
      exact straight_run_bind (hf x w hw) fun _ w' hw' => ih hw'

end rules

/-- The run of a program whose result is mapped. -/
theorem run_map {h : Handler S C W} (f : α → β) (p : Prog S α) (o : ℕ → C) (w : W) :
    (f <$> p).run h o w = (f (p.run h o w).1, (p.run h o w).2) := by
  rw [← bind_pure_comp]
  induction p generalizing o w with
  | pure a => rfl
  | call op k ih => exact ih _ _ _

theorem events_map {h : Handler S C W} (f : α → β) (p : Prog S α) (o : ℕ → C) (w : W) :
    (f <$> p).events h o w = p.events h o w := by
  induction p generalizing o w with
  | pure a => rfl
  | call op k ih => exact congrArg (List.cons _) (ih _ _ _)

/-- A success whose value is mapped. -/
theorem run_map_ok {h : Handler S C W} (f : α → β) {x : ExceptT ε (Prog S) α} {o : ℕ → C} {w w' : W}
    {a : α} (hx : x.run.run h o w = (.ok a, w')) : (f <$> x).run.run h o w = (.ok (f a), w') := by
  rw [ExceptT.run_map, run_map, hx]
  rfl

/-- The run of a call and what follows it. -/
theorem run_orThrow_bind {h : Handler S C W} {f : ε → ε'} (op : S.Op)
    (view : S.Res op → Except ε α) (g : α → ExceptT ε' (Prog S) β) (o : ℕ → C) (w : W) :
    ((orThrow f (Prog.call op fun r => Prog.pure (view r)) >>= g).run).run h o w =
      match view (h op (o 0) w).1 with
      | .ok a => (g a).run.run h (fun i => o (i + 1)) (h op (o 0) w).2
      | .error e => (.error (f e), (h op (o 0) w).2) := by
  rw [ExceptT.run_bind]
  show Prog.run h (Prog.pure (Except.mapError f (view _)) >>= _) _ _ = _
  rcases view (h op (o 0) w).1 with e | a
  · rfl
  · rfl

section runs

variable {h : Handler S C W} {good : ν → C → Prop} {I : W → Prop} {P : α → W → Prop} {w : W}

/-- If every call is good, what follows runs on the choices that are left. -/
theorem Straight.run_ok {ns : List ν} {x : ExceptT ε (Prog S) α}
    (hx : x.run.Straight h good I P ns w) (hw : I w) (o : ℕ → C)
    (hgood : ∀ i n, ns[i]? = some n → good n (o i)) :
    ∃ a w', I w' ∧ P a w' ∧ ∀ f : α → ExceptT ε (Prog S) β,
      (x >>= f).run.run h o w = (f a).run.run h (fun i => o (i + ns.length)) w' := by
  simp only [ExceptT.run_bind]
  generalize x.run = p at hx
  induction ns generalizing p w o with
  | nil =>
      rcases p with (e | a) | ⟨op, k⟩
      · exact hx.elim
      · exact ⟨a, w, hw, hx, fun f => rfl⟩
      · exact hx.elim
  | cons n ns ih =>
      rcases p with r | ⟨op, k⟩
      · exact hx.elim
      · obtain ⟨hI, hnext, -⟩ := hx (o 0)
        obtain ⟨a, w', hI', hP, hrun⟩ := ih hI (fun i => o (i + 1))
          (fun i m hm => hgood (i + 1) m hm) _ (hnext (hgood 0 n rfl))
        exact ⟨a, w', hI', hP, fun f => hrun f⟩

/-- If some call is not, what follows is not run. -/
theorem Straight.run_error {ns : List ν} {x : ExceptT ε (Prog S) α}
    (hx : x.run.Straight h good I P ns w) (o : ℕ → C)
    (hbad : ∃ i n, ns[i]? = some n ∧ ¬ good n (o i)) :
    ∃ e w', I w' ∧ ∀ f : α → ExceptT ε (Prog S) β, (x >>= f).run.run h o w = (.error e, w') := by
  simp only [ExceptT.run_bind]
  generalize x.run = p at hx
  induction ns generalizing p w o with
  | nil =>
      obtain ⟨i, n, hn, -⟩ := hbad
      simp at hn
  | cons n ns ih =>
      rcases p with r | ⟨op, k⟩
      · exact hx.elim
      · obtain ⟨hI, hnext, herror⟩ := hx (o 0)
        by_cases hgood : good n (o 0)
        · obtain ⟨i, m, hm, hc⟩ := hbad
          rcases i with _ | i
          · obtain rfl : n = m := by simpa using hm
            exact absurd hgood hc
          · exact ih (fun i => o (i + 1)) ⟨i, m, by simpa using hm, hc⟩ _ (hnext hgood)
        · -- the first call already ends the program
          obtain ⟨e, he⟩ := herror hgood
          refine ⟨e, (h op (o 0) w).2, hI, fun f => ?_⟩
          show Prog.run h (k _ >>= _) _ _ = _
          rw [he]
          rfl

/-- The result of a program all of whose calls are good. -/
theorem Straight.result_ok {ns : List ν} {x : ExceptT ε (Prog S) α}
    (hx : x.run.Straight h good I P ns w) (hw : I w) (o : ℕ → C)
    (hgood : ∀ i n, ns[i]? = some n → good n (o i)) :
    ∃ a w', I w' ∧ P a w' ∧ x.run.run h o w = (.ok a, w') := by
  obtain ⟨a, w', hI, hP, hrun⟩ := hx.run_ok (β := α) hw o hgood
  have hpure := hrun Pure.pure
  rw [bind_pure] at hpure
  exact ⟨a, w', hI, hP, hpure⟩

/-- The result of a program one of whose calls is not. -/
theorem Straight.result_error {ns : List ν} {x : ExceptT ε (Prog S) α}
    (hx : x.run.Straight h good I P ns w) (o : ℕ → C)
    (hbad : ∃ i n, ns[i]? = some n ∧ ¬ good n (o i)) :
    ∃ e w', I w' ∧ x.run.run h o w = (.error e, w') := by
  obtain ⟨e, w', hI, hrun⟩ := hx.run_error (β := α) o hbad
  have hpure := hrun Pure.pure
  rw [bind_pure] at hpure
  exact ⟨e, w', hI, hpure⟩

end runs

end SsoGateway.Lib.Prog
