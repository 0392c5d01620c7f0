import SsoGateway.Lib.History

/-!
# A program inside a run

A long run often contains the run of a smaller program, in one piece, between calls that do not concern
it. What that program did is then what it would have done by itself.

* `Prog.run_bind`, `Prog.events_bind` — the run of a sequence of programs.
* `Inside` — the calls of one program, in one piece, among the calls of a run.
* `inside_bind_left`, `inside_bind_right`, `insideUnless_foldlM` — where the piece is found.
* `Inside.frame` — what the other calls keep.
* `run_agree` — two worlds a program cannot tell apart give the same run.
* `sat_of_agree` — two handlers a program cannot tell apart give it the same specifications.
* `exists_choices` — what every call can meet, a run can meet at each of its calls.

Nothing here is about a particular service.
-/

namespace SsoGateway.Lib.Prog

variable {S : Sig} {C W α β γ : Type} {h : Handler S C W}

/-! ## Sequences -/

theorem run_bind (p : Prog S α) (f : α → Prog S β) (o : ℕ → C) (w : W) :
    (p >>= f).run h o w = (f (p.run h o w).1).run h (fun n => o (n + (p.events h o w).length))
      (p.run h o w).2 := by
  induction p generalizing o w with
  | pure a => rfl
  | call op k ih =>
      -- the choices that are left are counted from the first call
      exact ih (h op (o 0) w).1 (fun n => o (n + 1)) (h op (o 0) w).2

theorem events_bind (p : Prog S α) (f : α → Prog S β) (o : ℕ → C) (w : W) :
    (p >>= f).events h o w = p.events h o w ++
      (f (p.run h o w).1).events h (fun n => o (n + (p.events h o w).length)) (p.run h o w).2 := by
  induction p generalizing o w with
  | pure a => rfl
  | call op k ih =>
      exact congrArg (List.cons _) (ih (h op (o 0) w).1 (fun n => o (n + 1)) (h op (o 0) w).2)

/-- Every call of a loop satisfies `E` if those of its steps do, in worlds that satisfy `I`. -/
theorem events_foldlM {τ : Type} {I : W → Prop} {E : Event S C W → Prop} {f : β → τ → Prog S β}
    (l : List τ)
    (hf : ∀ b, ∀ x ∈ l, ∀ o w, I w → (∀ ev ∈ (f b x).events h o w, E ev) ∧ I ((f b x).run h o w).2)
    (b : β) (o : ℕ → C) {w : W} (hw : I w) :
    (∀ ev ∈ (l.foldlM f b).events h o w, E ev) ∧ I ((l.foldlM f b).run h o w).2 := by
  induction l generalizing b o w with
  | nil => exact ⟨fun ev hev => absurd hev List.not_mem_nil, hw⟩
  | cons x l ih =>
      obtain ⟨hx, hnext⟩ := hf b x List.mem_cons_self o w hw
      obtain ⟨hl, hend⟩ := ih (fun b y hy => hf b y (List.mem_cons_of_mem x hy))
        ((f b x).run h o w).1 (fun n => o (n + ((f b x).events h o w).length)) hnext
      rw [List.foldlM_cons, events_bind, run_bind]
      refine ⟨fun ev hev => ?_, hend⟩
      rcases List.mem_append.mp hev with hev | hev
      · exact hx ev hev
      · exact hl ev hev

/-! ## A piece of a run -/

/-- The run of `p` from `w` under `o` contains that of `q` from `v` under `o'`, in one piece, with choices
of the run; the calls before it and after it satisfy `F`. -/
structure Inside (h : Handler S C W) (F : S.Op → Prop) (q : Prog S β) (o' : ℕ → C) (v : W)
    (p : Prog S α) (o : ℕ → C) (w : W) : Prop where
  choices : ∀ n, ∃ m, o' n = o m
  piece : ∃ before after, p.events h o w = before ++ (q.events h o' v ++ after) ∧
    Chained h w before v ∧ Chained h (q.run h o' v).2 after (p.run h o w).2 ∧
    (∀ ev ∈ before, F ev.op) ∧ ∀ ev ∈ after, F ev.op

section inside

variable {F : S.Op → Prop} {q : Prog S γ} {o o' : ℕ → C} {v w : W}

theorem inside_refl : Inside h F q o v q o v :=
  ⟨fun n => ⟨n, rfl⟩, [], [], by simp, rfl, rfl, by simp, by simp⟩

theorem inside_bind_left {p : Prog S α} {f : α → Prog S β} (hp : Inside h F q o' v p o w)
    (hF : ∀ o₁, ∀ ev ∈ (f (p.run h o w).1).events h o₁ (p.run h o w).2, F ev.op) :
    Inside h F q o' v (p >>= f) o w := by
  obtain ⟨hchoices, before, after, hsplit, hbefore, hafter, hFb, hFa⟩ := hp
  refine ⟨hchoices, before, after ++ (f (p.run h o w).1).events h
    (fun n => o (n + (p.events h o w).length)) (p.run h o w).2, ?_, hbefore, ?_, hFb, ?_⟩
  · rw [events_bind]
    nth_rewrite 1 [hsplit]
    simp only [List.append_assoc]
  · rw [run_bind]
    exact Chained.append.mpr ⟨_, hafter, chained_events _ _ _ _⟩
  · intro ev hev
    rcases List.mem_append.mp hev with hev | hev
    · exact hFa ev hev
    · exact hF _ ev hev

theorem inside_bind_right {p : Prog S α} {f : α → Prog S β} (hp : ∀ ev ∈ p.events h o w, F ev.op)
    (hf : Inside h F q o' v (f (p.run h o w).1) (fun n => o (n + (p.events h o w).length))
      (p.run h o w).2) : Inside h F q o' v (p >>= f) o w := by
  obtain ⟨hchoices, before, after, hsplit, hbefore, hafter, hFb, hFa⟩ := hf
  refine ⟨fun n => ?_, p.events h o w ++ before, after, ?_, ?_, ?_, ?_, hFa⟩
  · obtain ⟨m, hm⟩ := hchoices n
    exact ⟨_, hm⟩
  · rw [events_bind, List.append_assoc]
    exact congrArg _ hsplit
  · exact Chained.append.mpr ⟨_, chained_events _ _ _ _, hbefore⟩
  · rw [run_bind]
    exact hafter
  · intro ev hev
    rcases List.mem_append.mp hev with hev | hev
    · exact hp ev hev
    · exact hFb ev hev

theorem inside_map {p : Prog S α} {f : α → β} (hp : Inside h F q o' v p o w) :
    Inside h F q o' v (f <$> p) o w := by
  rw [← bind_pure_comp]
  exact inside_bind_left hp fun _ ev hev => absurd hev List.not_mem_nil

/-- The program is inside the run; or no call of the run concerns it, and one of them is `bad`. -/
def InsideUnless (h : Handler S C W) (F : S.Op → Prop) (bad : Event S C W → Prop) (q : Prog S γ)
    (p : Prog S α) (o : ℕ → C) (w : W) : Prop :=
  ((∃ ev ∈ p.events h o w, bad ev) ∧ ∀ ev ∈ p.events h o w, F ev.op) ∨
    ∃ o' v, Inside h F q o' v p o w

theorem insideUnless_bind_right {bad : Event S C W → Prop} {p : Prog S α} {f : α → Prog S β}
    (hp : ∀ ev ∈ p.events h o w, F ev.op)
    (hf : InsideUnless h F bad q (f (p.run h o w).1) (fun n => o (n + (p.events h o w).length))
      (p.run h o w).2) : InsideUnless h F bad q (p >>= f) o w := by
  rcases hf with ⟨⟨ev, hev, hbad⟩, hnone⟩ | ⟨o', v, hinside⟩
  · refine .inl ⟨⟨ev, ?_, hbad⟩, fun ev' hev' => ?_⟩
    · rw [events_bind]
      exact List.mem_append_right _ hev
    · rw [events_bind] at hev'
      rcases List.mem_append.mp hev' with hev' | hev'
      · exact hp ev' hev'
      · exact hnone ev' hev'
  · exact .inr ⟨o', v, inside_bind_right hp hinside⟩

theorem insideUnless_call {bad : Event S C W → Prop} {op : S.Op} {k : S.Res op → Prog S α} (hop : F op)
    (hk : InsideUnless h F bad q (k (h op (o 0) w).1) (fun n => o (n + 1)) (h op (o 0) w).2) :
    InsideUnless h F bad q (.call op k) o w := by
  refine insideUnless_bind_right (p := perform op) (f := k) (fun ev hev => ?_) hk
  rw [List.mem_singleton.mp hev]
  exact hop

theorem insideUnless_bind_left {bad : Event S C W → Prop} {p : Prog S α} {f : α → Prog S β}
    (hp : InsideUnless h F bad q p o w)
    (hF : ∀ o₁, ∀ ev ∈ (f (p.run h o w).1).events h o₁ (p.run h o w).2, F ev.op) :
    InsideUnless h F bad q (p >>= f) o w := by
  rcases hp with ⟨⟨ev, hev, hbad⟩, hnone⟩ | ⟨o', v, hinside⟩
  · refine .inl ⟨⟨ev, ?_, hbad⟩, fun ev' hev' => ?_⟩
    · rw [events_bind]
      exact List.mem_append_left _ hev
    · rw [events_bind] at hev'
      rcases List.mem_append.mp hev' with hev' | hev'
      · exact hnone ev' hev'
      · exact hF _ ev' hev'
  · exact .inr ⟨o', v, inside_bind_left hinside hF⟩

/-- One step of a loop is for the program, and the others do not concern it. -/
theorem insideUnless_foldlM {τ : Type} {I : W → Prop} {bad : Event S C W → Prop}
    {f : β → τ → Prog S β} {l₁ l₂ : List τ} {x : τ}
    (hf : ∀ b, ∀ y ∈ l₁ ++ l₂, ∀ o w, I w →
      (∀ ev ∈ (f b y).events h o w, F ev.op) ∧ I ((f b y).run h o w).2)
    (hx : ∀ b o w, I w → InsideUnless h F bad q (f b x) o w ∧ I ((f b x).run h o w).2)
    (b : β) (o : ℕ → C) {w : W} (hw : I w) :
    InsideUnless h F bad q ((l₁ ++ x :: l₂).foldlM f b) o w := by
  have hloop : (l₁ ++ x :: l₂).foldlM f b =
      (l₁.foldlM f b >>= fun b' => f b' x >>= fun b'' => l₂.foldlM f b'') := by
    rw [List.foldlM_append]
    simp only [List.foldlM_cons]
  rw [hloop]
  obtain ⟨hbefore, hnext⟩ := events_foldlM (E := fun ev => F ev.op) l₁
    (fun b y hy => hf b y (List.mem_append_left l₂ hy)) b o hw
  obtain ⟨hinside, hlast⟩ := hx (((l₁.foldlM f b).run h o w).1)
    (fun n => o (n + ((l₁.foldlM f b).events h o w).length)) _ hnext
  have hafter := fun b' o₁ => (events_foldlM (E := fun ev => F ev.op) l₂
    (fun b y hy => hf b y (List.mem_append_right l₁ hy)) b' o₁ hlast).1
  exact insideUnless_bind_right hbefore (insideUnless_bind_left hinside (hafter _))

/-- What the other calls keep. -/
theorem Inside.frame {p : Prog S α} {R : W → W → Prop} (hp : Inside h F q o' v p o w)
    (hrefl : ∀ u, R u u) (htrans : ∀ u u₁ u₂, R u u₁ → R u₁ u₂ → R u u₂)
    (hF : ∀ op c u, F op → R u (h op c u).2) : R w v ∧ R (q.run h o' v).2 (p.run h o w).2 := by
  obtain ⟨-, before, after, -, hbefore, hafter, hFb, hFa⟩ := hp
  have hkeep : ∀ {u u' : W} {evs}, Chained h u evs u' → (∀ ev ∈ evs, F ev.op) → R u u' := by
    intro u u' evs hchain hevs
    exact (hchain.invariant (I := R u) (hrefl u) fun ev hev hR =>
      htrans _ _ _ hR (hF ev.op ev.choice ev.before (hevs ev hev))).1
  exact ⟨hkeep hbefore hFb, hkeep hafter hFa⟩

/-- A call that concerns the program is one of its own. -/
theorem Inside.mem_events {p : Prog S α} (hp : Inside h F q o' v p o w) {ev : Event S C W} :
    (ev ∈ q.events h o' v → ev ∈ p.events h o w) ∧
      (ev ∈ p.events h o w → ¬ F ev.op → ev ∈ q.events h o' v) := by
  obtain ⟨-, before, after, hsplit, -, -, hFb, hFa⟩ := hp
  rw [hsplit]
  refine ⟨fun hev => List.mem_append_right _ (List.mem_append_left _ hev), fun hev hF => ?_⟩
  rcases List.mem_append.mp hev with hev | hev
  · exact absurd (hFb ev hev) hF
  · rcases List.mem_append.mp hev with hev | hev
    · exact hev
    · exact absurd (hFa ev hev) hF

end inside

/-! ## Worlds that cannot be told apart -/

/-- The calls of a program answer alike in two related worlds and keep them related: its runs from them
have the same result and the same calls, under the same choices. -/
theorem run_agree {P : S.Op → Prop} {R : W → W → Prop} {p : Prog S α} (hp : p.Calls P)
    (hagree : ∀ op c w v, P op → R w v → (h op c w).1 = (h op c v).1 ∧ R (h op c w).2 (h op c v).2)
    {o : ℕ → C} {w v : W} (hR : R w v) :
    (p.run h o w).1 = (p.run h o v).1 ∧ R (p.run h o w).2 (p.run h o v).2 ∧
      (p.events h o w).map (fun ev => (ev.op, ev.choice)) =
        (p.events h o v).map fun ev => (ev.op, ev.choice) := by
  induction p generalizing o w v with
  | pure a => exact ⟨rfl, hR, rfl⟩
  | call op k ih =>
      obtain ⟨hanswer, hnext⟩ := hagree op (o 0) w v hp.1 hR
      obtain ⟨hresult, hend, hevents⟩ := ih (h op (o 0) w).1 (hp.2 _) (o := fun n => o (n + 1)) hnext
      simp only [run, events, List.map_cons, ← hanswer]
      exact ⟨hresult, hend, congrArg (List.cons _) hevents⟩

/-- What a program does with one handler it does with every handler that agrees on its calls. -/
theorem sat_of_agree {P : S.Op → Prop} {h' : Handler S C W} {K : Contract S C W} {Q : α → W → Prop}
    {p : Prog S α} (hp : p.Calls P) (hagree : ∀ op, P op → ∀ c w, h op c w = h' op c w) {w : W}
    (hsat : p.Sat h K Q w) : p.Sat h' K Q w := by
  induction p generalizing w with
  | pure a => exact hsat
  | call op k ih =>
      intro w' hw c hc
      obtain ⟨hguar, hrest⟩ := hsat w' hw c hc
      rw [← hagree op hp.1 c w']
      exact ⟨hguar, ih _ (hp.2 _) hrest⟩

/-! ## Runs there are -/

/-- If every call can be made under a choice of that kind, then there is a run under such choices. -/
theorem exists_choices [Nonempty C] {A : S.Op → C → W → Prop} (hA : ∀ op w, ∃ c, A op c w) (p : Prog S α)
    (w : W) : ∃ o : ℕ → C, ∀ ev ∈ p.events h o w, A ev.op ev.choice ev.before := by
  induction p generalizing w with
  | pure a =>
      refine ⟨fun _ => Classical.arbitrary C, fun ev hev => ?_⟩
      exact absurd hev List.not_mem_nil
  | call op k ih =>
      obtain ⟨c, hc⟩ := hA op w
      obtain ⟨o, ho⟩ := ih (h op c w).1 (h op c w).2
      refine ⟨fun n => Nat.casesOn n c o, fun ev hev => ?_⟩
      rcases List.mem_cons.mp hev with rfl | hev
      · exact hc
      · exact ho ev hev

end SsoGateway.Lib.Prog
