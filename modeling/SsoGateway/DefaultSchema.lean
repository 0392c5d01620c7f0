import SsoGateway.IdentitySchemas

/-!
# The default schema of a tenant

At most one schema of a tenant is to be its default, and a call that fails is to leave the default
as it is. The calls get there by unmarking the default first, where they do so at all.

* `SchemaCall` — a call with the choices its statements are answered by.
* `Tidy` — the state and the call it is safe in.
* `one_default_iff` — a sequence of calls keeps the law just if each of them is tidy.
* `second_default` — a second default, and a default gone with an error.
-/

namespace SsoGateway

open Lib

/-! ## The law -/

namespace Schemas

/-- The tenant has a schema of that id. -/
def HasSchema (s : Schemas) (tenantId schemaId : String) : Prop :=
  s.Affects (IdentitySchemaRow.Named tenantId schemaId)

/-- The schema is marked as the tenant's default. -/
def IsDefault (s : Schemas) (tenantId schemaId : String) : Prop :=
  s.Affects fun r => r.Named tenantId schemaId ∧ r.isDefault = true

instance (s : Schemas) (tenantId schemaId : String) : Decidable (s.IsDefault tenantId schemaId) :=
  inferInstanceAs (Decidable (∃ r ∈ s.rows, r.Named tenantId schemaId ∧ r.isDefault = true))

/-- Some schema of the tenant is marked. -/
def HasDefault (s : Schemas) (tenantId : String) : Prop := ∃ schemaId, s.IsDefault tenantId schemaId

/-- No tenant has two schemas marked. -/
def AtMostOneDefault (s : Schemas) : Prop :=
  ∀ t i i', s.IsDefault t i → s.IsDefault t i' → i = i'

/-- The same schemas are marked. -/
def SameDefaults (s s' : Schemas) : Prop := ∀ t i, s'.IsDefault t i ↔ s.IsDefault t i

/-- What a call is to keep that leads from `s` to `s'`, whether it fails or not. -/
structure Lawful (s : Schemas) (failed : Prop) (s' : Schemas) : Prop where
  atMostOne : s'.AtMostOneDefault
  same : failed → s.SameDefaults s'

theorem SameDefaults.rfl {s : Schemas} : s.SameDefaults s := fun _ _ => Iff.rfl

theorem empty_atMostOne : AtMostOneDefault .empty := by
  rintro t i i' ⟨r, hr, -⟩
  exact absurd hr List.not_mem_nil

end Schemas

/-- A call, with the choices its statements are answered by. -/
structure SchemaCall where
  ctx : RequestContext
  request : SchemaRequest
  choices : ℕ → Choice

namespace SchemaCall

/-- The answer of the call, and the table after it. -/
def run (call : SchemaCall) (s : Schemas) : Except ServiceError (Option IdentitySchemaRow) × Schemas :=
  (call.request.method call.ctx).run.run schemaHandler call.choices s

/-- The `n`-th statement fails. -/
def Refused (call : SchemaCall) (n : ℕ) : Prop := ((call.choices n).fault 0).isSome

/-- A statement that fails has had no effect. -/
def AnswersKept (call : SchemaCall) : Prop :=
  ∀ n, ∀ f ∈ (call.choices n).fault 0, f.applied = false

/-- The call keeps the law in `s`. -/
def Lawful (call : SchemaCall) (s : Schemas) : Prop :=
  s.Lawful (∃ e, (call.run s).1 = .error e) (call.run s).2

/-- Every call of the sequence keeps the law. -/
def AllLawful : Schemas → List SchemaCall → Prop
  | _, [] => True
  | s, call :: calls => call.Lawful s ∧ AllLawful (call.run s).2 calls

/-- The tenant of a call that passes its checks. -/
def tenant? (call : SchemaCall) : Option String :=
  match requireTenantScope call.ctx scopeIdentityAdmin, call.request with
  | .ok t, .create _ document _ => (requestSchema document).toOption.map fun _ => t
  | .ok t, .update _ document _ => (requestSchema document).toOption.map fun _ => t
  | .ok t, .setDefault _ => some t
  | .ok t, .delete _ => some t
  | .error _, _ => none

/-- A default is not unset for nothing: the schema that is to follow it exists, and is marked. -/
def Succeeded (call : SchemaCall) (s : Schemas) (tenantId schemaId : String) : Prop :=
  s.HasDefault tenantId → ¬ call.Refused 0 → s.HasSchema tenantId schemaId ∧ ¬ call.Refused 1

/-- The call keeps the law in `s`: a new schema is not made a second default, and a default is unset
only in favour of a schema that exists. -/
def Tidy (call : SchemaCall) (s : Schemas) : Prop :=
  ∀ t, call.tenant? = some t → match call.request with
    | .create schemaId _ true => s.HasDefault t → ¬ call.Refused 0 → s.HasSchema t schemaId
    | .update schemaId _ true => call.Succeeded s t schemaId
    | .setDefault schemaId => call.Succeeded s t schemaId
    | _ => True

/-- Every call of the sequence is tidy. -/
def AllTidy : Schemas → List SchemaCall → Prop
  | _, [] => True
  | s, call :: calls => call.Tidy s ∧ AllTidy (call.run s).2 calls

end SchemaCall

/-! ## What the statements do to the defaults -/

namespace Schemas

variable {s : Schemas} {t i : String}

/-- A statement that fails without effect, or succeeds with its own. -/
theorem answer_cases {α : Type} {r : Except DbError α × Schemas} {f : Option Fault}
    (hkept : ∀ g ∈ f, g.applied = false) :
    (f.isSome ∧ (∃ e, (Fault.answer Fault.sqlx s r f).1 = .error e) ∧ (Fault.answer Fault.sqlx s r f).2 = s) ∨
      (f = none ∧ Fault.answer Fault.sqlx s r f = r) := by
  cases f with
  | none => exact .inr ⟨rfl, rfl⟩
  | some g =>
      have happlied := hkept g rfl
      refine .inl ⟨rfl, ⟨_, rfl⟩, ?_⟩
      simp [Fault.answer, happlied]

theorem ok_not_error {ε α : Type} {a : α} : ¬ ∃ e, (.ok a : Except ε α) = .error e := by
  rintro ⟨e, he⟩
  cases he

/-- A row is inserted unless the schema exists. -/
theorem insertRow_cases (row : IdentitySchemaRow) :
    (s.HasSchema row.tenantId row.schemaId ∧ (∃ e, (s.insertRow row).1 = .error e) ∧
        (s.insertRow row).2 = s) ∨
      (¬ s.HasSchema row.tenantId row.schemaId ∧ (s.insertRow row).1 = .ok row ∧
        ∀ t' i', (s.insertRow row).2.IsDefault t' i' ↔
          (row.Named t' i' ∧ row.isDefault = true) ∨ s.IsDefault t' i') := by
  unfold insertRow
  rcases hinsert : s.insert? row with _ | s'
  · obtain ⟨r, hr, hsame⟩ := Table.insert?_eq_none hinsert
    exact .inl ⟨⟨r, hr, hsame.1.symm, hsame.2.symm⟩, ⟨_, rfl⟩, rfl⟩
  · obtain ⟨hrows, hnew⟩ := Table.insert?_eq_some hinsert
    refine .inr ⟨?_, rfl, fun t' i' => ?_⟩
    · rintro ⟨r, hr, hnamed⟩
      exact hnew r hr ⟨hnamed.1.symm, hnamed.2.symm⟩
    · simp [IsDefault, Table.Affects, hrows]

theorem mem_updateWhere {p : IdentitySchemaRow → Prop} [DecidablePred p]
    {f : IdentitySchemaRow → IdentitySchemaRow} {hf : IdentitySchemaRow.KeepsKey f}
    {r : IdentitySchemaRow} :
    r ∈ (s.updateWhere p f hf).rows ↔ ∃ r₀ ∈ s.rows, (if p r₀ then f r₀ else r₀) = r :=
  List.mem_map

/-- An update leaves the schemas that there are. -/
theorem hasSchema_updateWhere {p : IdentitySchemaRow → Prop} [DecidablePred p]
    {f : IdentitySchemaRow → IdentitySchemaRow} {hf : IdentitySchemaRow.KeepsKey f} (t' i' : String) :
    (s.updateWhere p f hf).HasSchema t' i' ↔ s.HasSchema t' i' := by
  have hkeep : ∀ r : IdentitySchemaRow, (if p r then f r else r).Named t' i' ↔ r.Named t' i' := by
    intro r
    split
    · simp [IdentitySchemaRow.Named, hf r]
    · exact Iff.rfl
  constructor
  · rintro ⟨r, hr, hnamed⟩
    obtain ⟨r₀, hr₀, rfl⟩ := mem_updateWhere.mp hr
    exact ⟨r₀, hr₀, (hkeep r₀).mp hnamed⟩
  · rintro ⟨r, hr, hnamed⟩
    exact ⟨_, mem_updateWhere.mpr ⟨r, hr, rfl⟩, (hkeep r).mpr hnamed⟩

/-- A change of one schema marks it or unmarks it. -/
theorem isDefault_updateNamed {f : IdentitySchemaRow → IdentitySchemaRow}
    {hf : IdentitySchemaRow.KeepsKey f} {b : Bool} (hb : ∀ r, (f r).isDefault = b) (t' i' : String) :
    (s.updateWhere (IdentitySchemaRow.Named t i) f hf).IsDefault t' i' ↔
      if t' = t ∧ i' = i then s.HasSchema t i ∧ b = true else s.IsDefault t' i' := by
  constructor
  · rintro ⟨r, hr, hnamed, hdefault⟩
    obtain ⟨r₀, hr₀, rfl⟩ := mem_updateWhere.mp hr
    by_cases hp : r₀.Named t i
    · simp only [hp, if_true] at hnamed hdefault
      obtain rfl : t = t' := by rw [← hp.1, ← (hf r₀).1, hnamed.1]
      obtain rfl : i = i' := by rw [← hp.2, ← (hf r₀).2, hnamed.2]
      simp only [and_self, if_true]
      exact ⟨⟨r₀, hr₀, hp⟩, hb r₀ ▸ hdefault⟩
    · simp only [hp, if_false] at hnamed hdefault
      have hother : ¬ (t' = t ∧ i' = i) := by
        rintro ⟨rfl, rfl⟩
        exact hp hnamed
      rw [if_neg hother]
      exact ⟨r₀, hr₀, hnamed, hdefault⟩
  · intro h
    by_cases hsame : t' = t ∧ i' = i
    · obtain ⟨rfl, rfl⟩ := hsame
      simp only [and_self, if_true] at h
      obtain ⟨⟨r, hr, hnamed⟩, rfl⟩ := h
      refine ⟨f r, mem_updateWhere.mpr ⟨r, hr, if_pos hnamed⟩, ?_, hb r⟩
      simpa [IdentitySchemaRow.Named, hf r] using hnamed
    · rw [if_neg hsame] at h
      obtain ⟨r, hr, hnamed, hdefault⟩ := h
      refine ⟨r, mem_updateWhere.mpr ⟨r, hr, if_neg fun hp => hsame ?_⟩, hnamed, hdefault⟩
      exact ⟨hnamed.1.symm.trans hp.1, hnamed.2.symm.trans hp.2⟩

/-- The default is unset, and nothing else. -/
theorem isDefault_unset (t' i' : String) :
    (s.updateWhere (IdentitySchemaRow.DefaultOf t) (.flagged false)
      (IdentitySchemaRow.flagged_keepsKey false)).IsDefault t' i' ↔ t' ≠ t ∧ s.IsDefault t' i' := by
  constructor
  · rintro ⟨r, hr, hnamed, hdefault⟩
    obtain ⟨r₀, hr₀, rfl⟩ := mem_updateWhere.mp hr
    by_cases hp : r₀.DefaultOf t
    · simp [hp, IdentitySchemaRow.flagged] at hdefault
    · simp only [hp, if_false] at hnamed hdefault
      exact ⟨fun heq => hp ⟨hnamed.1.trans heq, hdefault⟩, r₀, hr₀, hnamed, hdefault⟩
  · rintro ⟨hother, r, hr, hnamed, hdefault⟩
    refine ⟨r, mem_updateWhere.mpr ⟨r, hr, if_neg fun hp => hother ?_⟩, hnamed, hdefault⟩
    exact hnamed.1.symm.trans hp.1

/-- A change of one schema finds it, or there is none. -/
theorem updateReturning_cases (s : Schemas) (t i : String) {f : IdentitySchemaRow → IdentitySchemaRow}
    (hf : IdentitySchemaRow.KeepsKey f) :
    (¬ s.HasSchema t i ∧ s.updateReturning t i f hf = (.error .schemaNotFound, s)) ∨
      (s.HasSchema t i ∧ ∃ row, s.updateReturning t i f hf =
        (.ok row, s.updateWhere (IdentitySchemaRow.Named t i) f hf)) := by
  unfold updateReturning
  rcases hfind : s.find? (IdentitySchemaRow.Named t i) with _ | r
  · exact .inl ⟨Table.find?_eq_none.mp hfind, rfl⟩
  · exact .inr ⟨⟨r, Table.find?_eq_some hfind⟩, f r, rfl⟩

/-- A deleted schema is no default. -/
theorem isDefault_deleteRow (t' i' : String) (h : (s.deleteRow t i).2.IsDefault t' i') :
    s.IsDefault t' i' := by
  unfold deleteRow at h
  split at h
  · obtain ⟨r, hr, hrest⟩ := h
    exact ⟨r, (Table.mem_deleteWhere.mp hr).1, hrest⟩
  · exact h

/-- A change that unmarks at most, and has no effect where it fails, keeps the law. -/
theorem Lawful.of_subset {failed : Prop} {s' : Schemas} (hone : s.AtMostOneDefault)
    (hsub : ∀ t i, s'.IsDefault t i → s.IsDefault t i) (hsame : failed → s.SameDefaults s') :
    s.Lawful failed s' :=
  ⟨fun t' i i' hi hi' => hone t' i i' (hsub t' i hi) (hsub t' i' hi'), hsame⟩

end Schemas

/-! ## The calls -/

namespace SchemaCall

variable {s : Schemas} {t i : String} {ctx : RequestContext} {o : ℕ → Choice}
  {document : Option (Except String Value)} {json : Value} {b : Bool}

/-- The answer of a last statement, as the call gives it. -/
def reply (r : Except DbError IdentitySchemaRow × Schemas) :
    Except ServiceError (Option IdentitySchemaRow) × Schemas :=
  ((r.1.mapError ServiceError.ofDbError).map some, r.2)

theorem reply_error {r : Except DbError IdentitySchemaRow × Schemas} :
    (∃ e, (reply r).1 = .error e) ↔ ∃ e, r.1 = .error e := by
  unfold reply
  rcases r.1 with e | row
  · exact iff_of_true ⟨_, rfl⟩ ⟨e, rfl⟩
  · refine iff_of_false ?_ ?_ <;> rintro ⟨e, he⟩ <;> cases he

/-- The default is unset, and then a schema is changed. -/
def exchange (o : ℕ → Choice) (t i : String) (f : IdentitySchemaRow → IdentitySchemaRow)
    (hf : IdentitySchemaRow.KeepsKey f) (s : Schemas) : Except DbError IdentitySchemaRow × Schemas :=
  let unset := schemaHandler (.unsetDefault t) (o 0) s
  match unset.1 with
  | .error e => (.error e, unset.2)
  | .ok () => Fault.answer Fault.sqlx unset.2 (unset.2.updateReturning t i f hf) ((o 1).fault 0)

section runs

variable (hctx : requireTenantScope ctx scopeIdentityAdmin = .ok t)
  (hdoc : requestSchema document = .ok json)

include hctx

include hdoc in
theorem run_create :
    run ⟨ctx, .create i document b, o⟩ s = reply (schemaHandler (.insert t i json b) (o 0) s) := by
  unfold run SchemaRequest.method reply
  simp only [hctx, hdoc]
  show Prog.run schemaHandler (Prog.call (.insert t i json b) _) o s = _
  rw [Prog.run]
  rcases (schemaHandler (.insert t i json b) (o 0) s).1 with _ | _ <;> rfl

include hdoc in
theorem run_update_false :
    run ⟨ctx, .update i document false, o⟩ s =
      reply (schemaHandler (.rewrite t i json false) (o 0) s) := by
  unfold run SchemaRequest.method reply
  simp only [hctx, hdoc]
  show Prog.run schemaHandler (Prog.call (.rewrite t i json false) _) o s = _
  rw [Prog.run]
  rcases (schemaHandler (.rewrite t i json false) (o 0) s).1 with _ | _ <;> rfl

include hdoc in
theorem run_update_true :
    run ⟨ctx, .update i document true, o⟩ s =
      reply (exchange o t i (.rewritten json true) (IdentitySchemaRow.rewritten_keepsKey json true) s) := by
  unfold run SchemaRequest.method exchange reply
  simp only [hctx, hdoc]
  show Prog.run schemaHandler (Prog.call (.unsetDefault t) _) o s = _
  rw [Prog.run]
  rcases (schemaHandler (.unsetDefault t) (o 0) s).1 with _ | _
  · rfl
  · show Prog.run schemaHandler (Prog.call (.rewrite t i json true) _) _ _ = _
    rw [Prog.run]
    rcases hset : (schemaHandler (.rewrite t i json true) (o 1)
      (schemaHandler (.unsetDefault t) (o 0) s).2).1 with _ | _ <;> simp only [schemaHandler] at hset ⊢ <;>
      rw [hset] <;> rfl

theorem run_setDefault :
    run ⟨ctx, .setDefault i, o⟩ s =
      reply (exchange o t i (.flagged true) (IdentitySchemaRow.flagged_keepsKey true) s) := by
  unfold run SchemaRequest.method exchange reply
  simp only [hctx]
  show Prog.run schemaHandler (Prog.call (.unsetDefault t) _) o s = _
  rw [Prog.run]
  rcases (schemaHandler (.unsetDefault t) (o 0) s).1 with _ | _
  · rfl
  · show Prog.run schemaHandler (Prog.call (.markDefault t i) _) _ _ = _
    rw [Prog.run]
    rcases hset : (schemaHandler (.markDefault t i) (o 1)
      (schemaHandler (.unsetDefault t) (o 0) s).2).1 with _ | _ <;> simp only [schemaHandler] at hset ⊢ <;>
      rw [hset] <;> rfl

theorem run_delete :
    run ⟨ctx, .delete i, o⟩ s =
      (((schemaHandler (.delete t i) (o 0) s).1.mapError ServiceError.ofDbError).map fun _ => none,
        (schemaHandler (.delete t i) (o 0) s).2) := by
  unfold run SchemaRequest.method
  simp only [hctx]
  show Prog.run schemaHandler (Prog.call (.delete t i) _) o s = _
  rw [Prog.run]
  rcases (schemaHandler (.delete t i) (o 0) s).1 with _ | _ <;> rfl

end runs

/-- A call that does not pass its checks fails without a statement. -/
theorem run_unchecked {call : SchemaCall} (h : call.tenant? = none) :
    ∃ e, call.run s = (.error e, s) := by
  obtain ⟨ctx, request, o⟩ := call
  unfold tenant? at h
  rcases hctx : requireTenantScope ctx scopeIdentityAdmin with e | t
  · refine ⟨e, ?_⟩
    unfold run SchemaRequest.method
    cases request <;> simp only [hctx] <;> rfl
  · cases request with
    | create i document b =>
        simp only [hctx] at h
        rcases hdoc : requestSchema document with e | json
        · refine ⟨e, ?_⟩
          unfold run SchemaRequest.method
          simp only [hctx, hdoc]
          rfl
        · simp [hdoc, Except.toOption] at h
    | update i document b =>
        simp only [hctx] at h
        rcases hdoc : requestSchema document with e | json
        · refine ⟨e, ?_⟩
          unfold run SchemaRequest.method
          simp only [hctx, hdoc]
          rfl
        · simp [hdoc, Except.toOption] at h
    | setDefault i => simp [hctx] at h
    | delete i => simp [hctx] at h

section lawful

variable (hone : s.AtMostOneDefault) (hkept : ∀ n, ∀ f ∈ (o n).fault 0, f.applied = false)

include hone hkept

/-- An insertion keeps the law unless it adds a default to another. -/
theorem insert_lawful :
    s.Lawful (∃ e, (schemaHandler (.insert t i json b) (o 0) s).1 = .error e)
        (schemaHandler (.insert t i json b) (o 0) s).2 ↔
      (b = true → s.HasDefault t → ¬ ((o 0).fault 0).isSome → s.HasSchema t i) := by
  simp only [schemaHandler]
  rcases Schemas.answer_cases (s := s) (r := s.insertRow ⟨t, i, 1, json, b⟩) (hkept 0) with
    ⟨hsome, -, hsame⟩ | ⟨hnone, hanswer⟩
  · rw [hsame]
    exact iff_of_true ⟨hone, fun _ => .rfl⟩ fun _ _ hnot => absurd hsome hnot
  · rw [hanswer, hnone]
    rcases s.insertRow_cases ⟨t, i, 1, json, b⟩ with ⟨hhas, -, hsame⟩ | ⟨hnew, hok, hdefaults⟩
    · rw [hsame]
      exact iff_of_true ⟨hone, fun _ => .rfl⟩ fun _ _ _ => hhas
    · have hstays : ∀ t' i', s.IsDefault t' i' →
          (s.insertRow ⟨t, i, 1, json, b⟩).2.IsDefault t' i' := fun t' i' h => (hdefaults t' i').mpr (.inr h)
      constructor
      · rintro hlaw rfl ⟨i', hi'⟩ -
        have hadded := (hdefaults t i).mpr (.inl ⟨⟨rfl, rfl⟩, rfl⟩)
        have heq := hlaw.atMostOne t i i' hadded (hstays t i' hi')
        obtain ⟨r, hr, hnamed, -⟩ := hi'
        exact ⟨r, hr, heq ▸ hnamed⟩
      · intro htidy
        refine ⟨fun t' i₁ i₂ h₁ h₂ => ?_, fun he => ?_⟩
        · rcases (hdefaults t' i₁).mp h₁ with ⟨hn₁, hb⟩ | h₁ <;>
            rcases (hdefaults t' i₂).mp h₂ with ⟨hn₂, hb'⟩ | h₂
          · exact hn₁.2.symm.trans hn₂.2
          · obtain rfl : t = t' := hn₁.1
            exact absurd (htidy hb ⟨i₂, h₂⟩ (by simp)) hnew
          · obtain rfl : t = t' := hn₂.1
            exact absurd (htidy hb' ⟨i₁, h₁⟩ (by simp)) hnew
          · exact hone t' i₁ i₂ h₁ h₂
        · rw [hok] at he
          exact absurd he Schemas.ok_not_error

/-- A change of one schema that does not mark it keeps the law. -/
theorem rewrite_lawful :
    s.Lawful (∃ e, (schemaHandler (.rewrite t i json false) (o 0) s).1 = .error e)
      (schemaHandler (.rewrite t i json false) (o 0) s).2 := by
  simp only [schemaHandler]
  rcases Schemas.answer_cases (s := s) (r := s.updateReturning t i (.rewritten json false)
    (IdentitySchemaRow.rewritten_keepsKey json false)) (hkept 0) with ⟨-, -, hsame⟩ | ⟨-, hanswer⟩
  · rw [hsame]
    exact ⟨hone, fun _ => .rfl⟩
  · rw [hanswer]
    rcases s.updateReturning_cases t i (IdentitySchemaRow.rewritten_keepsKey json false) with
      ⟨-, hrun⟩ | ⟨-, row, hrun⟩
    · rw [hrun]
      exact ⟨hone, fun _ => .rfl⟩
    · rw [hrun]
      refine .of_subset hone (fun t' i' h => ?_) fun he => absurd he Schemas.ok_not_error
      rw [Schemas.isDefault_updateNamed (b := false) fun _ => rfl] at h
      split at h
      · exact absurd h.2 Bool.false_ne_true
      · exact h

/-- So does the removal of one. -/
theorem delete_lawful :
    s.Lawful (∃ e, (schemaHandler (.delete t i) (o 0) s).1 = .error e)
      (schemaHandler (.delete t i) (o 0) s).2 := by
  simp only [schemaHandler]
  rcases Schemas.answer_cases (s := s) (r := s.deleteRow t i) (hkept 0) with
    ⟨-, -, hsame⟩ | ⟨-, hanswer⟩
  · rw [hsame]
    exact ⟨hone, fun _ => .rfl⟩
  · rw [hanswer]
    refine .of_subset hone Schemas.isDefault_deleteRow ?_
    rintro ⟨e, he⟩
    unfold Schemas.deleteRow at he ⊢
    split at he
    · cases he
    · rename_i hnone
      rw [if_neg hnone]
      exact .rfl

/-- An exchange keeps the law unless it unsets a default and marks none. -/
theorem exchange_lawful {f : IdentitySchemaRow → IdentitySchemaRow} {hf : IdentitySchemaRow.KeepsKey f}
    (hmarks : ∀ r, (f r).isDefault = true) :
    s.Lawful (∃ e, (exchange o t i f hf s).1 = .error e) (exchange o t i f hf s).2 ↔
      (s.HasDefault t → ¬ ((o 0).fault 0).isSome → s.HasSchema t i ∧ ¬ ((o 1).fault 0).isSome) := by
  simp only [exchange, schemaHandler]
  rcases Schemas.answer_cases (s := s) (r := ((.ok () : Except DbError Unit),
    s.updateWhere (IdentitySchemaRow.DefaultOf t) (.flagged false)
      (IdentitySchemaRow.flagged_keepsKey false))) (hkept 0) with ⟨hsome, ⟨e, he⟩, hsame⟩ | ⟨hnone, hanswer⟩
  · simp only [he, hsame]
    exact iff_of_true ⟨hone, fun _ => .rfl⟩ fun _ hnot => absurd hsome hnot
  · simp only [hnone, Fault.answer_none]
    set u := s.updateWhere (IdentitySchemaRow.DefaultOf t) (.flagged false)
      (IdentitySchemaRow.flagged_keepsKey false) with hu
    have hunset : ∀ t' i', u.IsDefault t' i' ↔ t' ≠ t ∧ s.IsDefault t' i' :=
      Schemas.isDefault_unset
    -- Where the second statement fails, the default stays unset.
    have hlost : ∀ failed : Prop, failed → (s.Lawful failed u ↔ ¬ s.HasDefault t) := by
      intro failed hfailed
      constructor
      · rintro hlaw ⟨i', hi'⟩
        exact ((hunset t i').mp ((hlaw.same hfailed t i').mpr hi')).1 rfl
      · intro hno
        refine .of_subset hone (fun t' i' h => ((hunset t' i').mp h).2) fun _ t' i' => ?_
        rw [hunset]
        refine and_iff_right_of_imp ?_
        rintro h rfl
        exact hno ⟨i', h⟩
    rcases Schemas.answer_cases (s := u) (r := u.updateReturning t i f hf) (hkept 1) with
      ⟨hsome, ⟨e, he⟩, hsame⟩ | ⟨hnone', hanswer'⟩
    · rw [hsame, hlost _ ⟨e, he⟩]
      simp [hsome]
    · rw [hanswer', hnone']
      have hhas : u.HasSchema t i ↔ s.HasSchema t i := Schemas.hasSchema_updateWhere t i
      rcases u.updateReturning_cases t i hf with ⟨hmissing, hrun⟩ | ⟨hfound, row, hrun⟩
      · rw [hrun, hlost _ ⟨_, rfl⟩]
        simp [← hhas, hmissing]
      · rw [hrun]
        refine iff_of_true ⟨fun t' i₁ i₂ h₁ h₂ => ?_, fun he => absurd he Schemas.ok_not_error⟩
          fun _ _ => ⟨hhas.mp hfound, by simp⟩
        rw [Schemas.isDefault_updateNamed hmarks] at h₁ h₂
        by_cases ht : t' = t
        · subst ht
          have hthis : ∀ i', (if t' = t' ∧ i' = i then u.HasSchema t' i ∧ true = true
              else u.IsDefault t' i') → i' = i := by
            intro i' h
            by_contra hne
            simp only [hne, and_false, if_false] at h
            exact ((hunset t' i').mp h).1 rfl
          rw [hthis i₁ h₁, hthis i₂ h₂]
        · simp only [ht, false_and, if_false] at h₁ h₂
          exact hone t' i₁ i₂ ((hunset t' i₁).mp h₁).2 ((hunset t' i₂).mp h₂).2

end lawful

/-- What a call passed that has a tenant. -/
theorem checked {call : SchemaCall} (h : call.tenant? = some t) :
    requireTenantScope call.ctx scopeIdentityAdmin = .ok t ∧
      match call.request with
      | .create _ document _ => ∃ json, requestSchema document = .ok json
      | .update _ document _ => ∃ json, requestSchema document = .ok json
      | _ => True := by
  obtain ⟨ctx, request, o⟩ := call
  unfold tenant? at h
  rcases hctx : requireTenantScope ctx scopeIdentityAdmin with e | t'
  · simp [hctx] at h
  · cases request with
    | create i document b =>
        rcases hdoc : requestSchema document with e | json
        · simp [hctx, hdoc, Except.toOption] at h
        · simp only [hctx, hdoc, Except.toOption, Option.map_some, Option.some.injEq] at h
          exact ⟨h ▸ rfl, json, hdoc⟩
    | update i document b =>
        rcases hdoc : requestSchema document with e | json
        · simp [hctx, hdoc, Except.toOption] at h
        · simp only [hctx, hdoc, Except.toOption, Option.map_some, Option.some.injEq] at h
          exact ⟨h ▸ rfl, json, hdoc⟩
    | setDefault i =>
        simp only [hctx, Option.some.injEq] at h
        exact ⟨h ▸ rfl, trivial⟩
    | delete i =>
        simp only [hctx, Option.some.injEq] at h
        exact ⟨h ▸ rfl, trivial⟩

/-- The law looks at whether the call failed, and at the table after it. -/
theorem lawful_reply {call : SchemaCall} {r : Except DbError IdentitySchemaRow × Schemas}
    (hrun : call.run s = reply r) : call.Lawful s ↔ s.Lawful (∃ e, r.1 = .error e) r.2 := by
  unfold Lawful
  rw [hrun, reply_error]
  rfl

/-- **One call.** It keeps the law just if it is tidy. -/
theorem lawful_iff {call : SchemaCall} (hone : s.AtMostOneDefault) (hkept : call.AnswersKept) :
    call.Lawful s ↔ call.Tidy s := by
  rcases htenant : call.tenant? with _ | t
  · obtain ⟨e, hrun⟩ := run_unchecked (s := s) htenant
    unfold Lawful Tidy
    rw [hrun, htenant]
    exact iff_of_true ⟨hone, fun _ => .rfl⟩ fun t ht => by cases ht
  · obtain ⟨hctx, hdoc⟩ := checked htenant
    have htidy : call.Tidy s ↔ match call.request with
        | .create schemaId _ true => s.HasDefault t → ¬ call.Refused 0 → s.HasSchema t schemaId
        | .update schemaId _ true => call.Succeeded s t schemaId
        | .setDefault schemaId => call.Succeeded s t schemaId
        | _ => True := by
      unfold Tidy
      simp [htenant]
    rw [htidy]
    obtain ⟨ctx, request, o⟩ := call
    cases request with
    | create i document b =>
        obtain ⟨json, hdoc⟩ := hdoc
        rw [lawful_reply (run_create hctx hdoc), insert_lawful hone hkept]
        cases b
        · simp
        · simp [Refused]
    | update i document b =>
        obtain ⟨json, hdoc⟩ := hdoc
        cases b
        · rw [lawful_reply (run_update_false hctx hdoc)]
          exact iff_of_true (rewrite_lawful hone hkept) trivial
        · rw [lawful_reply (run_update_true hctx hdoc), exchange_lawful hone hkept fun _ => rfl]
          rfl
    | setDefault i =>
        rw [lawful_reply (run_setDefault hctx), exchange_lawful hone hkept fun _ => rfl]
        rfl
    | delete i =>
        unfold Lawful
        rw [run_delete hctx]
        refine iff_of_true ?_ trivial
        have hlaw := delete_lawful (t := t) (i := i) hone hkept
        refine ⟨hlaw.atMostOne, fun he => hlaw.same ?_⟩
        rcases hdelete : (schemaHandler (.delete t i) (o 0) s).1 with e' | u
        · exact ⟨e', rfl⟩
        · rw [hdelete] at he
          exact absurd he Schemas.ok_not_error

/-- **One default schema.** A sequence of calls whose answers are kept has at most one default at
every point between them, and the same defaults after a call that fails, just if every call is tidy
in the state it meets. -/
theorem one_default_iff (calls : List SchemaCall) (hone : s.AtMostOneDefault)
    (hkept : ∀ call ∈ calls, call.AnswersKept) : AllLawful s calls ↔ AllTidy s calls := by
  induction calls generalizing s with
  | nil => exact Iff.rfl
  | cons call calls ih =>
      have hcall := lawful_iff hone (hkept call List.mem_cons_self)
      have hrest : ∀ call' ∈ calls, call'.AnswersKept := fun call' hcall' =>
        hkept call' (List.mem_cons_of_mem call hcall')
      unfold AllLawful AllTidy
      rw [← hcall]
      refine and_congr_right fun hlaw => ih hlaw.atMostOne hrest

end SchemaCall

/-! ## Where the law fails -/

/-- A caller who may change the schemas of the tenant `"acme"`. -/
def schemaAdmin : RequestContext :=
  ⟨some "acme", some ⟨"acme", "admin", .user, [scopeIdentityAdmin]⟩⟩

/-- A schema with an email. -/
def emailSchema : Value :=
  .obj [("properties", .obj [("email", .obj [("type", .str "string")])])]

/-- A call that meets no fault. -/
def SchemaRequest.plain (request : SchemaRequest) : SchemaCall :=
  ⟨schemaAdmin, request, fun _ => .plain "ulid" 0⟩

/-- Two schemas are created, each as the default. -/
def createdTwice : List SchemaCall :=
  [(SchemaRequest.create "a" (some (.ok emailSchema)) true).plain,
    (SchemaRequest.create "b" (some (.ok emailSchema)) true).plain]

/-- A schema that does not exist is to become the default. -/
def missingDefault : List SchemaCall :=
  [(SchemaRequest.create "a" (some (.ok emailSchema)) true).plain, (SchemaRequest.setDefault "b").plain]

theorem one_default_iff_createdTwice :
    SchemaCall.AllLawful .empty createdTwice ↔ SchemaCall.AllTidy .empty createdTwice :=
  SchemaCall.one_default_iff createdTwice Schemas.empty_atMostOne fun call hcall n f hf => by
    have hplain : call.choices n = .plain "ulid" 0 := by
      rcases List.mem_pair.mp hcall with rfl | rfl <;> rfl
    rw [hplain] at hf
    cases hf

/-- The second schema that is created as the default is a second default, and to make a missing
schema the default fails with the default gone. -/
theorem second_default :
    ¬ SchemaCall.AllLawful .empty createdTwice ∧ ¬ SchemaCall.AllLawful .empty missingDefault := by
  refine ⟨fun h => ?_, fun h => ?_⟩
  · have heq := h.2.1.atMostOne "acme" "a" "b" (by decide +kernel) (by decide +kernel)
    exact absurd heq (by decide)
  · have hsame := h.2.1.same ⟨_, rfl⟩ "acme" "a"
    exact absurd (hsame.mpr (by decide +kernel)) (by decide +kernel)

end SsoGateway
