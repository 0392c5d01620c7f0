import SsoGateway.EmailTrait
import SsoGateway.FirstConsent
import SsoGateway.IdentityCreation

/-!
# Provisioning after a registration

A registration that has gone through at Kratos is provisioned in the gateway: the identity is mapped, and then it
becomes a member of the tenant. A registration that is submitted again, or twice at the same time, is provisioned
again; that the identity is mapped says that this was done. But the mapping is written first.

* `submissions` — any number of provisionings of one identity in a tenant, in any interleaving.
* `SubmissionAssumed` — new ids are new, and a mapping that is taken back is deleted.
* `SubmissionAllowed` — the condition on a call: a mapping that is found has its membership, the default schema is
  found, and a mapping that is reported as refused is not there.
* `provisioning_atomic` — under it a call succeeds with the identity mapped once and a member, fails with nothing
  mapped, and a replay completes what is missing.
* `provisioning_half_done` — the default schema is not found once, and the identity is never a member.

Source: `services/identity_self_service.rs`.
-/

namespace SsoGateway

open Lib

/-! ## The calls -/

/-- The id Kratos gave an identity. -/
def identityId (identity : Value) : Option String := (identity.index "id").asStr

/-- The mapping is of that identity, in the tenant. -/
def OfIdentity (t : String) (key : Option String) (m : IdMappingRow) : Prop :=
  m.tenantId = t ∧ m.backend = .kratos ∧ some m.oryGlobalId = key

instance (t : String) (key : Option String) (m : IdMappingRow) : Decidable (OfIdentity t key m) :=
  inferInstanceAs (Decidable (_ ∧ _))

/-- The public id is a member of the tenant. -/
def Enrolled (t p : String) (w : World) : Prop :=
  ∃ r ∈ w.directory.memberships, r.tenantId = t ∧ r.publicId = p

instance (t p : String) (w : World) : Decidable (Enrolled t p w) :=
  inferInstanceAs (Decidable (∃ r ∈ w.directory.memberships, _))

/-- The identity is mapped once, and a member of the tenant under its public id. -/
def ProvisionedIn (t : String) (key : Option String) (w : World) : Prop :=
  ∃ m ∈ w.db.idMappings, OfIdentity t key m ∧ Enrolled t m.publicId w ∧
    ∀ m' ∈ w.db.idMappings, OfIdentity t key m' → m' = m

/-- The identity is not mapped without a membership. -/
def NotHalfDone (t : String) (key : Option String) (w : World) : Prop :=
  ∀ m ∈ w.db.idMappings, OfIdentity t key m → Enrolled t m.publicId w

/-- Provisionings of identities in a tenant, running together. -/
def submissions {ι : Type} (compile : SchemaCompiler) (t : String) (identity : ι → Value) (w : World) :
    Pool Gateway ι (Except ServiceError Unit) World :=
  ⟨w, fun i => (provisionSelfServiceIdentity compile t (identity i)).run⟩

/-- The calls of a schedule so far, newest first. -/
abbrev SubmissionTrace (ι : Type) := List (Event Gateway (ι × Choice) World)

/-- The public id that is generated, if this is the call that does. -/
def drawnId {ι : Type} (ev : Event Gateway (ι × Choice) World) : Option String :=
  match ev.op with
  | .newUlid => some ev.choice.2.ulid
  | _ => none

/-- The public id that becomes a member, if this call says so. -/
def enrolledId {ι : Type} (ev : Event Gateway (ι × Choice) World) : Option String :=
  match ev.op with
  | .directory (.upsertMembership _ p _ _ _) => if ev.choice.2.fault 0 = none then some p else none
  | _ => none

section history

variable {ι : Type}

/-- Call `i` has generated the public id. -/
def Drew (i : ι) (p : String) (past : SubmissionTrace ι) : Prop :=
  ∃ ev ∈ past, ev.choice.1 = i ∧ drawnId ev = some p

/-- Call `i` was told that the public id has become a member. -/
def Confirmed (i : ι) (p : String) (past : SubmissionTrace ι) : Prop :=
  ∃ ev ∈ past, ev.choice.1 = i ∧ enrolledId ev = some p

/-- The public id is that of a call which was not told so. -/
def UnderWay (p : String) (past : SubmissionTrace ι) : Prop :=
  ∃ ev ∈ past, drawnId ev = some p ∧ ¬ Confirmed ev.choice.1 p past

variable [DecidableEq ι]

instance (i : ι) (p : String) (past : SubmissionTrace ι) : Decidable (Confirmed i p past) :=
  inferInstanceAs (Decidable (∃ ev ∈ past, _))

instance (p : String) (past : SubmissionTrace ι) : Decidable (UnderWay p past) :=
  inferInstanceAs (Decidable (∃ ev ∈ past, _))

end history

/-- What is assumed of the calls: a generated id was never generated before and is not in use, and a delete goes
through. -/
def SubmissionAssumed {ι : Type} (op : GatewayOp) (ic : ι × Choice) (s : World × SubmissionTrace ι) : Prop :=
  match op with
  | .newUlid => (∀ m ∈ s.1.db.idMappings, m.publicId ≠ ic.2.ulid) ∧ ∀ ev ∈ s.2, drawnId ev ≠ some ic.2.ulid
  | .mapping (.delete _ _ _) => ic.2.fault 0 = none
  | _ => True

/-- The condition on the calls. A lookup that goes through finds no mapping but one with a membership whose call, if
it is one of these, was told so; the default schema is found; and a mapping that is reported as refused is not
written. -/
def SubmissionAllowed {ι : Type} (op : GatewayOp) (ic : ι × Choice) (s : World × SubmissionTrace ι) : Prop :=
  match op with
  | .mapping (.getPublicId t b o) => ic.2.fault 0 = none → ∀ m ∈ s.1.db.idMappings, m.tenantId = t →
      m.backend = b → m.oryGlobalId = o → Enrolled t m.publicId s.1 ∧ ¬ UnderWay m.publicId s.2
  | .directory (.getDefaultSchema t) => ic.2.fault 0 = none ∧
      ∃ schema ∈ s.1.directory.schemas, schema.tenantId = t ∧ schema.isDefault = true
  | .mapping (.create _ _ _ _) => ∀ f ∈ ic.2.fault 0, f.applied = false
  | _ => True

instance {ι : Type} (op : GatewayOp) (ic : ι × Choice) (s : World × SubmissionTrace ι) :
    Decidable (SubmissionAssumed op ic s) := by
  unfold SubmissionAssumed
  induction op using GatewayOp.casesOn with
  | mapping op => induction op using MappingOp.casesOn <;> exact inferInstance
  | _ => exact inferInstance

instance {ι : Type} [DecidableEq ι] (op : GatewayOp) (ic : ι × Choice) (s : World × SubmissionTrace ι) :
    Decidable (SubmissionAllowed op ic s) := by
  unfold SubmissionAllowed
  induction op using GatewayOp.casesOn with
  | mapping op => induction op using MappingOp.casesOn <;> exact inferInstance
  | directory op => induction op using DirectoryOp.casesOn <;> exact inferInstance
  | _ => exact inferInstance

/-! ## One call -/

section step

variable {ι : Type} {t : String} {key : Option String} {i j : ι} {p : String}
  {s s' s'' : World × SubmissionTrace ι}

/-- No other call has generated the id. -/
def Sole (i : ι) (p : String) (past : SubmissionTrace ι) : Prop :=
  Drew i p past ∧ ∀ j, Drew j p past → j = i

/-- The mapping is of the identity, has a membership, and nobody will take it back. -/
structure Finished (t : String) (key : Option String) (s : World × SubmissionTrace ι) (m : IdMappingRow) :
    Prop where
  mapped : m ∈ s.1.db.idMappings
  ofIdentity : OfIdentity t key m
  enrolled : Enrolled t m.publicId s.1
  confirmed : ∀ i, Drew i m.publicId s.2 → Confirmed i m.publicId s.2

/-- The calls of a provisioning: it writes under its own id only, and deletes that before it was told of a
membership. -/
def SubmissionCall (t : String) (key : Option String) (i : ι) (op : GatewayOp) (s : World × SubmissionTrace ι) :
    Prop :=
  match op with
  | .mapping (.getPublicId _ _ _) => True
  | .newUlid => True
  | .mapping (.create t' b p o) => t' = t ∧ b = .kratos ∧ some o = key ∧ Drew i p s.2
  | .directory (.getDefaultSchema _) => True
  | .directory (.upsertMembership t' p _ _ _) => t' = t ∧ Drew i p s.2
  | .mapping (.delete _ _ p) => Drew i p s.2 ∧ ¬ Confirmed i p s.2
  | _ => False

/-- The public id whose mapping a call writes or deletes. -/
def writtenId : GatewayOp → Option String
  | .mapping (.create _ _ p _) => some p
  | .mapping (.delete _ _ p) => some p
  | _ => none

theorem drew_cons {ev : Event Gateway (ι × Choice) World} {past : SubmissionTrace ι} :
    Drew i p (ev :: past) ↔ (ev.choice.1 = i ∧ drawnId ev = some p) ∨ Drew i p past := by
  simp [Drew]

theorem confirmed_cons {ev : Event Gateway (ι × Choice) World} {past : SubmissionTrace ι} :
    Confirmed i p (ev :: past) ↔ (ev.choice.1 = i ∧ enrolledId ev = some p) ∨ Confirmed i p past := by
  simp [Confirmed]

variable (env : Env) (c : Choice) (w : World)

/-- A call leaves the mappings of other public ids alone. -/
theorem mem_mappings_step {op : GatewayOp} (hop : SubmissionCall t key i op s) {m : IdMappingRow}
    (hm : writtenId op ≠ some m.publicId) :
    m ∈ (gateway env op c w).2.db.idMappings ↔ m ∈ w.db.idMappings := by
  have hstep := gateway_step env c w op
  generalize (gateway env op c w).2 = w' at hstep ⊢
  cases hstep with
  | insertMapping hwrite hdb =>
      subst hwrite
      rw [(Db.insertMapping_ok hdb).1, List.mem_cons, or_iff_right]
      intro heq
      subst heq
      exact hm rfl
  | deleteMapping hwrite hdb =>
      subst hwrite
      rw [(Db.deleteMapping_ok hdb).2.1, List.mem_filter]
      exact ⟨fun h => h.1, fun h => ⟨h, decide_eq_true fun heq => hm (congrArg some heq.symm)⟩⟩
  | updateTenant hwrite _ =>
      subst hwrite
      exact hop.elim
  | insertApplication hwrite _ =>
      subst hwrite
      exact hop.elim
  | deleteApplication hwrite _ =>
      subst hwrite
      exact hop.elim
  | insertAgent hwrite _ =>
      subst hwrite
      exact hop.elim
  | deleteAgent hwrite _ =>
      subst hwrite
      exact hop.elim
  | _ => exact Iff.rfl

/-- A membership stays. -/
theorem Enrolled.step {op : GatewayOp} (h : Enrolled t p w) (hop : SubmissionCall t key i op s) :
    Enrolled t p (gateway env op c w).2 := by
  unfold SubmissionCall at hop
  split at hop
  · exact h
  · exact h
  · exact h
  · rename_i t'
    have hsame : (gateway env (.directory (.getDefaultSchema t')) c w).2.directory = w.directory :=
      (Fault.answer_snd (c.fault 0)).elim id id
    unfold Enrolled
    rw [hsame]
    exact h
  · rename_i t' p' schemaId version traits
    rcases gateway_upsertMembership env c w t' p' schemaId version traits with hsame | hsame
    · rw [hsame]
      exact h
    · rw [hsame]
      obtain ⟨r, hr, hrt, hrp⟩ := h
      by_cases hown : r.tenantId = t' ∧ r.publicId = p'
      · exact ⟨_, Directory.mem_upsertMembership.mpr (.inl rfl), hown.1.symm.trans hrt, hown.2.symm.trans hrp⟩
      · exact ⟨r, Directory.mem_upsertMembership.mpr (.inr ⟨hr, hown⟩), hrt, hrp⟩
  · exact h
  · exact hop.elim

/-- What a call writes is under an id that it has generated. -/
theorem SubmissionCall.drawn_of_written {op : GatewayOp} (hop : SubmissionCall t key i op s)
    (hp : writtenId op = some p) : Drew i p s.2 := by
  unfold writtenId at hp
  split at hp
  · cases hp
    exact hop.2.2.2
  · cases hp
    exact hop.1
  · cases hp

/-- What a call relies on between two of its steps. -/
structure Unmoved (t : String) (key : Option String) (j : ι) (s s' : World × SubmissionTrace ι) : Prop where
  own : ∀ ev, ev.choice.1 = j → (ev ∈ s'.2 ↔ ev ∈ s.2)
  sole : ∀ p, Sole j p s.2 → Sole j p s'.2 ∧
    ∀ m, m.publicId = p → (m ∈ s'.1.db.idMappings ↔ m ∈ s.1.db.idMappings)
  finished : ∀ m, Finished t key s m → Finished t key s' m
  enrolled : ∀ p, Enrolled t p s.1 → Enrolled t p s'.1

theorem Unmoved.refl (s : World × SubmissionTrace ι) : Unmoved t key j s s :=
  ⟨fun _ _ => Iff.rfl, fun _ h => ⟨h, fun _ _ => Iff.rfl⟩, fun _ h => h, fun _ h => h⟩

theorem Unmoved.trans (h : Unmoved t key j s s') (h' : Unmoved t key j s' s'') : Unmoved t key j s s'' := by
  refine ⟨fun ev hev => (h'.own ev hev).trans (h.own ev hev), fun p hp => ?_,
    fun m hm => h'.finished m (h.finished m hm), fun p hp => h'.enrolled p (h.enrolled p hp)⟩
  obtain ⟨hp', hrows⟩ := h.sole p hp
  obtain ⟨hp'', hrows'⟩ := h'.sole p hp'
  exact ⟨hp'', fun m hm => (hrows' m hm).trans (hrows m hm)⟩

theorem Unmoved.drew (h : Unmoved t key j s s') : Drew j p s'.2 ↔ Drew j p s.2 := by
  refine exists_congr fun ev => ⟨?_, ?_⟩
  · rintro ⟨hev, hj, hp⟩
    exact ⟨(h.own ev hj).mp hev, hj, hp⟩
  · rintro ⟨hev, hj, hp⟩
    exact ⟨(h.own ev hj).mpr hev, hj, hp⟩

theorem Unmoved.confirmed (h : Unmoved t key j s s') : Confirmed j p s'.2 ↔ Confirmed j p s.2 := by
  refine exists_congr fun ev => ⟨?_, ?_⟩
  · rintro ⟨hev, hj, hp⟩
    exact ⟨(h.own ev hj).mp hev, hj, hp⟩
  · rintro ⟨hev, hj, hp⟩
    exact ⟨(h.own ev hj).mpr hev, hj, hp⟩

/-- A generated id is not in use. -/
theorem drawn_fresh {op : GatewayOp} (hassumed : SubmissionAssumed op (i, c) s)
    (hp : drawnId (⟨op, (i, c), s.1⟩ : Event Gateway (ι × Choice) World) = some p) :
    (∀ m ∈ s.1.db.idMappings, m.publicId ≠ p) ∧ ∀ j, ¬ Drew j p s.2 := by
  unfold drawnId at hp
  split at hp
  · rename_i hop
    subst hop
    cases hp
    refine ⟨hassumed.1, ?_⟩
    rintro j ⟨ev, hev, -, hdrawn⟩
    exact hassumed.2 ev hev hdrawn
  · cases hp

/-- **One call** of a provisioning takes nothing from a finished one. -/
theorem Finished.step {op : GatewayOp} {m : IdMappingRow} (hassumed : SubmissionAssumed op (i, c) s)
    (hop : SubmissionCall t key i op s) (h : Finished t key s m) :
    Finished t key ((shared ι env).traced op (i, c) s).2 m := by
  refine ⟨?_, h.ofIdentity, h.enrolled.step env c s.1 hop, ?_⟩
  · by_cases hwritten : writtenId op = some m.publicId
    · -- it is not deleted, for its call was told of the membership; and a new one is not refused to it
      have hdrew := hop.drawn_of_written hwritten
      have hconfirmed := h.confirmed i hdrew
      unfold writtenId at hwritten
      split at hwritten
      · rename_i t' b p' o
        show m ∈ (gateway env (.mapping (.create t' b p' o)) c s.1).2.db.idMappings
        have hstep := gateway_step env c s.1 (.mapping (.create t' b p' o))
        generalize (gateway env (.mapping (.create t' b p' o)) c s.1).2 = w' at hstep ⊢
        cases hstep with
        | same => exact h.mapped
        | insertMapping hwrite hdb =>
            rw [(Db.insertMapping_ok hdb).1]
            exact List.mem_cons_of_mem _ h.mapped
        | _ hwrite => cases hwrite
      · cases hwritten
        exact absurd hconfirmed hop.2
      · cases hwritten
    · exact (mem_mappings_step env c s.1 hop hwritten).mpr h.mapped
  · intro j hj
    rw [Handler.traced] at hj ⊢
    rcases drew_cons.mp hj with ⟨-, hdrawn⟩ | hj
    · exact absurd rfl ((drawn_fresh c hassumed hdrawn).1 m h.mapped)
    · exact confirmed_cons.mpr (.inr (h.confirmed j hj))

/-- **One call** of a provisioning is one the others rely on. -/
theorem unmoved_step {op : GatewayOp} (hij : i ≠ j) (hassumed : SubmissionAssumed op (i, c) s)
    (hop : SubmissionCall t key i op s) : Unmoved t key j s ((shared ι env).traced op (i, c) s).2 := by
  refine ⟨fun ev hev => ?_, fun p hp => ⟨⟨?_, fun k hk => ?_⟩, fun m hm => ?_⟩,
    fun m hm => hm.step env c hassumed hop, fun p hp => hp.step env c s.1 hop⟩
  · simp only [Handler.traced, List.mem_cons, or_iff_right_iff_imp]
    intro heq
    subst heq
    exact absurd hev hij
  · exact drew_cons.mpr (.inr hp.1)
  · rcases drew_cons.mp hk with ⟨-, hdrawn⟩ | hk
    · exact absurd hp.1 ((drawn_fresh c hassumed hdrawn).2 j)
    · exact hp.2 k hk
  · refine mem_mappings_step env c s.1 hop fun hwritten => hij ?_
    rw [hm] at hwritten
    exact hp.2 i (hop.drawn_of_written hwritten)

end step

/-! ## One provisioning -/

/-- What one provisioning relies on, assumes and guarantees. -/
def submitting {ι : Type} (t : String) (key : Option String) (i : ι) :
    Contract Gateway (ι × Choice) (World × SubmissionTrace ι) where
  rely := Unmoved t key i
  assume op ic s := ic.1 = i ∧ SubmissionAssumed op ic s ∧ SubmissionAllowed op ic s
  guar op _ s := SubmissionCall t key i op s

/-- How a provisioning ends: after a success, a mapping of the identity is finished, and an id that it generated is a
member; after an error, such an id is not mapped, and will not be. -/
def Concluded {ι : Type} (t : String) (key : Option String) (i : ι) :
    Except ServiceError Unit → World × SubmissionTrace ι → Prop
  | .ok _, s => (∃ m, Finished t key s m) ∧ ∀ p, Drew i p s.2 → Enrolled t p s.1
  | .error _, s => ∀ p, Drew i p s.2 → Sole i p s.2 ∧ ∀ m ∈ s.1.db.idMappings, m.publicId ≠ p

section provisioning

variable {ι : Type} {env : Env} {compile : SchemaCompiler} {t : String} {key : Option String} {i : ι}
  {p : String} {s s' : World × SubmissionTrace ι}

theorem concluded_stable {r : Except ServiceError Unit} (h : Unmoved t key i s s')
    (hr : Concluded t key i r s) : Concluded t key i r s' := by
  cases r with
  | ok _ =>
      obtain ⟨⟨m, hm⟩, hdrew⟩ := hr
      exact ⟨⟨m, h.finished m hm⟩, fun p hp => h.enrolled p (hdrew p (h.drew.mp hp))⟩
  | error e =>
      intro p hp
      obtain ⟨hsole, hnone⟩ := hr p (h.drew.mp hp)
      obtain ⟨hsole', hrows⟩ := h.sole p hsole
      exact ⟨hsole', fun m hm heq => hnone m ((hrows m heq).mp hm) heq⟩

/-- The provisioning has generated one id and was not told of a membership. -/
structure Holding (i : ι) (p : String) (s : World × SubmissionTrace ι) : Prop where
  drew : ∀ q, Drew i q s.2 → q = p
  sole : Sole i p s.2
  unconfirmed : ¬ Confirmed i p s.2

theorem Holding.stable (h : Holding i p s) (hrely : Unmoved t key i s s') : Holding i p s' :=
  ⟨fun q hq => h.drew q (hrely.drew.mp hq), (hrely.sole p h.sole).1,
    fun hc => h.unconfirmed (hrely.confirmed.mp hc)⟩

/-- A call that neither generates an id nor tells of a membership. -/
theorem Holding.call (env : Env) (op : GatewayOp) (c : Choice) (h : Holding i p s)
    (hdrawn : drawnId (⟨op, (i, c), s.1⟩ : Event Gateway (ι × Choice) World) = none)
    (henrolled : enrolledId (⟨op, (i, c), s.1⟩ : Event Gateway (ι × Choice) World) = none) :
    Holding i p ((shared ι env).traced op (i, c) s).2 := by
  have hsame : ∀ j q, Drew j q ((shared ι env).traced op (i, c) s).2.2 → Drew j q s.2 := by
    intro j q hq
    refine (drew_cons.mp hq).resolve_left ?_
    rintro ⟨-, hq⟩
    rw [hdrawn] at hq
    cases hq
  refine ⟨fun q hq => h.drew q (hsame i q hq), ⟨drew_cons.mpr (.inr h.sole.1), fun j hj => ?_⟩, fun hc => ?_⟩
  · exact h.sole.2 j (hsame j p hj)
  · refine h.unconfirmed ((confirmed_cons.mp hc).resolve_left ?_)
    rintro ⟨-, hq⟩
    rw [henrolled] at hq
    cases hq

theorem Holding.concluded {e : ServiceError} (h : Holding i p s)
    (hnone : ∀ m ∈ s.1.db.idMappings, m.publicId ≠ p) : Concluded t key i (.error e) s := by
  intro q hq
  rw [h.drew q hq]
  exact ⟨h.sole, hnone⟩

/-- The provisioning has mapped the identity under that id. -/
structure Halfway (t : String) (key : Option String) (i : ι) (p : String) (s : World × SubmissionTrace ι) :
    Prop where
  holding : Holding i p s
  mapped : ∃ m ∈ s.1.db.idMappings, OfIdentity t key m ∧ m.publicId = p

theorem Halfway.stable (h : Halfway t key i p s) (hrely : Unmoved t key i s s') : Halfway t key i p s' := by
  obtain ⟨m, hm, hkey, hp⟩ := h.mapped
  exact ⟨h.holding.stable hrely, m, ((hrely.sole p h.holding.sole).2 m hp).mpr hm, hkey, hp⟩

/-- The mapping is taken back, and the provisioning fails. -/
theorem sat_takeBack (h : Halfway t key i p s) (e : ServiceError) :
    (do
      let _ ← Prog.attempt (IdMappingStore.delete t .kratos p)
      throw e : Service Unit).run.Sat (shared ι env).traced (submitting t key i) (Concluded t key i) s := by
  refine Prog.sat_run_bind.mpr (Prog.sat_run_attempt.mpr (Prog.sat_perform.mpr ?_))
  rintro s₁ hrely ⟨j, c⟩ ⟨hi, hdeletes, -⟩
  obtain rfl : i = j := hi.symm
  obtain ⟨h, m, hm, ⟨ht, hb, -⟩, hp⟩ := h.stable hrely
  refine ⟨⟨h.sole.1, h.unconfirmed⟩, ?_⟩
  refine (h.call env _ c rfl rfl).concluded fun m' hm' => ?_
  have hdeletes : c.fault 0 = none := hdeletes
  replace hm' : m' ∈ (gateway env (.mapping (.delete t .kratos p)) c s₁.1).2.db.idMappings := hm'
  simp only [gateway, mappingHandler, Db.write, hdeletes, Fault.answer_none] at hm'
  cases hdb : s₁.1.db.deleteMapping t .kratos p with
  | ok db' =>
      simp only [hdb, (Db.deleteMapping_ok hdb).2.1] at hm'
      exact of_decide_eq_true (List.mem_filter.mp hm').2
  | error e' =>
      unfold Db.deleteMapping at hdb
      rw [if_pos ⟨m, hm, ht, hb, hp⟩] at hdb
      cases hdb

/-- The world with a membership. -/
def withMembership (w : World) (row : TenantMembershipRow) : World :=
  { w with directory := w.directory.upsertMembership row }

theorem gateway_upsertMembership_none (env : Env) {c : Choice} (w : World) (hc : c.fault 0 = none)
    {p schemaId : String} {version : ℕ} {traits : Value} :
    gateway env (.directory (.upsertMembership t p schemaId version traits)) c w =
      (.ok ⟨t, p, schemaId, version, traits⟩, withMembership w ⟨t, p, schemaId, version, traits⟩) := by
  simp only [gateway, directoryHandler, hc, Fault.answer_none, withMembership]

/-- The mapped identity becomes a member, or the mapping is taken back. -/
theorem sat_enrollSelfService (h : Halfway t key i p s) (schema : IdentitySchemaRow) (traits : Value) :
    (enrollSelfService compile t p schema traits).run.Sat (shared ι env).traced (submitting t key i)
      (Concluded t key i) s := by
  unfold enrollSelfService
  split
  · exact sat_takeBack h _
  · refine Prog.sat_run_bind.mpr (Prog.sat_run_attempt.mpr (Prog.sat_perform.mpr ?_))
    rintro s₁ hrely ⟨j, c⟩ ⟨hi, -, -⟩
    obtain rfl : i = j := hi.symm
    have h := h.stable hrely
    refine ⟨⟨rfl, h.holding.sole.1⟩, ?_⟩
    cases hc : c.fault 0 with
    | none =>
        have henrolled : Enrolled t p (withMembership s₁.1 ⟨t, p, schema.schemaId, schema.version, traits⟩) :=
          ⟨_, Directory.mem_upsertMembership.mpr (.inl rfl), rfl, rfl⟩
        simp only [shared, Handler.traced, gateway_upsertMembership_none env s₁.1 hc]
        obtain ⟨⟨hdrew, hsole, -⟩, m, hm, hkey, rfl⟩ := h
        have hown : ∀ j q, Drew j q (⟨.directory (.upsertMembership t m.publicId schema.schemaId schema.version
            traits), (i, c), s₁.1⟩ :: s₁.2) → Drew j q s₁.2 := by
          intro j q hq
          refine (drew_cons.mp hq).resolve_left ?_
          rintro ⟨-, hq⟩
          cases hq
        refine ⟨⟨m, hm, hkey, henrolled, fun j hj => ?_⟩, fun q hq => ?_⟩
        · rw [hsole.2 j (hown j _ hj)]
          exact confirmed_cons.mpr (.inl ⟨rfl, by simp [enrolledId, hc]⟩)
        · rw [hdrew q (hown _ q hq)]
          exact henrolled
    | some f =>
        have hanswer : (gateway env (.directory (.upsertMembership t p schema.schemaId schema.version traits)) c
            s₁.1).1 = .error (Fault.sqlx f.error) := by
          simp only [gateway, directoryHandler, hc, Fault.answer]
        have hdb : (gateway env (.directory (.upsertMembership t p schema.schemaId schema.version traits)) c
            s₁.1).2.db = s₁.1.db := rfl
        have hnext : Halfway t key i p ((shared ι env).traced (.directory (.upsertMembership t p schema.schemaId
            schema.version traits)) (i, c) s₁).2 :=
          ⟨h.holding.call env _ c rfl (by simp [enrolledId, hc]), h.mapped⟩
        simp only [shared, Handler.traced, hanswer] at hnext ⊢
        exact sat_takeBack hnext _

/-- A mapping that is reported as refused is not there. -/
theorem gateway_createMapping_cases (env : Env) {c : Choice} (w : World) (hc : ∀ f ∈ c.fault 0, f.applied = false)
    (t p o : String) :
    (∃ db', w.db.insertMapping ⟨t, .kratos, p, o, c.now⟩ = .ok db' ∧
      gateway env (.mapping (.create t .kratos p o)) c w =
        (.ok ⟨t, .kratos, p, o, c.now⟩, { w with db := db' })) ∨
    ∃ e, gateway env (.mapping (.create t .kratos p o)) c w = (.error e, w) := by
  cases hf : c.fault 0 with
  | none =>
      cases hdb : w.db.insertMapping ⟨t, .kratos, p, o, c.now⟩ with
      | ok db' =>
          refine .inl ⟨db', rfl, ?_⟩
          simp only [gateway, mappingHandler, Db.write, hf, hdb, Fault.answer_none]
      | error e =>
          refine .inr ⟨e, ?_⟩
          simp only [gateway, mappingHandler, Db.write, hf, hdb, Fault.answer_none]
  | some f =>
      have happlied : f.applied = false := hc f hf
      refine .inr ⟨Fault.sqlx f.error, ?_⟩
      simp only [gateway, mappingHandler, Db.write, hf, Fault.answer, happlied, Bool.false_eq_true, if_false]

/-- A default schema that is there is found. -/
theorem gateway_getDefaultSchema_found (env : Env) {c : Choice} (w : World) (hc : c.fault 0 = none) {t : String}
    (hschema : ∃ schema ∈ w.directory.schemas, schema.tenantId = t ∧ schema.isDefault = true) :
    ∃ schema ∈ w.directory.schemas, schema.tenantId = t ∧ schema.isDefault = true ∧
      gateway env (.directory (.getDefaultSchema t)) c w = (.ok schema, w) := by
  cases hfind : w.directory.schemas.find? fun s => s.tenantId = t ∧ s.isDefault = true with
  | some schema =>
      have hmatch := List.find?_some hfind
      obtain ⟨ht, hdefault⟩ : schema.tenantId = t ∧ schema.isDefault = true := by simpa using hmatch
      refine ⟨schema, List.mem_of_find?_eq_some hfind, ht, hdefault, ?_⟩
      simp only [gateway, directoryHandler, hc, hfind, orNotFound, Fault.answer_none, id_eq]
  | none =>
      obtain ⟨schema, hmem, ht, hdefault⟩ := hschema
      have hno := List.find?_eq_none.mp hfind schema hmem
      simp [ht, hdefault] at hno

/-- What has generated no id and was told of no membership. -/
def Untold (i : ι) (past : SubmissionTrace ι) : Prop :=
  ∀ ev ∈ past, ev.choice.1 = i → drawnId ev = none ∧ enrolledId ev = none

theorem Untold.not_drew {past : SubmissionTrace ι} (h : Untold i past) : ¬ Drew i p past := by
  rintro ⟨ev, hev, hi, hp⟩
  rw [(h ev hev hi).1] at hp
  cases hp

/-- The new id. -/
theorem Untold.newUlid (env : Env) {c : Choice} (h : Untold i s.2) (hassumed : SubmissionAssumed .newUlid (i, c) s) :
    Holding i c.ulid ((shared ι env).traced .newUlid (i, c) s).2 ∧
      ∀ m ∈ ((shared ι env).traced .newUlid (i, c) s).2.1.db.idMappings, m.publicId ≠ c.ulid := by
  obtain ⟨hfree, hfresh⟩ := drawn_fresh c hassumed (p := c.ulid) rfl
  refine ⟨⟨fun q hq => ?_, ⟨?_, fun j hj => ?_⟩, ?_⟩, hfree⟩
  · rcases drew_cons.mp hq with ⟨-, hq⟩ | hq
    · exact (Option.some.inj hq).symm
    · exact absurd hq h.not_drew
  · exact drew_cons.mpr (.inl ⟨rfl, rfl⟩)
  · rcases drew_cons.mp hj with ⟨hj, -⟩ | hj
    · exact hj.symm
    · exact absurd hj (hfresh j)
  · intro hc
    rcases confirmed_cons.mp hc with ⟨-, hq⟩ | ⟨ev, hev, hi, hq⟩
    · cases hq
    · rw [(h ev hev hi).2] at hq
      cases hq

/-- An identity that was not found is mapped and becomes a member. -/
theorem sat_mapSubmitted {x : String} (h : Untold i s.2) (traits : Value) :
    (do
      let publicId ← Prog.attempt newUlid
      let _ ← Prog.orThrow ServiceError.ofDbError (IdMappingStore.create t .kratos publicId x)
      let schema ← Prog.orThrow ServiceError.ofDbError (callDirectory (.getDefaultSchema t))
      enrollSelfService compile t publicId schema traits : Service Unit).run.Sat (shared ι env).traced
      (submitting t (some x) i) (Concluded t (some x) i) s := by
  refine Prog.sat_run_bind.mpr (Prog.sat_run_attempt.mpr (Prog.sat_perform.mpr ?_))
  rintro s₁ hrely ⟨j, c⟩ ⟨hi, hassumed, -⟩
  obtain rfl : i = j := hi.symm
  refine ⟨trivial, ?_⟩
  obtain ⟨hholding, hfree⟩ := Untold.newUlid env
    (fun ev hev hi => h ev ((hrely.own ev hi).mp hev) hi) hassumed
  generalize hp : c.ulid = p at hholding hfree
  have hulid : ((shared ι env).traced .newUlid (i, c) s₁).1 = p := hp
  rw [hulid]
  generalize ((shared ι env).traced .newUlid (i, c) s₁).2 = s₂ at hholding hfree ⊢
  refine Prog.sat_run_bind.mpr (Prog.sat_run_orThrow.mpr (Prog.sat_perform.mpr ?_))
  rintro s₃ hrely₃ ⟨j, c⟩ ⟨hi, -, hfaithful⟩
  obtain rfl : i = j := hi.symm
  have hrows := (hrely₃.sole p hholding.sole).2
  replace hholding := hholding.stable hrely₃
  replace hfree : ∀ m ∈ s₃.1.db.idMappings, m.publicId ≠ p := fun m hm heq =>
    hfree m ((hrows m heq).mp hm) heq
  refine ⟨⟨rfl, rfl, rfl, hholding.sole.1⟩, ?_⟩
  have hcreated := hholding.call env (.mapping (.create t .kratos p x)) c rfl rfl
  rcases gateway_createMapping_cases env s₃.1 hfaithful t p x with ⟨db', hdb, hanswer⟩ | ⟨e, hanswer⟩
  · simp only [shared, Handler.traced, hanswer] at hcreated ⊢
    have hhalf : Halfway t (some x) i p
        ({ s₃.1 with db := db' }, ⟨.mapping (.create t .kratos p x), (i, c), s₃.1⟩ :: s₃.2) := by
      refine ⟨hcreated, ⟨t, .kratos, p, x, c.now⟩, ?_, ⟨rfl, rfl, rfl⟩, rfl⟩
      rw [(Db.insertMapping_ok hdb).1]
      exact List.mem_cons_self
    refine Prog.sat_run_bind.mpr (Prog.sat_run_orThrow.mpr (Prog.sat_perform.mpr ?_))
    rintro s₅ hrely₅ ⟨j, c⟩ ⟨hi, -, hfound⟩
    obtain rfl : i = j := hi.symm
    replace hhalf := hhalf.stable hrely₅
    refine ⟨trivial, ?_⟩
    obtain ⟨schema, -, -, -, hanswer⟩ := gateway_getDefaultSchema_found env s₅.1 hfound.1 hfound.2
    have hnext := hhalf.holding.call env (.directory (.getDefaultSchema t)) c rfl rfl
    simp only [shared, Handler.traced, hanswer] at hnext ⊢
    exact sat_enrollSelfService ⟨hnext, hhalf.mapped⟩ schema traits
  · simp only [shared, Handler.traced, hanswer] at hcreated ⊢
    exact hcreated.concluded hfree

/-- **One provisioning** keeps its contract. -/
theorem sat_submission {identity : Value} (hkey : identityId identity = key)
    (hnew : ∀ ev ∈ s.2, ev.choice.1 ≠ i) :
    (provisionSelfServiceIdentity compile t identity).run.Sat (shared ι env).traced (submitting t key i)
      (Concluded t key i) s := by
  have hstart : Untold i s.2 := fun ev hev hi => absurd hi (hnew ev hev)
  unfold provisionSelfServiceIdentity
  refine Prog.sat_run_bind.mpr (Prog.sat_run_mk.mpr ?_)
  unfold identityId at hkey
  cases hid : (identity.index "id").asStr with
  | none => exact fun q hq => absurd hq hstart.not_drew
  | some x =>
  rw [hid] at hkey
  subst hkey
  refine Prog.sat_run_bind.mpr (Prog.sat_run_attempt.mpr (Prog.sat_perform.mpr ?_))
  rintro s₁ hrely ⟨j, c⟩ ⟨hi, -, hallowed⟩
  obtain rfl : i = j := hi.symm
  have huntold : Untold i (⟨.mapping (.getPublicId t .kratos x), (i, c), s₁.1⟩ :: s₁.2) := by
    intro ev hev hi
    rcases List.mem_cons.mp hev with rfl | hev
    · exact ⟨rfl, rfl⟩
    · exact hstart ev ((hrely.own ev hi).mp hev) hi
  refine ⟨trivial, ?_⟩
  rcases gateway_getPublicId env c s₁.1 t .kratos x with ⟨m, hm, ⟨ht, hb, ho⟩, h⟩ | ⟨-, h⟩ | ⟨e, -, h⟩
  · -- the mapping that is found is finished
    have hanswer : (s₁.1.db.read c (orNotFound .mappingNotFound (·.publicId)
        (s₁.1.db.findMapping t .kratos x))).1 = .ok m.publicId := congrArg Prod.fst h
    obtain ⟨henrolled, hdone⟩ := hallowed (Fault.answer_ok hanswer).1 m hm ht hb ho
    simp only [shared, Handler.traced, h] at huntold ⊢
    refine ⟨⟨m, hm, ⟨ht, hb, congrArg some ho⟩, henrolled, fun j hj => ?_⟩, fun q hq => ?_⟩
    · obtain ⟨ev, hev, rfl, hdrawn⟩ := (drew_cons.mp hj).resolve_left fun h => by cases h.2
      refine confirmed_cons.mpr (.inr ?_)
      by_contra hunconfirmed
      exact hdone ⟨ev, hev, hdrawn, hunconfirmed⟩
    · exact absurd hq huntold.not_drew
  · simp only [shared, Handler.traced, h] at huntold ⊢
    exact sat_mapSubmitted huntold _
  · simp only [shared, Handler.traced, h] at huntold ⊢
    exact sat_mapSubmitted huntold _

end provisioning

/-! ## Once more -/

section replay

variable {compile : SchemaCompiler} {t x : String} {w : World}

/-- The world has what a provisioning in the tenant needs: the tenant, its default schema, and no default schema that
the traits do not meet. -/
structure ReadyFor (compile : SchemaCompiler) (t : String) (traits : Value) (w : World) : Prop where
  tenant : w.db.HasTenant t
  schema : ∃ schema ∈ w.directory.schemas, schema.tenantId = t ∧ schema.isDefault = true
  valid : ∀ schema ∈ w.directory.schemas, schema.tenantId = t → schema.isDefault = true →
    validateTraits compile schema.schemaJson traits = .ok ()

/-- Nothing fails, and a generated id is not that of a mapping. -/
def Untroubled (w : World) (c : Choice) : Prop :=
  c.fault 0 = none ∧ ∀ m ∈ w.db.idMappings, m.publicId ≠ c.ulid

/-- A new mapping of an identity that is not mapped. -/
theorem insertMapping_new {db : Db} {p : String} (now : ℤ) (htenant : db.HasTenant t)
    (hfresh : ∀ m ∈ db.idMappings, m.publicId ≠ p)
    (hunmapped : ∀ m ∈ db.idMappings, ¬ (m.tenantId = t ∧ m.backend = .kratos ∧ m.oryGlobalId = x)) :
    ∃ db', db.insertMapping ⟨t, .kratos, p, x, now⟩ = .ok db' := by
  have hkeys : (⟨t, .kratos, p, x, now⟩ :: db.idMappings).Pairwise fun m m' => ¬ m.Conflicts m' := by
    refine List.pairwise_cons.mpr ⟨fun m hm hconflict => ?_, db.mappingKeys⟩
    rcases hconflict with hp | ⟨ht, hb, ho⟩
    · exact hfresh m hm hp.symm
    · exact hunmapped m hm ⟨ht.symm, hb.symm, ho.symm⟩
  unfold Db.insertMapping
  rw [dif_pos hkeys, dif_pos htenant]
  exact ⟨_, rfl⟩

theorem provisionedIn_of_mem {key : Option String} {m : IdMappingRow} (hm : m ∈ w.db.idMappings)
    (hkey : OfIdentity t key m) (henrolled : Enrolled t m.publicId w) : ProvisionedIn t key w := by
  refine ⟨m, hm, hkey, henrolled, fun m' hm' hkey' => ?_⟩
  refine Db.mapping_unique hm' hm (.inr ⟨hkey'.1.trans hkey.1.symm, hkey'.2.1.trans hkey.2.1.symm, ?_⟩)
  exact Option.some.inj (hkey'.2.2.trans hkey.2.2.symm)

/-- **A replay completes** what is missing: with the identity not mapped without a membership, a provisioning without
faults succeeds, and the identity is a member. -/
theorem sat_replay (env : Env) {identity : Value} (hid : identityId identity = some x) (hw : NotHalfDone t (some x) w)
    (hready : ReadyFor compile t (normalizeTraits (identityTraits identity)) w) :
    (provisionSelfServiceIdentity compile t identity).run.Sat (gateway env)
      (.alone (fun _ c _ => Untroubled w c) fun _ _ _ => True)
      (fun r w' => r = .ok () ∧ ProvisionedIn t (some x) w') w := by
  unfold provisionSelfServiceIdentity
  unfold identityId at hid
  refine Prog.sat_run_bind.mpr (Prog.sat_run_mk.mpr ?_)
  rw [hid]
  refine Prog.sat_run_bind.mpr (Prog.sat_run_attempt.mpr (Prog.sat_perform.mpr ?_))
  rintro _ rfl c₀ ⟨hc₀, -⟩
  refine ⟨trivial, ?_⟩
  rcases gateway_getPublicId env c₀ w t .kratos x with ⟨m, hm, ⟨ht, hb, ho⟩, h⟩ | ⟨hnone, h⟩ | ⟨e, hf, -⟩
  · rw [h]
    have hkey : OfIdentity t (some x) m := ⟨ht, hb, congrArg some ho⟩
    exact ⟨rfl, provisionedIn_of_mem hm hkey (hw m hm hkey)⟩
  · rw [h]
    refine Prog.sat_run_bind.mpr (Prog.sat_run_attempt.mpr (Prog.sat_perform.mpr ?_))
    rintro _ rfl c₁ ⟨-, hfresh⟩
    have hulid : gateway env .newUlid c₁ w = (c₁.ulid, w) := rfl
    simp only [hulid]
    refine ⟨trivial, Prog.sat_run_bind.mpr (Prog.sat_run_orThrow.mpr (Prog.sat_perform.mpr ?_))⟩
    rintro _ rfl c₂ ⟨hc₂, -⟩
    obtain ⟨db', hdb⟩ := insertMapping_new c₂.now hready.tenant hfresh hnone
    have hcreated : gateway env (.mapping (.create t .kratos c₁.ulid x)) c₂ w =
        (.ok ⟨t, .kratos, c₁.ulid, x, c₂.now⟩, { w with db := db' }) := by
      simp only [gateway, mappingHandler, Db.write, hc₂, hdb, Fault.answer_none]
    simp only [hcreated]
    refine ⟨trivial, Prog.sat_run_bind.mpr (Prog.sat_run_orThrow.mpr (Prog.sat_perform.mpr ?_))⟩
    rintro _ rfl c₃ ⟨hc₃, -⟩
    obtain ⟨schema, hmem, hschema, hdefault, hfound⟩ :=
      gateway_getDefaultSchema_found env { w with db := db' } hc₃ hready.schema
    simp only [hfound]
    refine ⟨trivial, ?_⟩
    unfold enrollSelfService
    simp only [Except.mapError, hready.valid schema hmem hschema hdefault]
    refine Prog.sat_run_bind.mpr (Prog.sat_run_attempt.mpr (Prog.sat_perform.mpr ?_))
    rintro _ rfl c₄ ⟨hc₄, -⟩
    simp only [gateway_upsertMembership_none env _ hc₄]
    refine ⟨trivial, rfl, provisionedIn_of_mem (m := ⟨t, .kratos, c₁.ulid, x, c₂.now⟩) ?_ ⟨rfl, rfl, rfl⟩ ?_⟩
    · show _ ∈ db'.idMappings
      rw [(Db.insertMapping_ok hdb).1]
      exact List.mem_cons_self
    · exact ⟨_, Directory.mem_upsertMembership.mpr (.inl rfl), rfl, rfl⟩
  · rw [hc₀] at hf
    cases hf

end replay

/-! ## Every schedule -/

section schedule

variable {ι : Type} {env : Env} {compile : SchemaCompiler} {t : String} {key : Option String}
  {s : World × SubmissionTrace ι}

/-- Every mapping of the identity has its membership, or one of the calls has generated its id. -/
def Accounted (t : String) (key : Option String) (s : World × SubmissionTrace ι) : Prop :=
  ∀ m ∈ s.1.db.idMappings, OfIdentity t key m → Enrolled t m.publicId s.1 ∨ ∃ i, Drew i m.publicId s.2

theorem Accounted.step {op : GatewayOp} {i : ι} {c : Choice} (h : Accounted t key s)
    (hop : SubmissionCall t key i op s) : Accounted t key ((shared ι env).traced op (i, c) s).2 := by
  intro m hm hkey
  by_cases hwritten : writtenId op = some m.publicId
  · exact .inr ⟨i, drew_cons.mpr (.inr (hop.drawn_of_written hwritten))⟩
  · rcases h m ((mem_mappings_step env c s.1 hop hwritten).mp hm) hkey with henrolled | ⟨j, hj⟩
    · exact .inl (henrolled.step env c s.1 hop)
    · exact .inr ⟨j, drew_cons.mpr (.inr hj)⟩

end schedule

/-- **Provisioning is atomic and can be repeated.** Provisionings of one identity in a tenant run together, in any
interleaving and under any faults, where generated ids are new and deletes go through. If a lookup finds no mapping
but one with its membership, the default schema is found whenever it is asked for, and no mapping is written that is
reported as refused, then at every moment: a call that has succeeded left the identity mapped once and a member; no
mapping that was written by a call that has failed is there; and when all have returned, a provisioning without
faults completes what is missing, if the identity was not half provisioned at the beginning. -/
theorem provisioning_atomic {ι : Type} [DecidableEq ι] (env : Env) (compile : SchemaCompiler) (t : String)
    (key : Option String) (identity : ι → Value) (hkey : ∀ i, identityId (identity i) = key) (w : World)
    (sched : List (ι × Choice))
    (hassumed : ∀ ev ∈ remembered [] ((submissions compile t identity w).events (shared ι env) sched),
      SubmissionAssumed ev.op ev.choice ev.before)
    (hallowed : ∀ ev ∈ remembered [] ((submissions compile t identity w).events (shared ι env) sched),
      SubmissionAllowed ev.op ev.choice ev.before) :
    let final := (submissions compile t identity w).run (shared ι env) sched
    (∀ i, final.Returned i (.ok ()) → ProvisionedIn t key final.world) ∧
    (∀ i e, final.Returned i (.error e) →
      ∀ ev ∈ (submissions compile t identity w).events (shared ι env) sched, ev.choice.1 = i →
        ∀ t' b p o, ev.op = .mapping (.create t' b p o) → ∀ m ∈ final.world.db.idMappings, m.publicId ≠ p) ∧
    ((∀ i, ∃ r, final.Returned i r) → NotHalfDone t key w →
      ∀ (x : String) (again : Value) (o : ℕ → Choice), key = some x → identityId again = key →
        ReadyFor compile t (normalizeTraits (identityTraits again)) final.world →
        (∀ n, Untroubled final.world (o n)) →
        let replay := (provisionSelfServiceIdentity compile t again).run.run (gateway env) o final.world
        replay.1 = .ok () ∧ ProvisionedIn t key replay.2) := by
  intro final
  let past := ((submissions compile t identity w).events (shared ι env) sched).reverse
  obtain ⟨hfinal, hevents⟩ := Pool.run_remember (shared ι env) (submissions compile t identity w) sched []
  rw [← hevents] at hassumed hallowed
  obtain ⟨hend, hcalls⟩ := Pool.sat_run (K := submitting t key) (Q := Concluded t key)
    (P := (submissions compile t identity w).remember []) (h := (shared ι env).traced)
    (fun i s => Unmoved.refl s) (fun i s₁ s₂ s₃ => Unmoved.trans) (fun i r s s' => concluded_stable)
    (fun i j hij op c s hassume hop => unmoved_step env c hij hassume.2.1 hop) sched
    (fun i => sat_submission (hkey i) fun ev hev => absurd hev List.not_mem_nil)
    fun ev hev => ⟨rfl, hassumed ev hev, hallowed ev hev⟩
  have hconcluded : ∀ i r, final.Returned i r → Concluded t key i r (final.world, past) := by
    intro i r hret
    have hi := hend i
    rw [hfinal, List.append_nil] at hi
    exact Pool.sat_returned (P := final.remember past) hret hi
  refine ⟨fun i hret => ?_, fun i e hret ev hev hi t' b p o hop => ?_,
    fun hall hhalf x again o hx hagain hready ho => ?_⟩
  · obtain ⟨⟨m, hm⟩, -⟩ := hconcluded i _ hret
    exact provisionedIn_of_mem hm.mapped hm.ofIdentity hm.enrolled
  · subst hi
    obtain ⟨pre, post, hsplit⟩ := List.append_of_mem hev
    -- the call wrote under an id that it had generated
    have hcall := hcalls ⟨ev.op, ev.choice, ev.before, pre.reverse ++ []⟩ (by
      rw [hevents]
      exact mem_remembered.mpr ⟨pre, ev, post, hsplit, rfl⟩)
    simp only [submitting, hop, List.append_nil] at hcall
    obtain ⟨drawn, hdrawn, hdrew⟩ := hcall.2.2.2
    refine (hconcluded _ _ hret p ⟨drawn, ?_, hdrew⟩).2
    rw [List.mem_reverse] at hdrawn ⊢
    rw [hsplit]
    exact List.mem_append_left _ hdrawn
  · subst hx
    have hstart : Accounted t (some x) (w, ([] : SubmissionTrace ι)) := fun m hm hkey => .inl (hhalf m hm hkey)
    have haccounted := ((Pool.chained_events (shared ι env).traced ((submissions compile t identity w).remember [])
      sched).invariant hstart fun ev hev h => h.step (hcalls ev hev)).1
    rw [hfinal, List.append_nil] at haccounted
    have hnow : NotHalfDone t (some x) final.world := by
      intro m hm hm'
      rcases haccounted m hm hm' with henrolled | ⟨i, hi⟩
      · exact henrolled
      · obtain ⟨r, hret⟩ := hall i
        have hi' := hconcluded i r hret
        cases r with
        | ok _ => exact hi'.2 _ hi
        | error e => exact absurd rfl ((hi' _ hi).2 m hm)
    have hsat := (sat_replay env hagain hnow hready).run_of_choices (o := o) fun _ n _ => ho n
    exact hsat

/-- What Kratos says of alice. -/
def aliceDocument : Value :=
  .obj [("id", .str "ory-alice"), ("traits", .obj [("email", .str "alice@acme.test")])]

/-- Two provisionings of alice in acme, whose schema accepts everything. -/
def aliceTwice : Pool Gateway Bool (Except ServiceError Unit) World :=
  submissions (fun _ => .ok fun _ => .ok ()) "acme" (fun _ => aliceDocument) acmeWithSchema

/-- Neither finds a mapping; the first inserts its own, the second is refused, and the first goes on. -/
def rivals : List (Bool × Choice) :=
  [(false, .plain "" 0), (true, .plain "" 0), (false, .plain "01" 0), (false, .plain "" 0), (true, .plain "02" 0),
    (true, .plain "" 0), (false, .plain "" 0), (false, .plain "" 0)]

/-- The second fails, and its replay finds alice provisioned by the first. -/
theorem provisioning_atomic_rivals :
    let final := aliceTwice.run (shared Bool .firstRow) rivals
    final.Returned true (.error (.ofDbError Db.duplicateKey)) ∧ final.Returned false (.ok ()) ∧
      ProvisionedIn "acme" (some "ory-alice") final.world ∧
      ((provisionSelfServiceIdentity (fun _ => .ok fun _ => .ok ()) "acme" aliceDocument).run.run
        (gateway .firstRow) (fun _ => .plain "03" 0) final.world).1 = .ok () := by
  obtain ⟨hok, -, hreplay⟩ := provisioning_atomic .firstRow (fun _ => .ok fun _ => .ok ()) "acme" (some "ory-alice")
    (fun _ : Bool => aliceDocument) (fun _ => rfl) acmeWithSchema rivals (by decide +kernel)
    (by decide +kernel)
  have hdone : (aliceTwice.run (shared Bool .firstRow) rivals).Returned false (.ok ()) := rfl
  have hall : ∀ i, ∃ r, (aliceTwice.run (shared Bool .firstRow) rivals).Returned i r := by
    intro i
    cases i with
    | false => exact ⟨_, hdone⟩
    | true => exact ⟨_, rfl⟩
  refine ⟨rfl, hdone, hok false hdone, (hreplay hall ?_ "ory-alice" aliceDocument _ rfl rfl ?_ ?_).1⟩
  · rintro m hm
    cases hm
  · refine ⟨⟨_, List.mem_cons_self, rfl⟩, ⟨_, List.mem_cons_self, rfl, rfl⟩, fun schema hschema _ _ => ?_⟩
    rw [List.mem_singleton.mp hschema]
    rfl
  · intro n
    refine ⟨rfl, ?_⟩
    decide +kernel

/-- The default schema is not found when the first asks for it. -/
def schemaLost : List (Bool × Choice) :=
  [(false, .plain "" 0), (false, .plain "01" 0), (false, .plain "" 0),
    (false, { Choice.plain "" 0 with fault := fun _ => some ⟨false, .http "lost"⟩ }), (true, .plain "" 0)]

/-- It fails and leaves its mapping, and the second succeeds: alice is no member of acme. -/
theorem provisioning_half_done :
    let final := aliceTwice.run (shared Bool .firstRow) schemaLost
    (∀ ev ∈ remembered [] (aliceTwice.events (shared Bool .firstRow) schemaLost),
      SubmissionAssumed ev.op ev.choice ev.before) ∧
    final.Returned false (.error (.database "http request failed: lost")) ∧
    final.Returned true (.ok ()) ∧
    final.world.db.idMappings = [⟨"acme", .kratos, "01", "ory-alice", 0⟩] ∧
    final.world.directory.memberships.length = 0 ∧
    ¬ ProvisionedIn "acme" (some "ory-alice") final.world := by
  refine ⟨by decide +kernel, rfl, rfl, rfl, rfl, ?_⟩
  rintro ⟨m, -, -, ⟨r, hr, -⟩, -⟩
  cases hr

end SsoGateway
