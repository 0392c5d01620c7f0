import SsoGateway.DcrCalls
import SsoGateway.EntitlementBackends

/-!
# The visit of one client

What the backfill does to one client, from whatever state and under whatever faults, and that nothing
else has a say in it.

* `SameOn` — two worlds are the same as far as one client is concerned.
* `gatewayOn_agree`, `gatewayOn_frame` — the calls of a visit concern its client only.
* `SeedDue`, `RowDue` — what a visit still has to bring a client.
* `sat_visit` — the visit: what is due and no more, all of it where nothing fails.
* `Visit.again` — from whatever a visit has left, a second one completes it, unless the seeding was
  cut off in the middle.
-/

namespace SsoGateway

open Lib

/-! ## The part of the world that is one client's -/

/-- All but the rows of `applications` and the tuples. -/
def World.shared (w : World) : List TenantRow × List IdMappingRow × List AgentRow ×
    List TransientTokenRow × Directory × Hydra × Kratos :=
  (w.db.tenants, w.db.idMappings, w.db.agents, w.transientTokens, w.directory, w.hydra, w.kratos)

/-- The worlds do not differ in what the client with this public id has. -/
structure SameOn (p : String) (w v : World) : Prop where
  shared : v.shared = w.shared
  rows : ∀ a : ApplicationRow, a.publicId = p → (a ∈ v.db.applications ↔ a ∈ w.db.applications)
  tuples : SameTuples p w.tuples v.tuples

namespace SameOn

variable {p : String} {w v u : World}

theorem refl (w : World) : SameOn p w w := ⟨rfl, fun _ _ => Iff.rfl, fun _ _ => Iff.rfl⟩

theorem symm (h : SameOn p w v) : SameOn p v w :=
  ⟨h.shared.symm, fun a ha => (h.rows a ha).symm, fun x hx => (h.tuples x hx).symm⟩

theorem trans (h : SameOn p w v) (h' : SameOn p v u) : SameOn p w u :=
  ⟨h'.shared.trans h.shared, fun a ha => (h'.rows a ha).trans (h.rows a ha),
    fun x hx => (h'.tuples x hx).trans (h.tuples x hx)⟩

theorem tenants (h : SameOn p w v) : v.db.tenants = w.db.tenants := (Prod.mk.inj h.shared).1

theorem idMappings (h : SameOn p w v) : v.db.idMappings = w.db.idMappings :=
  (Prod.mk.inj (Prod.mk.inj h.shared).2).1

theorem agents (h : SameOn p w v) : v.db.agents = w.db.agents :=
  (Prod.mk.inj (Prod.mk.inj (Prod.mk.inj h.shared).2).2).1

end SameOn

/-- A client has a row in its tenant. -/
def HasRow (t p : String) (w : World) : Prop :=
  ∃ a ∈ w.db.applications, a.tenantId = t ∧ a.publicId = p

/-- The id is that of an agent. -/
def IsAgentId (p : String) (w : World) : Prop := ∃ a ∈ w.db.agents, a.id = p

/-- A client has a tuple in the entitlement store of its tenant. -/
def HasTuple (t p : String) (w : World) : Prop :=
  ∃ x ∈ w.tuples, x.tenantId = t ∧ x.key.nspace = entitlementNamespace ∧ x.key.object = p

/-- The row is accepted by `INSERT INTO applications`. -/
def Insertable (a : ApplicationRow) (db : Db) : Prop :=
  (∀ a' ∈ db.applications, a.publicId ≠ a'.publicId) ∧
    (∃ m ∈ db.idMappings, m.publicId = a.publicId) ∧ db.HasTenant a.tenantId

section same

variable {t p : String} {w v : World}

theorem SameOn.hasRow (h : SameOn p w v) : HasRow t p v ↔ HasRow t p w := by
  constructor
  · rintro ⟨a, ha, ht, hp⟩
    exact ⟨a, (h.rows a hp).mp ha, ht, hp⟩
  · rintro ⟨a, ha, ht, hp⟩
    exact ⟨a, (h.rows a hp).mpr ha, ht, hp⟩

theorem SameOn.isAgentId (h : SameOn p w v) {p' : String} : IsAgentId p' v ↔ IsAgentId p' w := by
  simp only [IsAgentId, h.agents]

theorem SameOn.hasTuple (h : SameOn p w v) : HasTuple t p v ↔ HasTuple t p w := by
  constructor
  · rintro ⟨x, hx, ht, hn, hp⟩
    exact ⟨x, (h.tuples x hp).mp hx, ht, hn, hp⟩
  · rintro ⟨x, hx, ht, hn, hp⟩
    exact ⟨x, (h.tuples x hp).mpr hx, ht, hn, hp⟩

theorem SameOn.insertable (h : SameOn p w v) {a : ApplicationRow} (hp : a.publicId = p) :
    Insertable a v.db ↔ Insertable a w.db := by
  have hfree : (∀ a' ∈ v.db.applications, a.publicId ≠ a'.publicId) ↔
      ∀ a' ∈ w.db.applications, a.publicId ≠ a'.publicId := by
    constructor
    · intro hall a' ha' heq
      exact hall a' ((h.rows a' (heq.symm.trans hp)).mpr ha') heq
    · intro hall a' ha' heq
      exact hall a' ((h.rows a' (heq.symm.trans hp)).mp ha') heq
  simp only [Insertable, hfree, h.idMappings, Db.HasTenant, h.tenants]

/-- The row of the client in a tenant is the same. -/
theorem SameOn.findRow (h : SameOn p w v) :
    (v.db.applications.find? fun a => a.tenantId = t ∧ a.publicId = p) =
      w.db.applications.find? fun a => a.tenantId = t ∧ a.publicId = p := by
  rcases hw : w.db.applications.find? (fun a => a.tenantId = t ∧ a.publicId = p) with _ | a
  · refine (List.find?_eq_none.mpr fun a ha hmatch => ?_).trans hw.symm
    have hp : a.tenantId = t ∧ a.publicId = p := by simpa using hmatch
    exact List.find?_eq_none.mp hw a ((h.rows a hp.2).mp ha) hmatch
  · have ha := List.mem_of_find?_eq_some hw
    have hp : a.tenantId = t ∧ a.publicId = p := by simpa using List.find?_some hw
    rcases hv : v.db.applications.find? (fun a => a.tenantId = t ∧ a.publicId = p) with _ | a'
    · exact absurd (List.find?_some hw) (List.find?_eq_none.mp hv a ((h.rows a hp.2).mpr ha))
    · have hp' : a'.tenantId = t ∧ a'.publicId = p := by simpa using List.find?_some hv
      have ha' := (h.rows a' hp'.2).mp (List.mem_of_find?_eq_some hv)
      have heq : a' = a := Db.application_unique ha' ha (hp'.2.trans hp.2.symm)
      exact hv.trans ((congrArg some heq).trans hw.symm)

end same

/-! ## The calls of a visit -/

/-- The call is one the backfill makes for the client. -/
inductive GatewayOp.OfClient (t p : String) : GatewayOp → Prop
  | getRow : OfClient t p (.application (.get t p))
  | createRow : OfClient t p (.application (.create t p false .dcr))
  | getStatus : OfClient t p (.agent (.getStatus p))
  | hasAnyTuples : OfClient t p (.entitlement (.hasAnyTuples t p))
  | seed (groups : List String) : OfClient t p (.entitlement (.seedApplication t p groups))

theorem ofClient_backfillClient (cfg : DcrMaintenance) (t p : String) :
    (backfillClient cfg t p).run.Calls (GatewayOp.OfClient t p) := by
  have hexists : (applicationRowExists t p).run.Calls (GatewayOp.OfClient t p) := by
    refine Prog.calls_run_bind (Prog.calls_run_attempt (Prog.calls_perform .getRow)) fun r => ?_
    split <;> exact trivial
  refine Prog.calls_run_bind hexists fun found => ?_
  split
  · exact trivial
  · refine Prog.calls_run_bind ?_ fun agent => ?_
    · refine Prog.calls_run_bind (Prog.calls_run_attempt (Prog.calls_perform .getStatus)) fun r => ?_
      split <;> exact trivial
    · split
      · exact trivial
      · refine Prog.calls_run_bind ?_ fun _ => Prog.calls_run_bind ?_ fun _ => trivial
        · refine Prog.calls_run_bind
            (Prog.calls_run_orThrow (Prog.calls_perform .hasAnyTuples)) fun tuples => ?_
          split
          · exact trivial
          · exact Prog.calls_run_bind
              (Prog.calls_run_orThrow (Prog.calls_perform (.seed cfg.defaultGroups))) fun _ => trivial
        · refine Prog.calls_run_bind (Prog.calls_run_attempt (Prog.calls_perform .createRow)) fun r => ?_
          split
          · exact trivial
          · refine Prog.calls_run_bind hexists fun found => ?_
            split <;> exact trivial

section locality

variable {b : PermissionBackend} {env : Env} {t p : String} {op : GatewayOp} {w v : World}

/-- An insertion, by whether it is accepted. -/
theorem insertApplication_cases (a : ApplicationRow) (db : Db) :
    (Insertable a db ∧ ∃ db', db.insertApplication a = .ok db' ∧
      db'.applications = a :: db.applications ∧ db'.tenants = db.tenants ∧
      db'.idMappings = db.idMappings ∧ db'.agents = db.agents) ∨
    (¬ Insertable a db ∧ db.insertApplication a =
      .error (if ∀ a' ∈ db.applications, a.publicId ≠ a'.publicId then Db.missingReference
        else Db.duplicateKey)) := by
  by_cases hinsert : Insertable a db
  · obtain ⟨db', hdb'⟩ := Db.exists_insertApplication hinsert.1 hinsert.2.1 hinsert.2.2
    obtain ⟨happ, hmap, hagent, htenant, -⟩ := Db.insertApplication_ok hdb'
    exact .inl ⟨hinsert, db', hdb', happ, htenant, hmap, hagent⟩
  · refine .inr ⟨hinsert, ?_⟩
    have hkey : (a :: db.applications).Pairwise (fun a a' => a.publicId ≠ a'.publicId) ↔
        ∀ a' ∈ db.applications, a.publicId ≠ a'.publicId := by
      rw [List.pairwise_cons]
      exact and_iff_left db.applicationKey
    unfold Db.insertApplication
    by_cases hfree : ∀ a' ∈ db.applications, a.publicId ≠ a'.publicId
    · rw [dif_pos (hkey.mpr hfree), if_pos hfree, dif_neg fun hrefs => hinsert ⟨hfree, hrefs⟩]
    · rw [dif_neg fun h => hfree (hkey.mp h), if_neg hfree]

/-- A write of `applications` by whether it is accepted, in two worlds that agree on the client. -/
theorem insertRow_agree (c : Choice) {a : ApplicationRow} (hp : a.publicId = p) (h : SameOn p w v) :
    (w.db.write c (w.db.insertApplication a) a).1 = (v.db.write c (v.db.insertApplication a) a).1 ∧
      SameOn p { w with db := (w.db.write c (w.db.insertApplication a) a).2 }
        { v with db := (v.db.write c (v.db.insertApplication a) a).2 } := by
  rcases insertApplication_cases a w.db with ⟨hw, dbw, hokw, happw, htw, hmw, hagw⟩ | ⟨hw, herrw⟩
  · rcases insertApplication_cases a v.db with ⟨-, dbv, hokv, happv, htv, hmv, hagv⟩ | ⟨hv, -⟩
    · have hnew : SameOn p { w with db := dbw } { v with db := dbv } := by
        refine ⟨?_, fun a' ha' => ?_, h.tuples⟩
        · have hshared := h.shared
          simp only [World.shared] at hshared ⊢
          simpa only [htw, hmw, hagw, htv, hmv, hagv] using hshared
        · simp only [happw, happv, List.mem_cons, h.rows a' ha']
      rw [hokw, hokv]
      rcases hf : c.fault 0 with _ | f
      · simp only [Db.write, hf, Fault.answer_none]
        exact ⟨trivial, hnew⟩
      · by_cases hfa : f.applied
        · simpa only [Db.write, hf, Fault.answer, hfa, if_true, true_and] using hnew
        · simpa [Db.write, hf, Fault.answer, hfa] using h
    · exact absurd ((h.insertable hp).mpr hw) hv
  · rcases insertApplication_cases a v.db with ⟨hv, -⟩ | ⟨-, herrv⟩
    · exact absurd ((h.insertable hp).mp hv) hw
    · have hfree : (∀ a' ∈ v.db.applications, a.publicId ≠ a'.publicId) ↔
          ∀ a' ∈ w.db.applications, a.publicId ≠ a'.publicId := by
        constructor
        · intro hall a' ha' heq
          exact hall a' ((h.rows a' (heq.symm.trans hp)).mpr ha') heq
        · intro hall a' ha' heq
          exact hall a' ((h.rows a' (heq.symm.trans hp)).mp ha') heq
      rw [herrw, herrv]
      simp only [hfree]
      rcases hf : c.fault 0 with _ | f
      · simpa [Db.write, hf] using h
      · simpa [Db.write, hf, Fault.answer] using h

theorem insertRow_frame (c : Choice) {a : ApplicationRow} (hne : p ≠ a.publicId) :
    SameOn p w { w with db := (w.db.write c (w.db.insertApplication a) a).2 } := by
  have hend : (w.db.write c (w.db.insertApplication a) a).2 = w.db ∨ ∃ db',
      w.db.insertApplication a = .ok db' ∧ (w.db.write c (w.db.insertApplication a) a).2 = db' :=
    Db.write_snd c _ a
  rcases hend with hend | ⟨db', hdb', hend⟩
  · rw [hend]
    exact .refl w
  · obtain ⟨happ, hmap, hagent, htenant, -⟩ := Db.insertApplication_ok hdb'
    rw [hend]
    refine ⟨by simp only [World.shared, hmap, hagent, htenant], fun a' ha' => ?_, fun _ _ => Iff.rfl⟩
    have hother : a' ≠ a := by
      rintro rfl
      exact hne ha'.symm
    simp only [happ, List.mem_cons, hother, false_or]

/-- **A call of the visit is answered alike in worlds that agree on the client**, and keeps them so. -/
theorem gatewayOn_agree (hop : op.OfClient t p) (c : Choice) (h : SameOn p w v) :
    (gatewayOn b env op c w).1 = (gatewayOn b env op c v).1 ∧
      SameOn p (gatewayOn b env op c w).2 (gatewayOn b env op c v).2 := by
  have hread : ∀ {α : Type} {r r' : Except DbError α}, r = r' →
      (w.db.read c r).1 = (v.db.read c r').1 ∧
        SameOn p { w with db := (w.db.read c r).2 } { v with db := (v.db.read c r').2 } := by
    rintro α r _ rfl
    rcases hf : c.fault 0 with _ | f
    · exact ⟨by simp [Db.read, hf], by simpa [Db.read, hf] using h⟩
    · exact ⟨by simp [Db.read, hf, Fault.answer], by simpa [Db.read, hf, Fault.answer] using h⟩
  cases hop with
  | getRow => exact hread (congrArg _ h.findRow.symm)
  | createRow => exact insertRow_agree c rfl h
  | getStatus => exact hread (by rw [Db.findAgent, Db.findAgent, h.agents])
  | hasAnyTuples =>
      have hfound : ((tuplesOf w.tuples t p).map (·.key)).isEmpty =
          ((tuplesOf v.tuples t p).map (·.key)).isEmpty := by
        have hiff : HasTuple t p v ↔ HasTuple t p w := h.hasTuple
        rw [Bool.eq_iff_iff]
        simpa [tuplesOf, HasTuple, not_iff_not] using hiff.not.symm
      simp only [gatewayOn, entitlementOn_hasAnyTuples, hfound]
      rcases c.fault 0 with _ | f
      · exact ⟨rfl, h⟩
      · exact ⟨rfl, h⟩
  | seed groups =>
      obtain ⟨hanswer, htuples⟩ := seedApplication_agree b env c t groups h.tuples
      exact ⟨hanswer, h.shared, h.rows, htuples⟩

/-- It leaves the other clients alone. -/
theorem gatewayOn_frame {p' : String} (hop : op.OfClient t p') (hne : p ≠ p') (c : Choice) (w : World) :
    SameOn p w (gatewayOn b env op c w).2 := by
  have hread : ∀ {α : Type} (r : Except DbError α), SameOn p w { w with db := (w.db.read c r).2 } := by
    intro α r
    have hdb : (w.db.read c r).2 = w.db := (Fault.answer_snd (c.fault 0)).elim id id
    rw [hdb]
    exact .refl w
  cases hop with
  | getRow => exact hread _
  | getStatus => exact hread _
  | createRow => exact insertRow_frame c (a := ⟨t, p', false, .dcr⟩) hne
  | hasAnyTuples =>
      have hworld : (gatewayOn b env (.entitlement (.hasAnyTuples t p')) c w).2 = w := by
        rcases gatewayOn_hasAnyTuples b env c w t p' with ⟨found, -, h⟩ | ⟨e, -, h⟩
        · rw [h]
        · rw [h]
      rw [hworld]
      exact .refl w
  | seed groups => exact ⟨rfl, fun _ _ => Iff.rfl, seedApplication_frame b env c t hne groups w.tuples⟩

end locality

/-! ## What a visit brings -/

/-- The links of a client without tuples. -/
def defaultLinks (cfg : DcrMaintenance) (p : String) : List RelationTupleKey :=
  EntitlementServiceImpl.groupLinks p cfg.defaultGroups

/-- The row of a backfilled client. -/
def backfilledRow (t p : String) : ApplicationRow := ⟨t, p, false, .dcr⟩

/-- The client has no row, and it is no agent. -/
def Due (t p : String) (w : World) : Prop := ¬ HasRow t p w ∧ ¬ IsAgentId p w

/-- The client is to be seeded. -/
def SeedDue (b : PermissionBackend) (cfg : DcrMaintenance) (t p : String) (w : World) : Prop :=
  Due t p w ∧ ¬ HasTuple t p w ∧ Seedable b (defaultLinks cfg p)

/-- The client is to get its row. -/
def RowDue (b : PermissionBackend) (cfg : DcrMaintenance) (t p : String) (w : World) : Prop :=
  Due t p w ∧ (HasTuple t p w ∨ Seedable b (defaultLinks cfg p)) ∧ Insertable (backfilledRow t p) w.db

/-- The client has got the tuples with these keys, and its row if `row`. -/
structure Brought (t p : String) (seed : RelationTupleKey → Prop) (row : Prop) (w v : World) : Prop where
  shared : v.shared = w.shared
  tuples : ∀ x, x ∈ v.tuples ↔ x ∈ w.tuples ∨ x.tenantId = t ∧ seed x.key
  rows : ∀ a, a ∈ v.db.applications ↔ a ∈ w.db.applications ∨ a = backfilledRow t p ∧ row

/-- A seeding that Keto cut off in the middle. -/
def CutSeed (b : PermissionBackend) (ev : Event Gateway Choice World) : Prop :=
  ∃ t p groups, ev.op = .entitlement (.seedApplication t p groups) ∧
    CutSeeding b (EntitlementServiceImpl.groupLinks p groups) ev.choice.fault

/-- A visit that was made in `w`, up to the world `s.1` and with the calls `s.2`: it has brought the
client nothing that was not due; all of a seeding or nothing, unless it was cut; and all that was due,
unless there were faults. -/
structure Visit (b : PermissionBackend) (cfg : DcrMaintenance) (t p : String) (faulty : Prop) (w : World)
    (s : World × List (Event Gateway Choice World)) (seed : RelationTupleKey → Prop) (row : Prop) :
    Prop where
  brought : Brought t p seed row w s.1
  seedDue : ∀ k, seed k → SeedDue b cfg t p w ∧ k ∈ defaultLinks cfg p
  rowDue : row → RowDue b cfg t p w ∧ (SeedDue b cfg t p w → ∀ k ∈ defaultLinks cfg p, seed k)
  cut : ∀ ev ∈ s.2, CutSeed b ev → (∃ k, seed k) ∧ ∃ k ∈ defaultLinks cfg p, ¬ seed k
  whole : (∀ ev ∈ s.2, ¬ CutSeed b ev) → (∃ k, seed k) → ∀ k ∈ defaultLinks cfg p, seed k
  complete : ¬ faulty → (SeedDue b cfg t p w → ∀ k ∈ defaultLinks cfg p, seed k) ∧
    (RowDue b cfg t p w → row)

/-- What a call of the backfill leaves alone: a client with a row, with a tuple or that is an agent is
not seeded, and one with a row or that is an agent is not given one. All other calls read. -/
def LeavesAlone : GatewayOp → World → Prop
  | .entitlement (.seedApplication t p _), w => Due t p w ∧ ¬ HasTuple t p w
  | .application (.create t p _ _), w => Due t p w
  | op, _ => op.IsRead

/-- A run that remembers its calls, without faults unless `faulty`. -/
def visiting (faulty : Prop) :
    Contract Gateway Choice (World × List (Event Gateway Choice World)) :=
  .alone (fun _ c _ => c.FaultFree ∨ faulty) fun op _ s => LeavesAlone op s.1

section visits

variable {b : PermissionBackend} {env : Env} {cfg : DcrMaintenance} {t p : String} {faulty : Prop}
  {w : World} {tr : List (Event Gateway Choice World)}

theorem sat_visiting_perform {op : GatewayOp} {s : World × List (Event Gateway Choice World)}
    {Q : op.Res → World × List (Event Gateway Choice World) → Prop} (halone : LeavesAlone op s.1)
    (hQ : ∀ c : Choice, (c.FaultFree ∨ faulty) →
      Q (gatewayOn b env op c s.1).1 ((gatewayOn b env op c s.1).2, ⟨op, c, s.1⟩ :: s.2)) :
    (Prog.perform (S := Gateway) op).Sat (gatewayOn b env).traced (visiting faulty) Q s := by
  intro s' hsame c hc
  subst hsame
  exact ⟨halone, hQ c hc⟩

/-- No call so far was a seeding that was cut. -/
def Uncut (b : PermissionBackend) (tr : List (Event Gateway Choice World)) : Prop :=
  ∀ ev ∈ tr, ¬ CutSeed b ev

theorem Uncut.cons {ev : Event Gateway Choice World} (htr : Uncut b tr)
    (hev : ∀ t p groups, ev.op ≠ .entitlement (.seedApplication t p groups)) : Uncut b (ev :: tr) := by
  intro ev' hev'
  rcases List.mem_cons.mp hev' with rfl | hev'
  · rintro ⟨t, p, groups, hop, -⟩
    exact hev t p groups hop
  · exact htr ev' hev'

theorem sat_visit_row
    {Q : Except MaintenanceError Bool → World × List (Event Gateway Choice World) → Prop}
    (htr : Uncut b tr) (hyes : HasRow t p w → ∀ tr', Uncut b tr' → Q (.ok true) (w, tr'))
    (hno : ¬ HasRow t p w → ∀ tr', Uncut b tr' → Q (.ok false) (w, tr'))
    (herr : faulty → ∀ e tr', Uncut b tr' → Q (.error e) (w, tr')) :
    (applicationRowExists t p).run.Sat (gatewayOn b env).traced (visiting faulty) Q (w, tr) := by
  unfold applicationRowExists
  rw [Prog.sat_run_bind, Prog.sat_run_attempt]
  refine sat_visiting_perform trivial fun c hc => ?_
  have htr' : Uncut b (⟨.application (.get t p), c, w⟩ :: tr) := htr.cons fun _ _ _ h => by cases h
  have hlook := gateway_getApplication env c w t p
  rcases hlook with ⟨a, ha, ⟨hat, hap⟩, h⟩ | ⟨hnone, h⟩ | ⟨e, hf, h⟩
  · rw [show gatewayOn b env (.application (.get t p)) c w = _ from h]
    exact hyes ⟨a, ha, hat, hap⟩ _ htr'
  · rw [show gatewayOn b env (.application (.get t p)) c w = _ from h]
    refine hno ?_ _ htr'
    rintro ⟨a, ha, hat, hap⟩
    exact hnone a ha ⟨hat, hap⟩
  · rw [show gatewayOn b env (.application (.get t p)) c w = _ from h]
    refine herr (hc.resolve_left fun hfree => ?_) _ _ htr'
    simp [hfree 0] at hf

theorem sat_visit_agent
    {Q : Except MaintenanceError Bool → World × List (Event Gateway Choice World) → Prop}
    (htr : Uncut b tr) (hyes : IsAgentId p w → ∀ tr', Uncut b tr' → Q (.ok true) (w, tr'))
    (hno : ¬ IsAgentId p w → ∀ tr', Uncut b tr' → Q (.ok false) (w, tr'))
    (herr : faulty → ∀ e tr', Uncut b tr' → Q (.error e) (w, tr')) :
    (isAgent p).run.Sat (gatewayOn b env).traced (visiting faulty) Q (w, tr) := by
  unfold isAgent
  rw [Prog.sat_run_bind, Prog.sat_run_attempt]
  refine sat_visiting_perform trivial fun c hc => ?_
  have htr' : Uncut b (⟨.agent (.getStatus p), c, w⟩ :: tr) := htr.cons fun _ _ _ h => by cases h
  rcases gateway_getStatus env c w p with ⟨a, ha, hid, h⟩ | ⟨hnone, h⟩ | ⟨e, hf, h⟩
  · rw [show gatewayOn b env (.agent (.getStatus p)) c w = _ from h]
    exact hyes ⟨a, ha, hid⟩ _ htr'
  · rw [show gatewayOn b env (.agent (.getStatus p)) c w = _ from h]
    refine hno ?_ _ htr'
    rintro ⟨a, ha, hid⟩
    exact hnone a ha hid
  · rw [show gatewayOn b env (.agent (.getStatus p)) c w = _ from h]
    refine herr (hc.resolve_left fun hfree => ?_) _ _ htr'
    simp [hfree 0] at hf

/-- The row is there afterwards, or it was refused, or there was a fault. -/
theorem sat_ensureBackfilledRow
    {Q : Except MaintenanceError Unit → World × List (Event Gateway Choice World) → Prop}
    (hdue : Due t p w) (htr : Uncut b tr)
    (hrow : Insertable (backfilledRow t p) w.db → ∀ w', Brought t p (fun _ => False) True w w' →
      ∀ r tr', Uncut b tr' → Q r (w', tr'))
    (hnone : (Insertable (backfilledRow t p) w.db → faulty) → ∀ r tr', Uncut b tr' → Q r (w, tr')) :
    (ensureBackfilledRow t p).run.Sat (gatewayOn b env).traced (visiting faulty) Q (w, tr) := by
  unfold ensureBackfilledRow
  rw [Prog.sat_run_bind, Prog.sat_run_attempt]
  refine sat_visiting_perform hdue fun c hc => ?_
  have htr' : Uncut b (⟨.application (.create t p false .dcr), c, w⟩ :: tr) :=
    htr.cons fun _ _ _ h => by cases h
  -- what follows a refusal changes nothing
  have hrest : ∀ (err : DbError) (w' : World) (tr' : List (Event Gateway Choice World)), Uncut b tr' →
      (∀ r tr'', Uncut b tr'' → Q r (w', tr'')) →
      (do if ← applicationRowExists t p then return () else throw (.applicationRowCreate err) :
        Maintenance Unit).run.Sat (gatewayOn b env).traced (visiting faulty) Q (w', tr') := by
    intro err w' tr' htr' hQ
    rw [Prog.sat_run_bind]
    exact sat_visit_row htr' (fun _ tr'' h => hQ _ tr'' h) (fun _ tr'' h => hQ _ tr'' h)
      fun _ e tr'' h => hQ _ tr'' h
  have hstep : gatewayOn b env (.application (.create t p false .dcr)) c w =
      ((w.db.write c (w.db.insertApplication (backfilledRow t p)) (backfilledRow t p)).1,
        { w with db := (w.db.write c (w.db.insertApplication (backfilledRow t p))
          (backfilledRow t p)).2 }) := rfl
  rw [hstep]
  rcases insertApplication_cases (backfilledRow t p) w.db with
    ⟨hins, db', hok, happ, htenant, hmap, hagent⟩ | ⟨hins, herr⟩
  · have hbrought : Brought t p (fun _ => False) True w { w with db := db' } := by
      refine ⟨by simp only [World.shared, hmap, hagent, htenant], fun x => by simp, fun a => ?_⟩
      simp only [happ, List.mem_cons]
      tauto
    rw [hok]
    rcases hf : c.fault 0 with _ | f
    · simp only [Db.write, hf, Fault.answer_none]
      exact hrow hins _ hbrought _ _ htr'
    · have hfaulty : faulty := hc.resolve_left fun hfree => by simp [hfree 0] at hf
      by_cases hfa : f.applied
      · simp only [Db.write, hf, Fault.answer, hfa, if_true]
        exact hrest _ _ _ htr' (hrow hins _ hbrought)
      · simp only [Db.write, hf, Fault.answer, hfa]
        exact hrest _ _ _ htr' (hnone fun _ => hfaulty)
  · rw [herr]
    have hunchanged : (w.db.write c (.error (if ∀ a' ∈ w.db.applications,
        (backfilledRow t p).publicId ≠ a'.publicId then Db.missingReference else Db.duplicateKey))
        (backfilledRow t p)).2 = w.db := (Fault.answer_snd (c.fault 0)).elim id id
    rw [hunchanged]
    rcases hanswer : (w.db.write c (.error (if ∀ a' ∈ w.db.applications,
        (backfilledRow t p).publicId ≠ a'.publicId then Db.missingReference else Db.duplicateKey))
        (backfilledRow t p)).1 with err | a
    · exact hrest _ _ _ htr' (hnone fun h => absurd h hins)
    · exact hnone (fun h => absurd h hins) _ _ htr'

/-- A client that has nothing is seeded: with all its links, or the visit ends. -/
theorem sat_seedApplication
    {Q : Except ServiceError Unit → World × List (Event Gateway Choice World) → Prop}
    (hdue : Due t p w) (hempty : ¬ HasTuple t p w) (htr : Uncut b tr)
    (hfail : ∀ e s seed, Visit b cfg t p faulty w s seed False → Q (.error e) s)
    (hok : ∀ w₁ tr₁, Uncut b tr₁ → Seedable b (defaultLinks cfg p) → w₁.db = w.db →
      Brought t p (· ∈ defaultLinks cfg p) False w w₁ → Q (.ok ()) (w₁, tr₁)) :
    (EntitlementService.seedApplication t p cfg.defaultGroups).Sat (gatewayOn b env).traced
      (visiting faulty) Q (w, tr) := by
  have hfresh : ∀ k ∈ defaultLinks cfg p, (⟨t, k⟩ : StoredTuple) ∉ w.tuples := by
    intro k hk hstored
    obtain ⟨hn, ho⟩ := mem_groupLinks hk
    exact hempty ⟨_, hstored, rfl, hn, ho⟩
  refine sat_visiting_perform ⟨hdue, hempty⟩ fun c hc => ?_
  obtain ⟨taken, hseeding⟩ := seedApplication_run b env c hfresh
  let w₁ : World :=
    { w with tuples := (entitlementOn b env (.seedApplication t p cfg.defaultGroups) c w.tuples).2 }
  let ev : Event Gateway Choice World := ⟨.entitlement (.seedApplication t p cfg.defaultGroups), c, w⟩
  have hbrought : Brought t p (· ∈ taken) False w w₁ := ⟨rfl, hseeding.tuples, by simp [w₁]⟩
  have hcut : CutSeed b ev ↔ taken ≠ [] ∧ ∃ k ∈ defaultLinks cfg p, k ∉ taken := by
    refine Iff.trans ⟨?_, fun h => ⟨t, p, cfg.defaultGroups, rfl, h⟩⟩ hseeding.cut
    rintro ⟨t', p', groups, hop, h⟩
    simp only [ev, GatewayOp.entitlement.injEq, EntitlementOp.seedApplication.injEq] at hop
    obtain ⟨-, rfl, rfl⟩ := hop
    exact h
  have hsome : (∃ k, k ∈ taken) ↔ taken ≠ [] := by simp [List.eq_nil_iff_forall_not_mem]
  rcases hanswer : (entitlementOn b env (.seedApplication t p cfg.defaultGroups) c w.tuples).1 with e | u
  · have hvisit : Visit b cfg t p faulty w (w₁, ev :: tr) (· ∈ taken) False := by
      refine ⟨hbrought, fun k hk => ⟨⟨hdue, hempty, hseeding.seedable ?_⟩, hseeding.subset hk⟩,
        fun h => h.elim, fun ev' hev' hcut' => ?_, fun huncut hk => ?_, fun hcalm => ?_⟩
      · rintro rfl
        simp at hk
      · rcases List.mem_cons.mp hev' with rfl | hev'
        · obtain ⟨hne, hleft⟩ := hcut.mp hcut'
          exact ⟨hsome.mpr hne, hleft⟩
        · exact absurd hcut' (htr ev' hev')
      · by_contra hleft
        push Not at hleft
        exact huncut ev List.mem_cons_self (hcut.mpr ⟨hsome.mp hk, hleft⟩)
      · -- without a fault it is refused for good
        have hrefused : ¬ Seedable b (defaultLinks cfg p) := by
          intro hseedable
          have hok := hseeding.calm hseedable (hc.resolve_right hcalm)
          rw [hanswer] at hok
          cases hok
        exact ⟨fun h => absurd h.2.2 hrefused, fun h => h.2.1.elim hempty hrefused⟩
    have hstep : gatewayOn b env (.entitlement (.seedApplication t p cfg.defaultGroups)) c w =
        (.error e, w₁) := Prod.ext hanswer rfl
    rw [hstep]
    exact hfail e _ _ hvisit
  · obtain ⟨hseedable, hall⟩ := hseeding.success u hanswer
    have hlinks : ∀ k, k ∈ taken ↔ k ∈ defaultLinks cfg p := fun k => ⟨@hseeding.subset k, @hall k⟩
    have huncut : Uncut b (ev :: tr) := by
      intro ev' hev' hcut'
      rcases List.mem_cons.mp hev' with rfl | hev'
      · obtain ⟨-, k, hk, hk'⟩ := hcut.mp hcut'
        exact hk' (hall hk)
      · exact htr ev' hev' hcut'
    have hstep : gatewayOn b env (.entitlement (.seedApplication t p cfg.defaultGroups)) c w =
        (.ok (), w₁) := Prod.ext hanswer rfl
    rw [hstep]
    refine hok w₁ _ huncut hseedable rfl ⟨rfl, fun x => ?_, hbrought.rows⟩
    rw [hbrought.tuples x, hlinks]

/-- What two steps bring, one the tuples and one the row. -/
theorem Brought.trans {seed : RelationTupleKey → Prop} {w₁ w₂ : World}
    (h : Brought t p seed False w w₁) (h' : Brought t p (fun _ => False) True w₁ w₂) :
    Brought t p seed True w w₂ := by
  refine ⟨h'.shared.trans h.shared, fun x => ?_, fun a => ?_⟩
  · rw [h'.tuples x, h.tuples x]
    simp
  · rw [h'.rows a, h.rows a]
    simp

/-- **The visit of a client**, whatever it finds and whatever fails. -/
theorem sat_visit :
    (backfillClient cfg t p).run.Sat (gatewayOn b env).traced (visiting faulty)
      (fun _ s => ∃ seed row, Visit b cfg t p faulty w s seed row) (w, []) := by
  have hstart : Uncut b [] := fun ev hev => absurd hev List.not_mem_nil
  -- nothing is brought
  have hidle : ∀ tr', Uncut b tr' → (¬ faulty → ¬ SeedDue b cfg t p w ∧ ¬ RowDue b cfg t p w) →
      ∃ seed row, Visit b cfg t p faulty w (w, tr') seed row := by
    intro tr' htr' hcalm
    refine ⟨fun _ => False, False, ⟨rfl, by simp, by simp⟩, fun k hk => hk.elim, fun h => h.elim,
      fun ev hev hcut => absurd hcut (htr' ev hev), ?_, fun hf => ?_⟩
    · rintro - ⟨k, hk⟩
      exact hk.elim
    · exact ⟨fun h => absurd h (hcalm hf).1, fun h => absurd h (hcalm hf).2⟩
  unfold backfillClient
  rw [Prog.sat_run_bind]
  refine sat_visit_row hstart (fun hrow tr' htr' => ?_) (fun hrow tr' htr' => ?_)
    fun hf e tr' htr' => hidle tr' htr' fun h => absurd hf h
  · exact hidle tr' htr' fun _ => ⟨fun h => h.1.1 hrow, fun h => h.1.1 hrow⟩
  simp only [Bool.false_eq_true, if_false, Prog.sat_run_bind]
  refine sat_visit_agent htr' (fun hagent tr' htr' => ?_) (fun hagent tr' htr' => ?_)
    fun hf e tr' htr' => hidle tr' htr' fun h => absurd hf h
  · exact hidle tr' htr' fun _ => ⟨fun h => h.1.2 hagent, fun h => h.1.2 hagent⟩
  have hdue : Due t p w := ⟨hrow, hagent⟩
  simp only [Bool.false_eq_true, if_false, seedTupleless, Prog.sat_run_bind, Prog.sat_run_orThrow]
  refine sat_visiting_perform trivial fun c hc => ?_
  have htr₂ : Uncut b (⟨.entitlement (.hasAnyTuples t p), c, w⟩ :: tr') :=
    htr'.cons fun _ _ _ h => by cases h
  rcases gatewayOn_hasAnyTuples b env c w t p with ⟨found, hfound, h⟩ | ⟨e, hf, h⟩
  · rw [h]
    cases found with
    | true =>
        -- the client was patched by hand: it gets its row and no links
        have htuple : HasTuple t p w := hfound.mp rfl
        have hseedless : ¬ SeedDue b cfg t p w := fun h => h.2.1 htuple
        refine sat_ensureBackfilledRow hdue htr₂ (fun hins w' hbrought r tr₃ htr₃ => ?_)
          fun hnone r tr₃ htr₃ => ?_
        · have hvisit : Visit b cfg t p faulty w (w', tr₃) (fun _ => False) True := by
            refine ⟨hbrought, fun k hk => hk.elim, fun _ => ⟨⟨hdue, .inl htuple, hins⟩,
              fun h => absurd h hseedless⟩, fun ev hev hcut => absurd hcut (htr₃ ev hev), ?_,
              fun _ => ⟨fun h => absurd h hseedless, fun _ => trivial⟩⟩
            rintro - ⟨k, hk⟩
            exact hk.elim
          rcases r with e | u
          · exact ⟨_, _, hvisit⟩
          · exact ⟨_, _, hvisit⟩
        · have hvisit := hidle tr₃ htr₃ fun hf => ⟨hseedless, fun h => hf (hnone h.2.2)⟩
          rcases r with e | u
          · exact hvisit
          · exact hvisit
    | false =>
        have hempty : ¬ HasTuple t p w := fun h => Bool.false_ne_true (hfound.mpr h)
        simp only [Except.mapError, Bool.false_eq_true, if_false, Prog.sat_run_bind, Prog.sat_run_orThrow]
        refine sat_seedApplication hdue hempty htr₂ (fun e s seed hvisit => ⟨seed, False, hvisit⟩)
          fun w₁ tr₁ htr₁ hseedable hdb hseeded => ?_
        -- the row, in the world with the links
        have hdue₁ : Due t p w₁ := by
          unfold Due HasRow IsAgentId
          rw [hdb]
          exact hdue
        have hseedDue : SeedDue b cfg t p w := ⟨hdue, hempty, hseedable⟩
        refine sat_ensureBackfilledRow hdue₁ htr₁ (fun hins w' hbrought r tr₂ htr₂ => ?_)
          fun hnone r tr₂ htr₂ => ?_
        · have hvisit : Visit b cfg t p faulty w (w', tr₂) (· ∈ defaultLinks cfg p) True :=
            ⟨hseeded.trans hbrought, fun k hk => ⟨hseedDue, hk⟩,
              fun _ => ⟨⟨hdue, .inr hseedable, hdb ▸ hins⟩, fun _ _ => id⟩,
              fun ev hev hcut => absurd hcut (htr₂ ev hev), fun _ _ _ => id,
              fun _ => ⟨fun _ _ => id, fun _ => trivial⟩⟩
          rcases r with e | u
          · exact ⟨_, _, hvisit⟩
          · exact ⟨_, _, hvisit⟩
        · have hvisit : Visit b cfg t p faulty w (w₁, tr₂) (· ∈ defaultLinks cfg p) False :=
            ⟨hseeded, fun k hk => ⟨hseedDue, hk⟩, fun h => h.elim,
              fun ev hev hcut => absurd hcut (htr₂ ev hev), fun _ _ _ => id,
              fun hcalm => ⟨fun _ _ => id, fun h => hcalm (hnone (hdb ▸ h.2.2))⟩⟩
          rcases r with e | u
          · exact ⟨_, _, hvisit⟩
          · exact ⟨_, _, hvisit⟩
  · rw [h]
    exact hidle _ htr₂ fun hcalm => absurd (hc.resolve_left hf) hcalm

/-- The visit, as a run. -/
theorem visit_run (b : PermissionBackend) (cfg : DcrMaintenance) (t p : String) (w : World) (o : ℕ → Choice)
    (hf : (∀ n, (o n).FaultFree) ∨ faulty) :
    ∃ seed row, Visit b cfg t p faulty w
      (((backfillClient cfg t p).run.run (gatewayOn b env) o w).2,
        ((backfillClient cfg t p).run.events (gatewayOn b env) o w).reverse) seed row := by
  have hsat : (backfillClient cfg t p).run.Sat (gatewayOn b env).traced (visiting faulty)
      (fun _ s => ∃ seed row, Visit b cfg t p faulty w s seed row) (w, []) := sat_visit
  have hrun := (hsat.run_events (o := o) (fun _ => rfl) fun ev hev => ?_).2
  · rw [Prog.run_traced, List.append_nil] at hrun
    exact hrun
  · obtain ⟨n, hn⟩ := Prog.choice_of_mem_events hev
    rw [hn]
    exact hf.imp_left fun hfree => hfree n

/-! ## Visiting again -/

section again

variable {v v' u u' : World} {tr₂ tr₃ : List (Event Gateway Choice World)}
  {seed seed₂ seed₃ : RelationTupleKey → Prop} {row row₂ row₃ : Prop}

theorem Visit.agents (h : Visit b cfg t p faulty w (v, tr) seed row) : v.db.agents = w.db.agents :=
  (Prod.mk.inj (Prod.mk.inj (Prod.mk.inj h.brought.shared).2).2).1

/-- What is due after a visit was due before it. -/
theorem Visit.due_before (h : Visit b cfg t p faulty w (v, tr) seed row) (hdue : Due t p v) : Due t p w := by
  refine ⟨?_, ?_⟩
  · rintro ⟨a, ha, hat, hap⟩
    exact hdue.1 ⟨a, (h.brought.rows a).mpr (.inl ha), hat, hap⟩
  · intro hagent
    refine hdue.2 ?_
    unfold IsAgentId
    rwa [h.agents]

theorem Visit.hasTuple_iff (h : Visit b cfg t p faulty w (v, tr) seed row) :
    HasTuple t p v ↔ HasTuple t p w ∨ ∃ k, seed k := by
  constructor
  · rintro ⟨x, hx, ht, hn, ho⟩
    rcases (h.brought.tuples x).mp hx with hx | ⟨-, hseed⟩
    · exact .inl ⟨x, hx, ht, hn, ho⟩
    · exact .inr ⟨x.key, hseed⟩
  · rintro (⟨x, hx, ht, hn, ho⟩ | ⟨k, hk⟩)
    · exact ⟨x, (h.brought.tuples x).mpr (.inl hx), ht, hn, ho⟩
    · obtain ⟨hn, ho⟩ := mem_groupLinks (h.seedDue k hk).2
      exact ⟨⟨t, k⟩, (h.brought.tuples _).mpr (.inr ⟨rfl, hk⟩), rfl, hn, ho⟩

theorem Visit.seedDue_before (h : Visit b cfg t p faulty w (v, tr) seed row) (hdue : SeedDue b cfg t p v) :
    SeedDue b cfg t p w :=
  ⟨h.due_before hdue.1, fun htuple => hdue.2.1 (h.hasTuple_iff.mpr (.inl htuple)), hdue.2.2⟩

/-- Without its row the client is as it was, but for the tuples. -/
theorem Visit.rows_of_not (h : Visit b cfg t p faulty w (v, tr) seed row) (hrow : ¬ row) (a : ApplicationRow) :
    a ∈ v.db.applications ↔ a ∈ w.db.applications := by
  rw [h.brought.rows a]
  simp [hrow]

theorem Visit.insertable_iff (h : Visit b cfg t p faulty w (v, tr) seed row) (hrow : ¬ row) :
    Insertable (backfilledRow t p) v.db ↔ Insertable (backfilledRow t p) w.db := by
  have hsame : SameOn p { w with tuples := v.tuples } v :=
    ⟨h.brought.shared, fun a _ => h.rows_of_not hrow a, fun _ _ => Iff.rfl⟩
  exact hsame.insertable rfl

theorem SameOn.due (h : SameOn p w v) : Due t p v ↔ Due t p w := by
  simp only [Due, h.hasRow, h.isAgentId]

theorem SameOn.seedDue (h : SameOn p w v) : SeedDue b cfg t p v ↔ SeedDue b cfg t p w := by
  simp only [SeedDue, h.due, h.hasTuple]

theorem SameOn.rowDue (h : SameOn p w v) : RowDue b cfg t p v ↔ RowDue b cfg t p w := by
  have hins : Insertable (backfilledRow t p) v.db ↔ Insertable (backfilledRow t p) w.db := h.insertable rfl
  simp only [RowDue, h.due, h.hasTuple, hins]

/-- Without its row the client is still due. -/
theorem Visit.due_after (h : Visit b cfg t p faulty w (v, tr) seed row) (hrow : ¬ row) (hdue : Due t p w) :
    Due t p v := by
  refine ⟨?_, ?_⟩
  · rintro ⟨a, ha, hat, hap⟩
    exact hdue.1 ⟨a, (h.rows_of_not hrow a).mp ha, hat, hap⟩
  · unfold IsAgentId
    rw [h.agents]
    exact hdue.2

/-- **A second visit** completes the first, unless the seeding was cut: what there is then is what one
visit without faults would have left. Others may have been visited in between. -/
theorem Visit.again (h : Visit b cfg t p faulty w (v, tr) seed row) (huncut : Uncut b tr)
    (hsame : SameOn p v v') (h₂ : Visit b cfg t p False v' (u, tr₂) seed₂ row₂)
    (h₃ : Visit b cfg t p False w (u', tr₃) seed₃ row₃) : SameOn p u' u := by
  have hseeds : ∀ k, seed k ∨ seed₂ k ↔ seed₃ k := by
    intro k
    constructor
    · rintro (hk | hk)
      · obtain ⟨hdue, hlink⟩ := h.seedDue k hk
        exact (h₃.complete id).1 hdue k hlink
      · obtain ⟨hdue, hlink⟩ := h₂.seedDue k hk
        exact (h₃.complete id).1 (h.seedDue_before (hsame.seedDue.mp hdue)) k hlink
    · intro hk
      obtain ⟨hdue, hlink⟩ := h₃.seedDue k hk
      by_cases hfirst : seed k
      · exact .inl hfirst
      · -- the first visit stopped before the seeding: nothing of it is there, and no row
        have hnone : ¬ ∃ k, seed k := fun hsome => hfirst (h.whole huncut hsome k hlink)
        have hnorow : ¬ row := fun hrow => hfirst ((h.rowDue hrow).2 hdue k hlink)
        have hdue₂ : SeedDue b cfg t p v :=
          ⟨h.due_after hnorow hdue.1, fun htuple => (h.hasTuple_iff.mp htuple).elim hdue.2.1 hnone, hdue.2.2⟩
        exact .inr ((h₂.complete id).1 (hsame.seedDue.mpr hdue₂) k hlink)
  have hrows : row ∨ row₂ ↔ row₃ := by
    constructor
    · rintro (hrow | hrow)
      · exact (h₃.complete id).2 (h.rowDue hrow).1
      · by_cases hfirst : row
        · exact (h₃.complete id).2 (h.rowDue hfirst).1
        · obtain ⟨hdue, hwhy, hins⟩ := hsame.rowDue.mp (h₂.rowDue hrow).1
          refine (h₃.complete id).2 ⟨h.due_before hdue, ?_, (h.insertable_iff hfirst).mp hins⟩
          rcases hwhy with htuple | hseedable
          · rcases h.hasTuple_iff.mp htuple with htuple | ⟨k, hk⟩
            · exact .inl htuple
            · exact .inr (h.seedDue k hk).1.2.2
          · exact .inr hseedable
    · intro hrow
      obtain ⟨hdue, hwhy, hins⟩ := (h₃.rowDue hrow).1
      by_cases hfirst : row
      · exact .inl hfirst
      · refine .inr ((h₂.complete id).2 (hsame.rowDue.mpr
          ⟨h.due_after hfirst hdue, ?_, (h.insertable_iff hfirst).mpr hins⟩))
        exact hwhy.imp_left fun htuple => h.hasTuple_iff.mpr (.inl htuple)
  refine ⟨(h₂.brought.shared.trans (hsame.shared.trans h.brought.shared)).trans h₃.brought.shared.symm,
    fun a ha => ?_, fun x hx => ?_⟩
  · rw [h₃.brought.rows, h₂.brought.rows, hsame.rows a ha, h.brought.rows, ← hrows]
    tauto
  · rw [h₃.brought.tuples, h₂.brought.tuples, hsame.tuples x hx, h.brought.tuples, ← hseeds]
    tauto

/-- After a seeding that was cut no visit completes it: the client has tuples. -/
theorem Visit.again_cut (h : Visit b cfg t p faulty w (v, tr) seed row) (hcut : ¬ Uncut b tr)
    (hsame : SameOn p v v') (h₂ : Visit b cfg t p False v' (u, tr₂) seed₂ row₂)
    (h₃ : Visit b cfg t p False w (u', tr₃) seed₃ row₃) : ¬ SameOn p u' u := by
  intro hagain
  unfold Uncut at hcut
  push Not at hcut
  obtain ⟨ev, hev, hcutev⟩ := hcut
  obtain ⟨⟨k, hk⟩, k', hk', hleft⟩ := h.cut ev hev hcutev
  obtain ⟨hdue, -⟩ := h.seedDue k hk
  obtain ⟨hn, ho⟩ := mem_groupLinks hk'
  have hthere : (⟨t, k'⟩ : StoredTuple) ∈ u'.tuples :=
    (h₃.brought.tuples _).mpr (.inr ⟨rfl, (h₃.complete id).1 hdue k' hk'⟩)
  have hlater := (hagain.tuples ⟨t, k'⟩ ho).mpr hthere
  rcases (h₂.brought.tuples _).mp hlater with hfirst | ⟨-, hsecond⟩
  · rcases (h.brought.tuples _).mp ((hsame.tuples ⟨t, k'⟩ ho).mp hfirst) with hbefore | ⟨-, hseed⟩
    · exact hdue.2.1 ⟨_, hbefore, rfl, hn, ho⟩
    · exact hleft hseed
  · have hdue₂ := hsame.seedDue.mp (h₂.seedDue k' hsecond).1
    exact hdue₂.2.1 (h.hasTuple_iff.mpr (.inr ⟨k, hk⟩))

end again

end visits

end SsoGateway
