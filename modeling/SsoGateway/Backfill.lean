import SsoGateway.BackfillVisits

/-!
# The backfill of all clients

The pass at boot visits every client that is mapped to Hydra, one after another. Each visit is what it
would have been by itself; a client that already has something is left alone; and passes without failures
complete what an interrupted pass has left, unless Keto was cut off in the middle of a seeding.

* `Elsewhere` — the calls that do not concern a client.
* `insideUnless_pass` — the visit of a client is in the pass, in one piece.
* `pass_slice` — what a pass leaves one client is what a visit of it leaves.
* `BackfillSound`, `backfill_sound_iff` — what is asked of a pass, and exactly when it is so.
* `interrupted_seeding` — a client that stays without half of its links for good.

Source: `services/dcr_maintenance.rs` `backfill_legacy_dcr_clients`.
-/

namespace SsoGateway

open Lib

/-! ## Calls of the pass -/

/-- The calls that list tenants or clients. -/
def GatewayOp.isListing : GatewayOp → Bool
  | .listTenants => true
  | .mapping (.listPublicIds _ _) => true
  | _ => false

/-- The call is one of the pass that does not concern the client with this public id. -/
def Elsewhere (p : String) (op : GatewayOp) : Prop :=
  op.isListing = true ∨ ∃ t' p', p' ≠ p ∧ op.OfClient t' p'

/-- The client is mapped to Hydra in the tenant. -/
def HydraMapped (t p : String) (w : World) : Prop :=
  ∃ m ∈ w.db.idMappings, m.tenantId = t ∧ m.backend = .hydra ∧ m.publicId = p

/-- The pass. -/
abbrev backfillPass (cfg : DcrMaintenance) : Prog Gateway BackfillStats := backfillLegacyDcrClients cfg

/-- A visit, with the statistics. -/
def countedVisit (cfg : DcrMaintenance) (t : String) (stats : BackfillStats) (p : String) :
    Prog Gateway BackfillStats := stats.record <$> (backfillClient cfg t p).run

/-- What follows the listing of a tenant's clients. -/
def visitListed (cfg : DcrMaintenance) (t : String) (stats : BackfillStats) :
    Except DbError (List String) → Prog Gateway BackfillStats
  | .error _ => pure { stats with errors := stats.errors + 1 }
  | .ok ids => ids.foldlM (countedVisit cfg t) stats

theorem backfillTenant_eq (cfg : DcrMaintenance) (stats : BackfillStats) (tenant : TenantRow) :
    backfillTenant cfg stats tenant =
      Prog.call (S := Gateway) (.mapping (.listPublicIds tenant.id .hydra)) (visitListed cfg tenant.id stats) := by
  refine congrArg (Prog.call _) (funext fun r => ?_)
  rcases r with e | ids
  · rfl
  · rfl

/-- What follows the listing of the tenants. -/
def visitTenants (cfg : DcrMaintenance) :
    Except DbError (List TenantRow) → Prog Gateway BackfillStats
  | .error _ => pure { errors := 1 }
  | .ok tenants => tenants.foldlM (backfillTenant cfg) {}

theorem backfillPass_eq (cfg : DcrMaintenance) :
    backfillPass cfg = Prog.call (S := Gateway) .listTenants (visitTenants cfg) := by
  refine congrArg (Prog.call _) (funext fun r => ?_)
  rcases r with e | tenants
  · rfl
  · rfl

section pass

variable {b : PermissionBackend} {env : Env} {cfg : DcrMaintenance} {t p : String}

theorem elsewhere_frame {op : GatewayOp} (hop : Elsewhere p op) (c : Choice) (w : World) :
    SameOn p w (gatewayOn b env op c w).2 := by
  rcases hop with hop | ⟨t', p', hne, hop⟩
  · have hread : ∀ {op : GatewayOp}, op.IsRead → gatewayOn b env op c w = gateway env op c w →
        SameOn p w (gatewayOn b env op c w).2 := by
      intro op hop hsame
      rw [hsame, gateway_of_isRead hop]
      exact .refl w
    unfold GatewayOp.isListing at hop
    split at hop
    · exact hread trivial rfl
    · exact hread trivial rfl
    · simp at hop
  · exact gatewayOn_frame hop hne.symm c w

/-- A visit of another client does not concern this one. -/
theorem elsewhere_visit {p' : String} (hne : p' ≠ p) (stats : BackfillStats) (o : ℕ → Choice) (w : World) :
    ∀ ev ∈ (countedVisit cfg t stats p').events (gatewayOn b env) o w, Elsewhere p ev.op := by
  intro ev hev
  rw [countedVisit, Prog.events_map] at hev
  exact .inr ⟨t, p', hne, Prog.calls_of_mem_events (ofClient_backfillClient cfg t p') ev hev⟩

/-- What is no client's stays as it is. -/
theorem shared_call {op : GatewayOp} (hop : op.isListing = true ∨ ∃ t p, op.OfClient t p) (c : Choice)
    (w : World) : (gatewayOn b env op c w).2.shared = w.shared := by
  rcases hop with hop | ⟨t, p, hop⟩
  · exact (elsewhere_frame (p := "") (.inl hop) c w).shared
  · have hother : p ++ "'" ≠ p := by simp
    exact (elsewhere_frame (p := p ++ "'") (.inr ⟨t, p, hother.symm, hop⟩) c w).shared

theorem shared_visit (stats : BackfillStats) (o : ℕ → Choice) (w : World) :
    ((countedVisit cfg t stats p).run (gatewayOn b env) o w).2.shared = w.shared := by
  rw [countedVisit, Prog.run_map]
  have hchain := Prog.chained_events (gatewayOn b env) (backfillClient cfg t p).run o w
  refine (hchain.invariant (I := fun u => u.shared = w.shared) rfl fun ev hev hshared => ?_).1
  have hop := Prog.calls_of_mem_events (ofClient_backfillClient cfg t p) ev hev
  exact (shared_call (.inr ⟨t, p, hop⟩) ev.choice ev.before).trans hshared

/-- The clients listed in a tenant. -/
theorem listed_iff {w : World} : p ∈ (w.db.mappingRows t .hydra).map (·.publicId) ↔ HydraMapped t p w := by
  simp [HydraMapped, and_assoc]

theorem listed_nodup (w : World) : ((w.db.mappingRows t .hydra).map (·.publicId)).Nodup := by
  have hkeys : w.db.idMappings.Pairwise fun m m' => m.publicId ≠ m'.publicId :=
    w.db.mappingKeys.imp fun hne heq => hne (.inl heq)
  have hsymm : Std.Symm fun m m' : IdMappingRow => m.publicId ≠ m'.publicId := ⟨fun _ _ h => Ne.symm h⟩
  rw [List.Nodup, List.pairwise_map]
  exact (List.perm_insertionSort _ _).symm.pairwise (hkeys.filter _) fun h => Ne.symm h

/-- A client is mapped in one tenant. -/
theorem hydraMapped_unique {w : World} {t' : String} (h : HydraMapped t p w) (h' : HydraMapped t' p w) :
    t = t' := by
  obtain ⟨m, hm, rfl, -, hp⟩ := h
  obtain ⟨m', hm', rfl, -, hp'⟩ := h'
  rw [Db.mapping_unique hm hm' (.inl (hp.trans hp'.symm))]

theorem hydraMapped_congr {w v : World} (h : v.shared = w.shared) : HydraMapped t p v ↔ HydraMapped t p w := by
  have hmap : v.db.idMappings = w.db.idMappings := (Prod.mk.inj (Prod.mk.inj h).2).1
  simp only [HydraMapped, hmap]

/-- The clients of a tenant are listed, or there is a fault. -/
theorem listPublicIds_cases (b : PermissionBackend) (env : Env) (t : String) (c : Choice) (w : World) :
    (c.fault 0 = none ∧ gatewayOn b env (.mapping (.listPublicIds t .hydra)) c w =
      (.ok ((w.db.mappingRows t .hydra).map (·.publicId)), w)) ∨
    ∃ f e, c.fault 0 = some f ∧ gatewayOn b env (.mapping (.listPublicIds t .hydra)) c w = (.error e, w) := by
  rcases hf : c.fault 0 with _ | f
  · refine .inl ⟨rfl, ?_⟩
    simp [gatewayOn, gateway, mappingHandler, Db.read, hf]
  · refine .inr ⟨f, Fault.sqlx f.error, rfl, ?_⟩
    simp [gatewayOn, gateway, mappingHandler, Db.read, hf, Fault.answer]

theorem listTenants_cases (b : PermissionBackend) (env : Env) (c : Choice) (w : World) :
    (c.fault 0 = none ∧ gatewayOn b env .listTenants c w = (.ok w.db.tenants, w)) ∨
    ∃ f e, c.fault 0 = some f ∧ gatewayOn b env .listTenants c w = (.error e, w) := by
  rcases hf : c.fault 0 with _ | f
  · refine .inl ⟨rfl, ?_⟩
    simp [gatewayOn, gateway, hf]
  · refine .inr ⟨f, Fault.sqlx f.error, rfl, ?_⟩
    simp [gatewayOn, gateway, hf, Fault.answer]

/-! ## Where a visit is -/

/-- A listing on which the visit of a client depends has failed. -/
def Unlisted (t : String) (ev : Event Gateway Choice World) : Prop :=
  (ev.op = .listTenants ∨ ev.op = .mapping (.listPublicIds t .hydra)) ∧ ev.choice.fault 0 ≠ none

/-- The visits of other clients. -/
theorem elsewhere_visits {w : World} {ids : List String} (hids : p ∉ ids) (stats : BackfillStats)
    (o : ℕ → Choice) {u : World} (hu : u.shared = w.shared) :
    (∀ ev ∈ (ids.foldlM (countedVisit cfg t) stats).events (gatewayOn b env) o u, Elsewhere p ev.op) ∧
      ((ids.foldlM (countedVisit cfg t) stats).run (gatewayOn b env) o u).2.shared = w.shared := by
  refine Prog.events_foldlM (I := fun u => u.shared = w.shared) (E := fun ev => Elsewhere p ev.op) ids
    (fun stats p' hp' o u hu => ⟨?_, (shared_visit stats o u).trans hu⟩) stats o hu
  have hne : p' ≠ p := by
    rintro rfl
    exact hids hp'
  exact elsewhere_visit hne stats o u

/-- A tenant in which the client is not mapped. -/
theorem elsewhere_tenant {w : World} {tenant : TenantRow} (hmapped : ¬ HydraMapped tenant.id p w)
    (stats : BackfillStats) (o : ℕ → Choice) {u : World} (hu : u.shared = w.shared) :
    (∀ ev ∈ (backfillTenant cfg stats tenant).events (gatewayOn b env) o u, Elsewhere p ev.op) ∧
      ((backfillTenant cfg stats tenant).run (gatewayOn b env) o u).2.shared = w.shared := by
  rw [backfillTenant_eq]
  simp only [Prog.events, Prog.run]
  rcases listPublicIds_cases b env tenant.id (o 0) u with ⟨-, h⟩ | ⟨f, e, -, h⟩
  · rw [h]
    have hids : p ∉ (u.db.mappingRows tenant.id .hydra).map (·.publicId) := fun hp =>
      hmapped ((hydraMapped_congr hu).mp (listed_iff.mp hp))
    obtain ⟨hvisits, hshared⟩ := elsewhere_visits (t := tenant.id) hids stats
      (fun n => o (n + 1)) hu
    refine ⟨fun ev hev => ?_, hshared⟩
    rcases List.mem_cons.mp hev with rfl | hev
    · exact .inl rfl
    · exact hvisits ev hev
  · rw [h]
    refine ⟨fun ev hev => ?_, hu⟩
    rcases List.mem_cons.mp hev with rfl | hev
    · exact .inl rfl
    · exact absurd hev List.not_mem_nil

/-- The tenant in which it is mapped. -/
theorem inside_tenant {w : World} {tenant : TenantRow} (hmapped : HydraMapped tenant.id p w)
    (stats : BackfillStats) (o : ℕ → Choice) {u : World} (hu : u.shared = w.shared) :
    Prog.InsideUnless (gatewayOn b env) (Elsewhere p) (Unlisted tenant.id)
        (backfillClient cfg tenant.id p).run (backfillTenant cfg stats tenant) o u ∧
      ((backfillTenant cfg stats tenant).run (gatewayOn b env) o u).2.shared = w.shared := by
  rw [backfillTenant_eq]
  rcases listPublicIds_cases b env tenant.id (o 0) u with ⟨-, h⟩ | ⟨f, e, hf, h⟩
  · have hlisted : p ∈ (u.db.mappingRows tenant.id .hydra).map (·.publicId) :=
      listed_iff.mpr ((hydraMapped_congr hu).mpr hmapped)
    have hnodup := listed_nodup (t := tenant.id) u
    obtain ⟨l₁, l₂, hsplit⟩ := List.append_of_mem hlisted
    rw [hsplit, List.nodup_append, List.nodup_cons] at hnodup
    obtain ⟨-, ⟨hl₂, -⟩, hl₁⟩ := hnodup
    have hothers : ∀ p' ∈ l₁ ++ l₂, p' ≠ p := by
      intro p' hp'
      rcases List.mem_append.mp hp' with hp' | hp'
      · exact hl₁ p' hp' p List.mem_cons_self
      · rintro rfl
        exact hl₂ hp'
    have hshared : ∀ l : List String, ((l.foldlM (countedVisit cfg tenant.id) stats).run (gatewayOn b env)
        (fun n => o (n + 1)) u).2.shared = w.shared := fun l =>
      (Prog.events_foldlM (E := fun _ => True) (I := fun u => u.shared = w.shared) l
        (fun stats p' _ o u hu => ⟨fun _ _ => trivial, (shared_visit stats o u).trans hu⟩) stats _ hu).2
    refine ⟨Prog.insideUnless_call (.inl rfl) ?_, ?_⟩
    · rw [h, hsplit]
      refine Prog.insideUnless_foldlM (I := fun u => u.shared = w.shared)
        (fun stats p' hp' o u hu => ?_) (fun stats o u hu => ?_) stats _ hu
      · exact ⟨elsewhere_visit (hothers p' hp') stats o u, (shared_visit stats o u).trans hu⟩
      · exact ⟨.inr ⟨o, u, Prog.inside_map Prog.inside_refl⟩, (shared_visit stats o u).trans hu⟩
    · simp only [Prog.run]
      rw [h]
      exact hshared _
  · refine ⟨.inl ⟨⟨_, List.mem_cons_self, .inr rfl, by simp [hf]⟩, fun ev hev => ?_⟩, ?_⟩
    · simp only [Prog.events] at hev
      rw [h] at hev
      rcases List.mem_cons.mp hev with rfl | hev
      · exact .inl rfl
      · exact absurd hev List.not_mem_nil
    · simp only [Prog.run]
      rw [h]
      exact hu

/-- **The visit of a client is in the pass**, in one piece, unless a listing failed. -/
theorem insideUnless_pass {w : World} (hkey : (w.db.tenants.map (·.id)).Nodup) (hmapped : HydraMapped t p w)
    (o : ℕ → Choice) :
    Prog.InsideUnless (gatewayOn b env) (Elsewhere p) (Unlisted t) (backfillClient cfg t p).run
      (backfillPass cfg) o w := by
  rw [backfillPass_eq]
  rcases listTenants_cases b env (o 0) w with ⟨-, h⟩ | ⟨f, e, hf, h⟩
  · obtain ⟨m, hm, rfl, hb, hp⟩ := id hmapped
    obtain ⟨tenant, htenant, hid⟩ := w.db.mappingTenant m hm
    obtain ⟨l₁, l₂, hsplit⟩ := List.append_of_mem htenant
    rw [hsplit, List.map_append, List.map_cons, List.nodup_append, List.nodup_cons] at hkey
    obtain ⟨-, ⟨hl₂, -⟩, hl₁⟩ := hkey
    have hothers : ∀ tenant' ∈ l₁ ++ l₂, ¬ HydraMapped tenant'.id p w := by
      intro tenant' htenant' hmapped'
      have heq : tenant'.id = tenant.id := (hydraMapped_unique hmapped' hmapped).trans hid.symm
      rcases List.mem_append.mp htenant' with htenant' | htenant'
      · exact hl₁ _ (List.mem_map_of_mem htenant') _ List.mem_cons_self heq
      · exact hl₂ (heq ▸ List.mem_map_of_mem htenant')
    refine Prog.insideUnless_call (.inl rfl) ?_
    rw [h, ← hid]
    rw [← hid] at hmapped
    show Prog.InsideUnless _ _ _ _ (w.db.tenants.foldlM (backfillTenant cfg) {}) _ w
    rw [hsplit]
    refine Prog.insideUnless_foldlM (I := fun u => u.shared = w.shared)
      (fun stats tenant' htenant' o u hu => ?_) (fun stats o u hu => ?_) _ _ rfl
    · exact elsewhere_tenant (hothers tenant' htenant') stats o hu
    · exact inside_tenant hmapped stats o hu
  · refine .inl ⟨⟨_, List.mem_cons_self, .inl rfl, by simp [hf]⟩, fun ev hev => ?_⟩
    simp only [Prog.events] at hev
    rw [h] at hev
    rcases List.mem_cons.mp hev with rfl | hev
    · exact .inl rfl
    · exact absurd hev List.not_mem_nil

/-- A client that is not mapped does not come up. -/
theorem elsewhere_pass {w : World} (hmapped : ∀ t, ¬ HydraMapped t p w) (o : ℕ → Choice) :
    ∀ ev ∈ (backfillPass cfg).events (gatewayOn b env) o w, Elsewhere p ev.op := by
  rw [backfillPass_eq]
  intro ev hev
  simp only [Prog.events] at hev
  rcases List.mem_cons.mp hev with rfl | hev
  · exact .inl rfl
  · rcases listTenants_cases b env (o 0) w with ⟨-, h⟩ | ⟨f, e, hf, h⟩
    · rw [h] at hev
      exact (Prog.events_foldlM (E := fun ev => Elsewhere p ev.op) (I := fun u => u.shared = w.shared) _
        (fun stats tenant _ o u hu => elsewhere_tenant (hmapped tenant.id) stats o hu) {} _ rfl).1 ev hev
    · rw [h] at hev
      exact absurd hev List.not_mem_nil

/-! ## What a pass leaves one client -/

theorem not_elsewhere {op : GatewayOp} (hop : op.OfClient t p) : ¬ Elsewhere p op := by
  rintro (hlisting | ⟨t', p', hne, hop'⟩)
  · cases hop <;> simp [GatewayOp.isListing] at hlisting
  · cases hop <;> cases hop' <;> exact hne rfl

/-- Whether a seeding was cut is a matter of the call and its choice. -/
theorem uncut_congr {evs evs' : List (Event Gateway Choice World)}
    (h : evs.map (fun ev => (ev.op, ev.choice)) = evs'.map fun ev => (ev.op, ev.choice)) :
    (∀ ev ∈ evs, ¬ CutSeed b ev) ↔ ∀ ev ∈ evs', ¬ CutSeed b ev := by
  let cut (x : GatewayOp × Choice) : Prop := ∃ t p groups,
    x.1 = .entitlement (.seedApplication t p groups) ∧
      CutSeeding b (EntitlementServiceImpl.groupLinks p groups) x.2.fault
  have hall : ∀ evs : List (Event Gateway Choice World), (∀ ev ∈ evs, ¬ CutSeed b ev) ↔
      ∀ x ∈ evs.map (fun ev => (ev.op, ev.choice)), ¬ cut x := by
    intro evs
    simp only [List.forall_mem_map]
    rfl
  rw [hall, hall, h]

/-- The visit in the pass is the visit by itself, with the choices of the pass. -/
structure AsAlone (b : PermissionBackend) (env : Env) (cfg : DcrMaintenance) (t p : String) (w v : World)
    (o' : ℕ → Choice) (w' : World) : Prop where
  result : ((backfillClient cfg t p).run.run (gatewayOn b env) o' v).1 =
    ((backfillClient cfg t p).run.run (gatewayOn b env) o' w).1
  calls : ((backfillClient cfg t p).run.events (gatewayOn b env) o' v).map (fun ev => (ev.op, ev.choice)) =
    ((backfillClient cfg t p).run.events (gatewayOn b env) o' w).map fun ev => (ev.op, ev.choice)
  left : SameOn p ((backfillClient cfg t p).run.run (gatewayOn b env) o' w).2 w'

theorem asAlone_of_inside {w v : World} {o o' : ℕ → Choice}
    (h : Prog.Inside (gatewayOn b env) (Elsewhere p) (backfillClient cfg t p).run o' v (backfillPass cfg) o w) :
    AsAlone b env cfg t p w v o' ((backfillPass cfg).run (gatewayOn b env) o w).2 := by
  obtain ⟨hbefore, hafter⟩ := h.frame SameOn.refl (fun _ _ _ => SameOn.trans)
    fun op c u hop => elsewhere_frame hop c u
  obtain ⟨hresult, hsame, hcalls⟩ := Prog.run_agree (o := o') (ofClient_backfillClient cfg t p)
    (fun op c u u' hop hR => gatewayOn_agree (b := b) hop c hR) hbefore
  exact ⟨hresult.symm, hcalls.symm, hsame.trans hafter⟩

/-- **What a pass leaves one client** is what a visit of it leaves, whatever happens to the others. -/
theorem pass_slice {w : World} (hkey : (w.db.tenants.map (·.id)).Nodup) (hmapped : HydraMapped t p w)
    {faulty : Prop} {o : ℕ → Choice} (hf : (∀ n, (o n).FaultFree) ∨ faulty) :
    ∃ v tr seed row, Visit b cfg t p faulty w (v, tr) seed row ∧
      SameOn p v ((backfillPass cfg).run (gatewayOn b env) o w).2 ∧
      (Uncut b tr ↔ ∀ ev ∈ (backfillPass cfg).events (gatewayOn b env) o w, ev.op.OfClient t p →
        ¬ CutSeed b ev) := by
  rcases insideUnless_pass (b := b) hkey hmapped o with ⟨⟨ev, hev, hunlisted⟩, hnone⟩ | ⟨o', v, h⟩
  · -- the client was not listed
    have hfaulty : faulty := by
      refine hf.resolve_left fun hfree => ?_
      obtain ⟨n, hn⟩ := Prog.choice_of_mem_events hev
      exact hunlisted.2 (hn ▸ hfree n 0)
    refine ⟨w, [], fun _ => False, False, ⟨⟨rfl, by simp, by simp⟩, fun k hk => hk.elim, fun h => h.elim,
      by simp, fun _ hsome => hsome.elim fun k hk => hk.elim, fun h => absurd hfaulty h⟩, ?_, ?_⟩
    · have hchain := Prog.chained_events (gatewayOn b env) (backfillPass cfg) o w
      exact (hchain.invariant (I := SameOn p w) (.refl w) fun ev hev hsame =>
        hsame.trans (elsewhere_frame (hnone ev hev) ev.choice ev.before)).1
    · refine iff_of_true (fun ev hev => absurd hev List.not_mem_nil) fun ev hev hop => ?_
      exact absurd (hnone ev hev) (not_elsewhere hop)
  · have halone := asAlone_of_inside h
    have hf' : (∀ n, (o' n).FaultFree) ∨ faulty := hf.imp_left fun hfree n => by
      obtain ⟨m, hm⟩ := h.choices n
      rw [hm]
      exact hfree m
    obtain ⟨seed, row, hvisit⟩ := visit_run b cfg t p w o' hf'
    refine ⟨_, _, seed, row, hvisit, halone.left, ?_⟩
    have hown : Uncut b ((backfillClient cfg t p).run.events (gatewayOn b env) o' w).reverse ↔
        ∀ ev ∈ (backfillClient cfg t p).run.events (gatewayOn b env) o' v, ¬ CutSeed b ev := by
      rw [uncut_congr halone.calls]
      simp [Uncut]
    rw [hown]
    constructor
    · intro huncut ev hev hop
      exact huncut ev (h.mem_events.2 hev (not_elsewhere hop))
    · intro huncut ev hev
      exact huncut ev (h.mem_events.1 hev) (Prog.calls_of_mem_events (ofClient_backfillClient cfg t p) ev hev)

/-! ## The statistics -/

/-- The listings that failed. -/
def failedListings (evs : List (Event Gateway Choice World)) : ℕ :=
  evs.countP fun ev => ev.op.isListing && (ev.choice.fault 0).isSome

/-- Each client that was checked is counted once, under its outcome; the errors are those of clients and
those of listings. -/
def Balanced (stats : BackfillStats) (failed : ℕ) : Prop :=
  ∃ clientErrors, stats.errors = failed + clientErrors ∧
    stats.checked = stats.skippedExistingRows + stats.skippedAgents + stats.rowsCreated + clientErrors

theorem balanced_record {stats : BackfillStats} {failed : ℕ} (h : Balanced stats failed)
    (r : Except MaintenanceError BackfillOutcome) : Balanced (stats.record r) failed := by
  obtain ⟨clientErrors, herrors, hchecked⟩ := h
  rcases r with e | outcome
  · refine ⟨clientErrors + 1, ?_, ?_⟩
    · simp only [BackfillStats.record]
      omega
    · simp only [BackfillStats.record]
      omega
  · refine ⟨clientErrors, ?_, ?_⟩
    · cases outcome <;> exact herrors
    · cases outcome <;> simp only [BackfillStats.record] <;> omega

/-- The statistics and the world with its calls. -/
abbrev BackfillRun := BackfillStats → World × List (Event Gateway Choice World) → Prop

def CountedSoFar : BackfillRun := fun stats s => Balanced stats (failedListings s.2)

theorem sat_countedVisit {stats : BackfillStats} {s : World × List (Event Gateway Choice World)}
    (hs : CountedSoFar stats s) :
    (countedVisit cfg t stats p).Sat (gatewayOn b env).traced
      (.alone (fun _ _ _ => True) fun _ _ _ => True) CountedSoFar s := by
  have hcalls := (ofClient_backfillClient cfg t p).sat (h := (gatewayOn b env).traced)
    (K := .alone (fun _ _ _ => True) fun _ _ _ => True)
    (I := fun s' => failedListings s'.2 = failedListings s.2) (fun u v hu huv => huv ▸ hu)
    (fun op c u hop hu _ => ⟨trivial, ?_⟩) (w := s) rfl
  · rw [countedVisit, Prog.sat_map]
    refine hcalls.post fun r s' hs' => ?_
    show Balanced _ (failedListings s'.2)
    rw [hs']
    exact balanced_record hs r
  · have hother : op.isListing = false := by cases hop <;> rfl
    show failedListings (_ :: u.2) = _
    rw [← hu, failedListings, List.countP_cons_of_neg (by simp [hother])]
    rfl

theorem sat_backfillTenant_counts {stats : BackfillStats} {tenant : TenantRow}
    {s : World × List (Event Gateway Choice World)} (hs : CountedSoFar stats s) :
    (backfillTenant cfg stats tenant).Sat (gatewayOn b env).traced
      (.alone (fun _ _ _ => True) fun _ _ _ => True) CountedSoFar s := by
  rw [backfillTenant_eq]
  intro s' hsame c _
  subst hsame
  refine ⟨trivial, ?_⟩
  simp only [Handler.traced]
  rcases listPublicIds_cases b env tenant.id c s.1 with ⟨hf, h⟩ | ⟨f, e, hf, h⟩
  · rw [h]
    have hcount : failedListings (⟨.mapping (.listPublicIds tenant.id .hydra), c, s.1⟩ :: s.2) =
        failedListings s.2 := by
      rw [failedListings, List.countP_cons_of_neg (by simp [hf])]
      rfl
    have hstart : CountedSoFar stats (s.1, ⟨.mapping (.listPublicIds tenant.id .hydra), c, s.1⟩ :: s.2) := by
      show Balanced _ (failedListings _)
      rw [hcount]
      exact hs
    exact Prog.sat_foldlM (fun stats p _ s hs => sat_countedVisit hs) hstart
  · rw [h]
    show Balanced _ (failedListings _)
    obtain ⟨clientErrors, herrors, hchecked⟩ := hs
    rw [failedListings, List.countP_cons_of_pos (by simp [hf, GatewayOp.isListing])]
    refine ⟨clientErrors, ?_, hchecked⟩
    show stats.errors + 1 = failedListings s.2 + 1 + clientErrors
    omega

/-- The statistics of a pass. -/
theorem balanced_pass (o : ℕ → Choice) (w : World) :
    Balanced ((backfillPass cfg).run (gatewayOn b env) o w).1
      (failedListings ((backfillPass cfg).events (gatewayOn b env) o w)) := by
  have hsat : (backfillPass cfg).Sat (gatewayOn b env).traced
      (.alone (fun _ _ _ => True) fun _ _ _ => True) CountedSoFar (w, []) := by
    rw [backfillPass_eq]
    intro s' hsame c _
    subst hsame
    refine ⟨trivial, ?_⟩
    simp only [Handler.traced]
    rcases listTenants_cases b env c w with ⟨hf, h⟩ | ⟨f, e, hf, h⟩
    · rw [h]
      refine Prog.sat_foldlM (fun stats tenant _ s hs => sat_backfillTenant_counts hs) ?_
      exact ⟨0, by simp [failedListings, hf], rfl⟩
    · rw [h]
      exact ⟨0, by simp [failedListings, hf, GatewayOp.isListing], rfl⟩
  have hrun := hsat.run_of_choices (o := o) fun _ _ _ => trivial
  rw [Prog.run_traced, List.append_nil] at hrun
  have hreverse : failedListings ((backfillPass cfg).events (gatewayOn b env) o w).reverse =
      failedListings ((backfillPass cfg).events (gatewayOn b env) o w) := by
    simp [failedListings, List.countP_reverse]
  rw [← hreverse]
  exact hrun

/-! ## Who is left alone -/

theorem leavesAlone_visit (stats : BackfillStats) (o : ℕ → Choice) (w : World) :
    ∀ ev ∈ (countedVisit cfg t stats p).events (gatewayOn b env) o w, LeavesAlone ev.op ev.before := by
  intro ev hev
  rw [countedVisit, Prog.events_map] at hev
  have hsat : (backfillClient cfg t p).run.Sat (gatewayOn b env).traced (visiting True)
      (fun _ s => ∃ seed row, Visit b cfg t p True w s seed row) (w, []) := sat_visit
  have hguar := (hsat.run_events (o := o) (fun _ => rfl) fun _ _ => .inr trivial).1
  rw [Prog.events_traced] at hguar
  obtain ⟨pre, post, hsplit⟩ := List.append_of_mem hev
  exact hguar _ (mem_remembered.mpr ⟨pre, ev, post, hsplit, rfl⟩)

theorem leavesAlone_pass (o : ℕ → Choice) (w : World) :
    ∀ ev ∈ (backfillPass cfg).events (gatewayOn b env) o w, LeavesAlone ev.op ev.before := by
  have htenant : ∀ stats tenant o w, ∀ ev ∈ (backfillTenant cfg stats tenant).events (gatewayOn b env) o w,
      LeavesAlone ev.op ev.before := by
    intro stats tenant o w ev hev
    rw [backfillTenant_eq] at hev
    simp only [Prog.events] at hev
    rcases List.mem_cons.mp hev with rfl | hev
    · trivial
    · rcases listPublicIds_cases b env tenant.id (o 0) w with ⟨-, h⟩ | ⟨f, e, -, h⟩
      · rw [h] at hev
        exact (Prog.events_foldlM (E := fun ev => LeavesAlone ev.op ev.before) (I := fun _ => True) _
          (fun stats p _ o w _ => ⟨leavesAlone_visit stats o w, trivial⟩) stats _ trivial).1 ev hev
      · rw [h] at hev
        exact absurd hev List.not_mem_nil
  intro ev hev
  rw [backfillPass_eq] at hev
  simp only [Prog.events] at hev
  rcases List.mem_cons.mp hev with rfl | hev
  · trivial
  · rcases listTenants_cases b env (o 0) w with ⟨-, h⟩ | ⟨f, e, -, h⟩
    · rw [h] at hev
      exact (Prog.events_foldlM (E := fun ev => LeavesAlone ev.op ev.before) (I := fun _ => True) _
        (fun stats tenant _ o w _ => ⟨htenant stats tenant o w, trivial⟩) {} _ trivial).1 ev hev
    · rw [h] at hev
      exact absurd hev List.not_mem_nil

end pass

/-! ## What is asked of a pass -/

/-- The worlds have the same rows and tuples, and everything else. -/
def SameState (w v : World) : Prop := ∀ p, SameOn p w v

section sound

variable (b : PermissionBackend) (env : Env) (cfg : DcrMaintenance)

/-- The world after a pass. -/
def backfilled (o : ℕ → Choice) (w : World) : World := ((backfillPass cfg).run (gatewayOn b env) o w).2

/-- The calls of a pass. -/
def backfillCalls (o : ℕ → Choice) (w : World) : List (Event Gateway Choice World) :=
  (backfillPass cfg).events (gatewayOn b env) o w

/-- A pass over the tenants and clients of `w` under the failures in `o` is as it should be. -/
structure BackfillSound (w : World) (o : ℕ → Choice) : Prop where
  /-- Nothing is written for a client with a row or a tuple, nor for an agent. -/
  leavesAlone : ∀ ev ∈ backfillCalls b env cfg o w, LeavesAlone ev.op ev.before
  /-- A client is visited as if it were alone, or its listing has failed. -/
  isolated : ∀ t p, HydraMapped t p w →
    ((∃ ev ∈ backfillCalls b env cfg o w, Unlisted t ev) ∧
      ∀ ev ∈ backfillCalls b env cfg o w, Elsewhere p ev.op) ∨
    ∃ o' v, Prog.Inside (gatewayOn b env) (Elsewhere p) (backfillClient cfg t p).run o' v
      (backfillPass cfg) o w ∧ AsAlone b env cfg t p w v o' (backfilled b env cfg o w)
  /-- The counts add up. -/
  counts : Balanced ((backfillPass cfg).run (gatewayOn b env) o w).1
    (failedListings (backfillCalls b env cfg o w))
  /-- A pass without failures ends where one such pass would have ended from the start. -/
  completes : ∀ o' o'', (∀ n, (o' n).FaultFree) → (∀ n, (o'' n).FaultFree) →
    SameState (backfilled b env cfg o'' w) (backfilled b env cfg o' (backfilled b env cfg o w))
  /-- And another one changes nothing. -/
  settles : ∀ o' o'', (∀ n, (o' n).FaultFree) → (∀ n, (o'' n).FaultFree) →
    SameState (backfilled b env cfg o' (backfilled b env cfg o w))
      (backfilled b env cfg o'' (backfilled b env cfg o' (backfilled b env cfg o w)))

variable {b env cfg} {w : World} {o : ℕ → Choice}

/-- What is no client's is as before. -/
theorem backfilled_shared : (backfilled b env cfg o w).shared = w.shared := by
  have hcalls : (backfillPass cfg).Calls fun op : GatewayOp => op.isListing = true ∨ ∃ t p, op.OfClient t p := by
    rw [backfillPass_eq]
    refine ⟨.inl rfl, fun r => ?_⟩
    rcases r with e | tenants
    · trivial
    · refine Prog.calls_foldlM (fun stats tenant _ => ?_) _
      rw [backfillTenant_eq]
      refine ⟨.inl rfl, fun r => ?_⟩
      rcases r with e | ids
      · trivial
      · exact Prog.calls_foldlM (fun stats p _ => Prog.calls_map
          ((ofClient_backfillClient cfg tenant.id p).mono fun op hop => .inr ⟨_, _, hop⟩)) _
  refine (Prog.chained_events (gatewayOn b env) (backfillPass cfg) o w).invariant
    (I := fun u => u.shared = w.shared) rfl (fun ev hev hshared => ?_) |>.1
  exact (shared_call (Prog.calls_of_mem_events hcalls ev hev) ev.choice ev.before).trans hshared

/-- A client that is not mapped is as before. -/
theorem sameOn_of_unmapped {p : String} (hmapped : ∀ t, ¬ HydraMapped t p w) :
    SameOn p w (backfilled b env cfg o w) :=
  ((Prog.chained_events (gatewayOn b env) (backfillPass cfg) o w).invariant (I := SameOn p w) (.refl w)
    fun ev hev hsame => hsame.trans (elsewhere_frame (elsewhere_pass hmapped o ev hev) _ _)).1

/-- The tenants keep their ids apart. -/
theorem tenants_nodup (hkey : (w.db.tenants.map (·.id)).Nodup) :
    ((backfilled b env cfg o w).db.tenants.map (·.id)).Nodup := by
  have htenants : (backfilled b env cfg o w).db.tenants = w.db.tenants := (Prod.mk.inj backfilled_shared).1
  rw [htenants]
  exact hkey

/-- What an interrupted pass has left is completed by the next, if no seeding was cut. -/
theorem backfill_completes (hkey : (w.db.tenants.map (·.id)).Nodup)
    (huncut : ∀ ev ∈ backfillCalls b env cfg o w, ¬ CutSeed b ev) {o' o'' : ℕ → Choice}
    (ho' : ∀ n, (o' n).FaultFree) (ho'' : ∀ n, (o'' n).FaultFree) :
    SameState (backfilled b env cfg o'' w) (backfilled b env cfg o' (backfilled b env cfg o w)) := by
  intro p
  by_cases hmapped : ∃ t, HydraMapped t p w
  · obtain ⟨t, hmapped⟩ := hmapped
    have hmapped' : HydraMapped t p (backfilled b env cfg o w) :=
      (hydraMapped_congr backfilled_shared).mpr hmapped
    obtain ⟨v, tr, seed, row, h, hsame, hcut⟩ := pass_slice (b := b) hkey hmapped (o := o) (.inr trivial)
    obtain ⟨v₂, tr₂, seed₂, row₂, h₂, hsame₂, -⟩ := pass_slice (b := b) (tenants_nodup hkey) hmapped'
      (o := o') (.inl ho')
    obtain ⟨v₃, tr₃, seed₃, row₃, h₃, hsame₃, -⟩ := pass_slice (b := b) hkey hmapped (o := o'') (.inl ho'')
    have hagain := h.again (hcut.mpr fun ev hev _ => huncut ev hev) hsame h₂ h₃
    exact hsame₃.symm.trans (hagain.trans hsame₂)
  · push Not at hmapped
    have hmapped' : ∀ t, ¬ HydraMapped t p (backfilled b env cfg o w) := fun t ht =>
      hmapped t ((hydraMapped_congr backfilled_shared).mp ht)
    exact (sameOn_of_unmapped hmapped).symm.trans
      ((sameOn_of_unmapped hmapped).trans (sameOn_of_unmapped hmapped'))

/-- The calls about a client are those of its visit. -/
theorem ofClient_of_mem {t t' p : String} (hkey : (w.db.tenants.map (·.id)).Nodup)
    (hmapped : HydraMapped t' p w) {ev : Event Gateway Choice World}
    (hev : ev ∈ backfillCalls b env cfg o w) (hop : ev.op.OfClient t p) : ev.op.OfClient t' p := by
  rcases insideUnless_pass (b := b) hkey hmapped o with ⟨-, hnone⟩ | ⟨o', v, h⟩
  · exact absurd (hnone ev hev) (not_elsewhere hop)
  · exact Prog.calls_of_mem_events (ofClient_backfillClient cfg t' p) ev
      (h.mem_events.2 hev (not_elsewhere hop))

/-- A cut seeding is not completed. -/
theorem backfill_cut (hkey : (w.db.tenants.map (·.id)).Nodup) {ev : Event Gateway Choice World}
    (hev : ev ∈ backfillCalls b env cfg o w) (hcut : CutSeed b ev) {o' o'' : ℕ → Choice}
    (ho' : ∀ n, (o' n).FaultFree) (ho'' : ∀ n, (o'' n).FaultFree) :
    ¬ SameState (backfilled b env cfg o'' w) (backfilled b env cfg o' (backfilled b env cfg o w)) := by
  obtain ⟨t, p, groups, hop, -⟩ := id hcut
  have hclient : ev.op.OfClient t p := hop ▸ .seed groups
  intro hall
  by_cases hmapped : ∃ t', HydraMapped t' p w
  · obtain ⟨t', hmapped⟩ := hmapped
    have hmapped' : HydraMapped t' p (backfilled b env cfg o w) :=
      (hydraMapped_congr backfilled_shared).mpr hmapped
    obtain ⟨v, tr, seed, row, h, hsame, hcuts⟩ := pass_slice (b := b) hkey hmapped (o := o) (.inr trivial)
    obtain ⟨v₂, tr₂, seed₂, row₂, h₂, hsame₂, -⟩ := pass_slice (b := b) (tenants_nodup hkey) hmapped'
      (o := o') (.inl ho')
    obtain ⟨v₃, tr₃, seed₃, row₃, h₃, hsame₃, -⟩ := pass_slice (b := b) hkey hmapped (o := o'') (.inl ho'')
    have hnot : ¬ Uncut b tr := fun huncut =>
      hcuts.mp huncut ev hev (ofClient_of_mem hkey hmapped hev hclient) hcut
    exact h.again_cut hnot hsame h₂ h₃ (hsame₃.trans ((hall p).trans hsame₂.symm))
  · push Not at hmapped
    exact not_elsewhere hclient (elsewhere_pass hmapped o ev hev)

/-- **The backfill.** In every state and whatever fails, a client that has something is left alone, each
client is visited as if it were alone, and the counts add up. Passes without failures complete what the
pass has left, and then change nothing, exactly if Keto cut off no seeding of it in the middle. -/
theorem backfill_sound_iff (b : PermissionBackend) (env : Env) (cfg : DcrMaintenance) (w : World)
    (o : ℕ → Choice) (hkey : (w.db.tenants.map (·.id)).Nodup) :
    BackfillSound b env cfg w o ↔ ∀ ev ∈ backfillCalls b env cfg o w, ¬ CutSeed b ev := by
  constructor
  · intro hsound ev hev hcut
    exact backfill_cut hkey hev hcut smoothly_faultFree smoothly_faultFree
      (hsound.completes smoothly smoothly smoothly_faultFree smoothly_faultFree)
  · intro huncut
    refine ⟨leavesAlone_pass o w, fun t p hmapped => ?_, balanced_pass o w, fun o' o'' ho' ho'' =>
      backfill_completes hkey huncut ho' ho'', fun o' o'' ho' ho'' => ?_⟩
    · rcases insideUnless_pass (b := b) hkey hmapped o with hunlisted | ⟨o', v, h⟩
      · exact .inl hunlisted
      · exact .inr ⟨o', v, h, asAlone_of_inside h⟩
    · refine backfill_completes (tenants_nodup hkey) (fun ev hev hcut => ?_) ho'' ho'
      obtain ⟨n, hn⟩ := Prog.choice_of_mem_events hev
      obtain ⟨t, p, groups, -, hcut⟩ := hcut
      exact not_cutSeeding (hn ▸ ho' n) hcut

end sound

/-! ## A seeding that is cut off -/

/-- A client from before the applications table: mapped to Hydra, without a row and without tuples. -/
def legacyClient : World :=
  { World.empty [⟨"acme"⟩] with
    db :=
      { Db.empty [⟨"acme"⟩] with
        idMappings := [⟨"acme", .hydra, "kanban", "kanban-client", 0⟩]
        mappingKeys := by simp
        mappingTenant := by simp [Db.empty]
        applicationMapping := by simp [Db.empty] } }

/-- The members of one group may use it. -/
def staffOnly : DcrMaintenance := ⟨["staff"], 0⟩

/-- Keto is gone after the first link. -/
def keptFirstLink (n : ℕ) : Choice :=
  if n = 5 then { smoothly n with fault := fun i => if i = 1 then some ⟨false, .http "connection reset"⟩ else none }
  else smoothly n

/-- The group's members stay without the admin relation that an undisturbed pass would have given them. -/
theorem interrupted_seeding : ¬ BackfillSound .keto .firstRow staffOnly legacyClient keptFirstLink := by
  intro hsound
  have hsame := (hsound.completes smoothly smoothly smoothly_faultFree smoothly_faultFree "kanban").tuples
    ⟨"acme", entitlementKey "kanban" adminRel (EntitlementServiceImpl.groupMembers "staff")⟩ rfl
  have hthere : (⟨"acme", entitlementKey "kanban" adminRel (EntitlementServiceImpl.groupMembers "staff")⟩ :
      StoredTuple) ∈ (backfilled .keto .firstRow staffOnly smoothly legacyClient).tuples := by decide +kernel
  have hmissing : (⟨"acme", entitlementKey "kanban" adminRel (EntitlementServiceImpl.groupMembers "staff")⟩ :
      StoredTuple) ∉ (backfilled .keto .firstRow staffOnly smoothly
        (backfilled .keto .firstRow staffOnly keptFirstLink legacyClient)).tuples := by decide +kernel
  exact hmissing (hsame.mpr hthere)

/-- On OpenFGA the same failure is made good. -/
theorem backfill_sound_legacyClient :
    BackfillSound .openFga .firstRow staffOnly legacyClient keptFirstLink :=
  (backfill_sound_iff .openFga .firstRow staffOnly legacyClient keptFirstLink (by decide)).mpr
    fun ev _ hcut => by
      obtain ⟨t, p, groups, -, hketo, -⟩ := hcut
      cases hketo

end SsoGateway
