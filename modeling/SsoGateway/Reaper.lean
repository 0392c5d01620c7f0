import SsoGateway.DcrCalls
import SsoGateway.Gates
import SsoGateway.Lib.History

/-!
# The collector and concurrent consents

One pass of the collector runs together with any number of consents, their calls interleaved in any
way. A client with a row or a tuple should not be deleted; but the pass looks at one tenant only,
and a consent may come between its last look and the deletes.

* `collection` — the pass and the consents as one pool.
* `InUse` — the client has a row or a tuple in some tenant.
* `ReapAllowed` — the condition on a delete: since the pass last asked for the client's tuples no
  consent has written for it, its rows and tuples are all in the tenant the pass looked at, and its
  Hydra id belongs to no other mapping.
* `reap_spares_used` — under it no client in use is deleted, along every schedule.
* `reap_deletes_used` — a consent between the check and the delete.
-/

namespace SsoGateway

open Lib

/-! ## The pool -/

/-- The call of a consent. -/
structure ConsentCall where
  cfg : ConsentConfig
  ctx : RequestContext
  req : AcceptConsentRequest

/-- The collector's pass, and consents; what they answer is not looked at. -/
def collection {κ : Type} (cfg : DcrMaintenance) (calls : κ → ConsentCall) (w : World) :
    Pool Gateway (Option κ) Unit World where
  world := w
  threads
    | none => (fun _ => ()) <$> reapUnusedRegistrations cfg
    | some k => (fun _ => ()) <$> (acceptConsent (calls k).cfg (calls k).ctx (calls k).req).run

/-- The gateway's calls, made by the pass or by one of the consents. -/
def together (κ : Type) (env : Env) : Handler Gateway (Option κ × Choice) World :=
  fun op ic w => gateway env op ic.2 w

/-- The calls of a schedule so far. -/
abbrev Interleaving (κ : Type) := List (Event Gateway (Option κ × Choice) World)

/-- The client has a row in some tenant, or a tuple in some tenant's store. -/
def InUse (publicId : String) (w : World) : Prop :=
  (∃ a ∈ w.db.applications, a.publicId = publicId) ∨
    ∃ x ∈ w.tuples, x.key.nspace = entitlementNamespace ∧ x.key.object = publicId

instance (publicId : String) (w : World) : Decidable (InUse publicId w) :=
  inferInstanceAs (Decidable (_ ∨ _))

/-- The rows and tuples of the client are all in that tenant. -/
def UsedOnlyIn (tenantId publicId : String) (w : World) : Prop :=
  (∀ a ∈ w.db.applications, a.publicId = publicId → a.tenantId = tenantId) ∧
    ∀ x ∈ w.tuples, x.key.nspace = entitlementNamespace → x.key.object = publicId →
      x.tenantId = tenantId

instance (tenantId publicId : String) (w : World) : Decidable (UsedOnlyIn tenantId publicId w) :=
  inferInstanceAs (Decidable (_ ∧ _))

/-! ## The last check -/

/-- The tenant and the client whose tuples the pass asked for last. -/
def lastCheck {κ : Type} : Interleaving κ → Option (String × String)
  | [] => none
  | ev :: past =>
      match ev.op, ev.choice.1 with
      | .entitlement (.hasAnyTuples t p), none => some (t, p)
      | _, _ => lastCheck past

/-- Since the pass asked for tuples last, no row was inserted and nothing granted for the client. -/
def Unwritten {κ : Type} (publicId : String) : Interleaving κ → Prop
  | [] => True
  | ev :: past =>
      match ev.op, ev.choice.1 with
      | .entitlement (.hasAnyTuples _ _), none => True
      | .application (.create _ p _ _), _ => p ≠ publicId ∧ Unwritten publicId past
      | .entitlement (.grant _ _ p _), _ => p ≠ publicId ∧ Unwritten publicId past
      | _, _ => Unwritten publicId past

instance decidableUnwritten {κ : Type} (publicId : String) :
    (past : Interleaving κ) → Decidable (Unwritten publicId past)
  | [] => isTrue trivial
  | ev :: past => by
      have := decidableUnwritten publicId past
      unfold Unwritten
      split
      · exact inferInstance
      · exact inferInstance
      · exact inferInstance
      · exact inferInstance

/-- The condition on deleting what the pass checked last. -/
def CheckHolds {κ : Type} (s : World × Interleaving κ) : Prop :=
  ∀ tp ∈ lastCheck s.2, Unwritten tp.2 s.2 ∧ UsedOnlyIn tp.1 tp.2 s.1

/-- The condition on a call of the pass. -/
def ReapAllowed {κ : Type} (op : GatewayOp) (s : World × Interleaving κ) : Prop :=
  match op with
  | .hydra (.deleteOauth2Client id) => CheckHolds s ∧ ∀ tp ∈ lastCheck s.2,
      ∀ m ∈ s.1.db.idMappings, m.backend = .hydra → m.oryGlobalId = id → m.publicId = tp.2
  | .mapping (.delete _ _ _) => CheckHolds s
  | _ => True

instance {κ : Type} (op : GatewayOp) (s : World × Interleaving κ) :
    Decidable (ReapAllowed op s) := by
  unfold ReapAllowed CheckHolds
  induction op using GatewayOp.casesOn with
  | hydra op => induction op using HydraOp.casesOn <;> exact inferInstance
  | mapping op => induction op using MappingOp.casesOn <;> exact inferInstance
  | _ => exact inferInstance

/-- The call deletes nothing of a client in use. -/
def SparesUsed (op : GatewayOp) (w : World) : Prop :=
  match op with
  | .hydra (.deleteOauth2Client id) =>
      ∀ m ∈ w.db.idMappings, m.backend = .hydra → m.oryGlobalId = id → ¬ InUse m.publicId w
  | .mapping (.delete _ _ p) => ¬ InUse p w
  | _ => True

instance (op : GatewayOp) (w : World) : Decidable (SparesUsed op w) := by
  unfold SparesUsed
  induction op using GatewayOp.casesOn with
  | hydra op => induction op using HydraOp.casesOn <;> exact inferInstance
  | mapping op => induction op using MappingOp.casesOn <;> exact inferInstance
  | _ => exact inferInstance

/-- What the pass knows after asking for tuples: unless a consent has written since, there are none
in that tenant. -/
def NoTuples {κ : Type} (t p : String) (s : World × Interleaving κ) : Prop :=
  lastCheck s.2 = some (t, p) ∧ (Unwritten p s.2 → ∀ x ∈ s.1.tuples,
    x.key.nspace = entitlementNamespace → x.key.object = p → x.tenantId ≠ t)

/-- What it knows after asking for the row once more. -/
def NoRow {κ : Type} (t p : String) (s : World × Interleaving κ) : Prop :=
  Unwritten p s.2 → ∀ a ∈ s.1.db.applications, a.publicId = p → a.tenantId ≠ t

/-! ## One call -/

/-- Calls that are no check of the pass, and give rows and tuples only by an insert or a grant. -/
def WritesPlainly {κ : Type} : GatewayOp → Option κ → Prop
  | .entitlement (.hasAnyTuples _ _), none => False
  | .entitlement (.seedApplication _ _ _), _ => False
  | .entitlement (.setGroupMembership _ _ _ _), _ => False
  | _, _ => True

section step

variable {κ : Type} {t p : String} {op : GatewayOp} {ic : Option κ × Choice}
  {s : World × Interleaving κ}

theorem lastCheck_cons (hop : WritesPlainly op ic.1) (past : Interleaving κ) (w : World) :
    lastCheck (⟨op, ic, w⟩ :: past) = lastCheck past := by
  simp only [lastCheck]
  split
  · rename_i hpass
    rw [hpass] at hop
    exact hop.elim
  · rfl

/-- A write since the check stays one. -/
theorem unwritten_of_cons (hop : WritesPlainly op ic.1) {past : Interleaving κ} {w : World}
    (h : Unwritten p (⟨op, ic, w⟩ :: past)) : Unwritten p past := by
  unfold Unwritten at h
  split at h
  · rename_i hcheck hpass
    simp only at hcheck hpass
    rw [hpass, hcheck] at hop
    exact hop.elim
  · exact h.2
  · exact h.2
  · exact h

variable (op ic) in
/-- Tuples come by a grant. -/
theorem noTuples_step (env : Env) (hop : WritesPlainly op ic.1) (h : NoTuples t p s) :
    NoTuples t p ((together κ env).traced op ic s).2 := by
  refine ⟨(lastCheck_cons hop s.2 s.1).trans h.1, fun hnew => ?_⟩
  have hbefore := h.2 (unwritten_of_cons hop hnew)
  have hstep := gateway_step env ic.2 s.1 op
  show ∀ x ∈ (gateway env op ic.2 s.1).2.tuples, _
  generalize (gateway env op ic.2 s.1).2 = w' at hstep ⊢
  cases hstep with
  | @tuples o t' writes deletes hop' hwrites =>
      subst hop'
      intro x hx
      rcases mem_applyTuples.mp hx with ⟨-, hkey⟩ | ⟨hx, -⟩
      · intro _ hobj
        cases o with
        | grant t'' i q level =>
            obtain ⟨-, rfl, -⟩ := hwrites
            rw [List.mem_singleton.mp hkey] at hobj
            exact absurd hobj hnew.1
        | removeApplication t'' a =>
            obtain ⟨-, rfl, -⟩ := hwrites
            exact absurd hkey List.not_mem_nil
        | seedApplication _ _ _ => exact hop.elim
        | setGroupMembership _ _ _ _ => exact hop.elim
        | _ => exact hwrites.elim
      · exact hbefore x hx
  | _ => exact hbefore

variable (op ic) in
/-- Rows come by an insert. -/
theorem noRow_step (env : Env) (hop : WritesPlainly op ic.1) (h : NoRow t p s) :
    NoRow t p ((together κ env).traced op ic s).2 := by
  intro hnew
  have hbefore := h (unwritten_of_cons hop hnew)
  have hstep := gateway_step env ic.2 s.1 op
  show ∀ a ∈ (gateway env op ic.2 s.1).2.db.applications, _
  generalize (gateway env op ic.2 s.1).2 = w' at hstep ⊢
  cases hstep with
  | insertApplication hop' hdb =>
      subst hop'
      intro a ha hp
      rw [(Db.insertApplication_ok hdb).1] at ha
      rcases List.mem_cons.mp ha with rfl | ha
      · exact absurd hp hnew.1
      · exact hbefore a ha hp
  | insertMapping _ hdb =>
      rw [(Db.insertMapping_ok hdb).2.1]
      exact hbefore
  | deleteMapping _ hdb =>
      rw [(Db.deleteMapping_ok hdb).2.2.1]
      exact fun a ha => hbefore a (List.mem_of_mem_filter ha)
  | updateTenant _ hdb =>
      rw [(Db.updateTenant_ok hdb).2.2.1]
      exact hbefore
  | deleteApplication _ hdb =>
      rw [(Db.deleteApplication_ok hdb).1]
      exact fun a ha => hbefore a (List.mem_of_mem_filter ha)
  | insertAgent _ hdb =>
      rw [(Db.insertAgent_ok hdb).2.2.1]
      exact hbefore
  | deleteAgent _ hdb =>
      rw [(Db.deleteAgent_ok hdb).2.2.1]
      exact hbefore
  | _ => exact hbefore

/-- A client without tuples and row in the only tenant where it could have them is not in use. -/
theorem not_inUse (hcheck : CheckHolds s) (htuples : NoTuples t p s) (hrow : NoRow t p s) :
    ¬ InUse p s.1 := by
  obtain ⟨hunwritten, hrows, honly⟩ := hcheck (t, p) htuples.1
  rintro (⟨a, ha, hp⟩ | ⟨x, hx, hns, hobj⟩)
  · exact hrow hunwritten a ha hp (hrows a ha hp)
  · exact htuples.2 hunwritten x hx hns hobj (honly x hx hns hobj)

end step

/-! ## The pass among consents -/

section pass

variable {κ : Type} {env : Env}

/-- The contract of a program of the pool. The pass relies on the consents to write by inserts and
grants; a consent relies on nothing. -/
def collecting : Option κ → Contract Gateway (Option κ × Choice) (World × Interleaving κ)
  | none =>
      { rely := fun s s' => ∀ t p, (NoTuples t p s → NoTuples t p s') ∧ (NoRow t p s → NoRow t p s')
        assume := fun op ic s => ic.1 = none ∧ ReapAllowed op s
        guar := fun op _ s => SparesUsed op s.1 }
  | some k =>
      { rely := fun _ _ => True
        assume := fun _ _ _ => True
        guar := fun op _ _ => WritesPlainly op (some k) }

theorem writesPlainly_of_isLookup {k : κ} {op : GatewayOp} (hop : op.IsLookup) :
    WritesPlainly op (some k) := by
  unfold WritesPlainly
  split
  · rename_i hpass
    cases hpass
  · exact hop.elim
  · exact hop.elim
  · trivial

/-- A consent writes by inserts and grants. -/
theorem sat_consent (k : κ) (call : ConsentCall) (s : World × Interleaving κ) :
    (acceptConsent call.cfg call.ctx call.req).run.Sat (together κ env).traced (collecting (some k))
      (fun _ _ => True) s := by
  have hcalls : (acceptConsent call.cfg call.ctx call.req).run.Calls (WritesPlainly · (some k)) :=
    calls_acceptConsent (fun _ => writesPlainly_of_isLookup) (fun _ _ _ => trivial)
      (fun _ _ => trivial) (fun _ _ _ => trivial) (fun _ _ => trivial)
      (fun _ _ => ⟨fun _ => trivial, fun _ => trivial, fun _ => trivial⟩) _ _ _
  exact hcalls.sat (fun _ _ _ _ => trivial) (fun _ _ _ hop _ _ => ⟨hop, trivial⟩) trivial

/-- A call of the pass that deletes nothing. -/
theorem sparesUsed_of_isQuery {op : GatewayOp} (hop : op.IsQuery) (w : World) : SparesUsed op w := by
  unfold SparesUsed
  split
  · exact hop.elim
  · exact hop.elim
  · trivial

/-- The questions of the pass spare every client. -/
theorem sat_pass_query {α : Type} {p : Prog Gateway α} (hp : p.Calls GatewayOp.IsQuery)
    (s : World × Interleaving κ) :
    p.Sat (together κ env).traced (collecting none) (fun _ _ => True) s :=
  hp.sat (fun _ _ _ _ => trivial)
    (fun _ _ s hop _ _ => ⟨sparesUsed_of_isQuery hop s.1, trivial⟩) trivial

/-- The second check: if it finds nothing, the client had no tuple and no row in the tenant. -/
theorem sat_pass_nowInUse (t p : String) (s : World × Interleaving κ) :
    (nowInUse t p).run.Sat (together κ env).traced (collecting none)
      (fun r s => r = .ok false → NoTuples t p s ∧ NoRow t p s) s := by
  unfold nowInUse
  rw [Prog.sat_run_bind, Prog.sat_run_orThrow]
  refine Prog.sat_perform.mpr ?_
  rintro s₁ - ⟨_, c⟩ ⟨rfl, -⟩
  refine ⟨trivial, ?_⟩
  rcases hanswer : (gateway env (.entitlement (.hasAnyTuples t p)) c s₁.1).1 with e | b
  · simp only [together, Handler.traced, hanswer]
    intro h
    cases h
  have hworld : (gateway env (.entitlement (.hasAnyTuples t p)) c s₁.1).2 = s₁.1 :=
    gateway_of_isRead (by exact trivial) env c s₁.1
  have hiff := gateway_hasAnyTuples_ok env c s₁.1 hanswer
  cases b with
  | true =>
      simp only [together, Handler.traced, hanswer]
      intro h
      cases h
  | false =>
      have hnone : NoTuples t p ((together κ env).traced (.entitlement (.hasAnyTuples t p))
          (none, c) s₁).2 := by
        refine ⟨rfl, fun _ x hx hns hobj ht => ?_⟩
        have hx : x ∈ (gateway env (.entitlement (.hasAnyTuples t p)) c s₁.1).2.tuples := hx
        rw [hworld] at hx
        exact absurd (hiff.mpr ⟨x, hx, ht, hns, hobj⟩) (by simp)
      simp only [together, Handler.traced, hanswer] at hnone ⊢
      -- the row is asked for once more
      show (applicationRowExists t p).run.Sat _ _ _ _
      unfold applicationRowExists
      rw [Prog.sat_run_bind, Prog.sat_run_attempt]
      refine Prog.sat_perform.mpr ?_
      rintro s₂ hrely ⟨_, c⟩ ⟨rfl, -⟩
      refine ⟨trivial, ?_⟩
      have htuples := noTuples_step (.application (.get t p)) (none, c) env trivial
        ((hrely t p).1 hnone)
      rcases gateway_getApplication env c s₂.1 t p with ⟨a, ha, hP, h⟩ | ⟨habsent, h⟩ | ⟨e, -, h⟩
      · simp only [together, Handler.traced, h]
        intro h
        cases h
      · simp only [together, Handler.traced, h] at htuples ⊢
        intro _
        exact ⟨htuples, fun _ a ha hp ht => habsent a ha ⟨ht, hp⟩⟩
      · simp only [together, Handler.traced, h]
        intro h
        cases h

/-- The delete at Hydra. -/
theorem sat_pass_deleteHydraClient {t p : String} (id : String) {s : World × Interleaving κ}
    (htuples : NoTuples t p s) (hrow : NoRow t p s) :
    (deleteHydraClient id).run.Sat (together κ env).traced (collecting none)
      (fun _ s => NoTuples t p s ∧ NoRow t p s) s := by
  unfold deleteHydraClient
  rw [Prog.sat_run_bind, Prog.sat_run_attempt]
  refine Prog.sat_perform.mpr ?_
  rintro s₁ hrely ⟨_, c⟩ ⟨rfl, hallowed⟩
  have htuples := (hrely t p).1 htuples
  have hrow := (hrely t p).2 hrow
  constructor
  · obtain ⟨hcheck, hone⟩ := hallowed
    intro m hm hb hid
    rw [hone (t, p) htuples.1 m hm hb hid]
    exact not_inUse hcheck htuples hrow
  · have hafter := And.intro
      (noTuples_step (.hydra (.deleteOauth2Client id)) (none, c) env trivial htuples)
      (noRow_step (.hydra (.deleteOauth2Client id)) (none, c) env trivial hrow)
    dsimp only
    split
    · exact hafter
    · exact hafter
    · exact hafter

/-- The delete of the mapping. -/
theorem sat_pass_deleteClientMapping {t p : String} {s : World × Interleaving κ}
    (htuples : NoTuples t p s) (hrow : NoRow t p s) :
    (deleteClientMapping t p).run.Sat (together κ env).traced (collecting none)
      (fun _ _ => True) s := by
  unfold deleteClientMapping
  rw [Prog.sat_run_bind, Prog.sat_run_attempt]
  refine Prog.sat_perform.mpr ?_
  rintro s₁ hrely ⟨_, c⟩ ⟨rfl, hallowed⟩
  constructor
  · exact not_inUse hallowed ((hrely t p).1 htuples) ((hrely t p).2 hrow)
  · dsimp only
    split
    · exact trivial
    · exact trivial
    · exact trivial

/-- One registration. -/
theorem sat_pass_reapRegistration (cfg : DcrMaintenance) (t : String) (row : IdMappingRow)
    (s : World × Interleaving κ) :
    (reapRegistration cfg t row).run.Sat (together κ env).traced (collecting none)
      (fun _ _ => True) s := by
  have hquery : ∀ op : GatewayOp, op.IsQuery → op.IsQuery := fun _ h => h
  unfold reapRegistration
  rw [Prog.sat_run_bind]
  refine (sat_pass_query (Prog.calls_run_attempt (Prog.calls_perform (by exact trivial))) s).post
    fun r s _ => ?_
  rcases r with e | now
  · trivial
  simp only [Prog.sat_run_ite]
  split
  · trivial
  rw [Prog.sat_run_bind]
  refine (sat_pass_query (calls_applicationRowExists hquery _ _) s).post fun r s _ => ?_
  rcases r with e | found
  · trivial
  simp only [Prog.sat_run_ite]
  split
  · trivial
  rw [Prog.sat_run_bind]
  refine (sat_pass_query (calls_isAgent hquery _) s).post fun r s _ => ?_
  rcases r with e | agent
  · trivial
  simp only [Prog.sat_run_ite]
  split
  · trivial
  rw [Prog.sat_run_bind]
  refine (sat_pass_nowInUse t row.publicId s).post fun r s hchecked => ?_
  rcases r with e | used
  · trivial
  simp only [Prog.sat_run_ite]
  split
  · trivial
  rename_i hunused
  obtain ⟨htuples, hrow⟩ := hchecked (by simpa using hunused)
  rw [Prog.sat_run_bind]
  refine (sat_pass_deleteHydraClient row.oryGlobalId htuples hrow).post fun r s hkept => ?_
  obtain ⟨htuples, hrow⟩ := hkept
  rcases r with e | _
  · trivial
  dsimp only
  rw [Prog.sat_run_bind]
  refine (sat_pass_deleteClientMapping htuples hrow).post fun r s _ => ?_
  rcases r with e | _
  · trivial
  · trivial

/-- The pass. -/
theorem sat_pass (cfg : DcrMaintenance) (s : World × Interleaving κ) :
    (reapUnusedRegistrations cfg).Sat (together κ env).traced (collecting none)
      (fun _ _ => True) s := by
  have htenant : ∀ stats tenant (s : World × Interleaving κ),
      (reapTenant cfg stats tenant).Sat (together κ env).traced (collecting none)
        (fun _ _ => True) s := by
    intro stats tenant s
    unfold reapTenant
    rw [Prog.sat_bind]
    refine (sat_pass_query (Prog.calls_perform (by exact trivial)) s).post fun r s _ => ?_
    rcases r with e | rows
    · trivial
    · exact Prog.sat_foldlM (I := fun _ _ => True) (fun stats row _ s _ =>
        Prog.sat_map.mpr (sat_pass_reapRegistration cfg tenant.id row s)) trivial
  unfold reapUnusedRegistrations
  rw [Prog.sat_ite]
  split
  · trivial
  · rw [Prog.sat_bind]
    refine (sat_pass_query (Prog.calls_perform (by exact trivial)) s).post fun r s _ => ?_
    rcases r with e | tenants
    · trivial
    · exact Prog.sat_foldlM (I := fun _ _ => True) (fun stats tenant _ s _ => htenant stats tenant s)
        trivial

end pass

/-! ## Every schedule -/

/-- **The collector spares clients in use.** Along every schedule of one pass and any number of
consents, from any world and under any faults: if every delete of the pass meets the condition, then
no delete is made of a client that has a row or a tuple in some tenant. -/
theorem reap_spares_used {κ : Type} [DecidableEq κ] (env : Env) (cfg : DcrMaintenance)
    (calls : κ → ConsentCall) (w : World) (sched : List (Option κ × Choice))
    (hallowed : ∀ ev ∈ remembered [] ((collection cfg calls w).events (together κ env) sched),
      ev.choice.1 = none → ReapAllowed ev.op ev.before) :
    ∀ ev ∈ (collection cfg calls w).events (together κ env) sched,
      ev.choice.1 = none → SparesUsed ev.op ev.before := by
  obtain ⟨-, hevents⟩ := Pool.run_remember (together κ env) (collection cfg calls w) sched []
  have hsat := (Pool.sat_run (K := collecting) (Q := fun _ _ _ => True)
    (P := (collection cfg calls w).remember []) (h := (together κ env).traced) ?refl ?trans ?post
    ?compat sched ?start ?assume).2
  case refl =>
    intro i s
    cases i with
    | none => exact fun t p => ⟨id, id⟩
    | some k => trivial
  case trans =>
    intro i s₁ s₂ s₃ h₁ h₂
    cases i with
    | none => exact fun t p => ⟨fun h => (h₂ t p).1 ((h₁ t p).1 h), fun h => (h₂ t p).2 ((h₁ t p).2 h)⟩
    | some k => trivial
  case post => exact fun _ _ _ _ _ _ => trivial
  case compat =>
    intro i j hij op c s _ hguar
    cases j with
    | some k => trivial
    | none =>
        cases i with
        | none => exact absurd rfl hij
        | some k =>
            exact fun t p => ⟨noTuples_step op (some k, c) env hguar, noRow_step op (some k, c) env hguar⟩
  case start =>
    intro i
    cases i with
    | none => exact Prog.sat_map.mpr (sat_pass cfg _)
    | some k => exact Prog.sat_map.mpr (sat_consent k (calls k) _)
  case assume =>
    rw [hevents]
    intro ev hev
    rcases hi : ev.choice.1 with _ | k
    · exact ⟨hi, hallowed ev hev hi⟩
    · trivial
  intro ev hev hpass
  obtain ⟨pre, post, hsplit⟩ := List.append_of_mem hev
  have hspares := hsat ⟨ev.op, ev.choice, ev.before, pre.reverse⟩ (by
    rw [hevents, mem_remembered]
    exact ⟨pre, ev, post, hsplit, by simp⟩)
  rw [hpass] at hspares
  exact hspares

/-- The provisional client, known to Hydra, with a consent of alice pending. -/
def pendingWorld : World :=
  { provisionalWorld with hydra :=
      ⟨[("client", .obj [("client_id", .str "client")])],
        [("challenge", .obj [("client", .obj [("client_id", .str "client")]),
          ("subject", .str "ory-alice"), ("skip", .bool false),
          ("requested_scope", .arr [.str "openid"])])], []⟩ }

/-- A pass over registrations of any age, next to that consent. -/
def pendingCollection : Pool Gateway (Option Unit) Unit World :=
  collection ⟨[], 0⟩ (fun _ => ⟨⟨[]⟩, acmeAdmin, ⟨"challenge", ["openid"], [], false, 0, none⟩⟩)
    pendingWorld

/-- Let the pass, or the consent, make its next calls. -/
def passTurns (n : ℕ) : List (Option Unit × Choice) := List.replicate n (none, smooth 0)

/-- Let the consent make its next calls. -/
def consentTurns (n : ℕ) : List (Option Unit × Choice) := List.replicate n (some (), smooth 0)

/-- The consent has only read when the pass deletes the client. -/
theorem reap_spares_used_reading :
    (∀ ev ∈ remembered [] (pendingCollection.events (together Unit Env.firstRow)
        (consentTurns 3 ++ passTurns 9)), ev.choice.1 = none → ReapAllowed ev.op ev.before) ∧
    ∀ ev ∈ pendingCollection.events (together Unit Env.firstRow) (consentTurns 3 ++ passTurns 9),
      ev.choice.1 = none → SparesUsed ev.op ev.before := by
  constructor
  · decide
  · exact reap_spares_used Env.firstRow _ _ _ _ (by decide)

/-- The pass has checked the client; the consent re-homes it, inserts its row and grants alice; the
pass deletes it at Hydra. -/
theorem reap_deletes_used :
    ∃ ev ∈ pendingCollection.events (together Unit Env.firstRow)
      (passTurns 7 ++ consentTurns 25 ++ passTurns 1),
      ev.choice.1 = none ∧ ¬ SparesUsed ev.op ev.before ∧
        ev.before.hydra.clients.map (·.1) = ["client"] ∧
        (ev.after (together Unit Env.firstRow)).hydra.clients.map (·.1) = [] := by
  decide

end SsoGateway
