import SsoGateway.Tenants
import Mathlib.Data.Fintype.EquivFin

/-!
# What is kept for the system tenant

The guards of the reserved calls, traced back to the tenant of the credential.

* `Honored` — the middleware lets a request act in the tenant its header names.
* `Granted` — what every call that succeeds has passed.
* `system_privilege_iff` — when only credentials of the system tenant get through.
-/

namespace SsoGateway

open Lib

/-- The header of a request is honoured: it names `t`, and the client's application is flagged. -/
def Honored (env : AgentEnv) (w : TenantWorld) (ctx : FullAuthContext) (tenantHeader : Option String)
    (t : String) : Prop :=
  ctx.subjectType = .client ∧ tenantHeader = some t ∧ env.isUlid t = true ∧
    ∃ row, w.agents.base.db.findApplication ctx.subject = some row ∧ row.crossTenant = true

/-- The caller may read tenants. -/
def ReadsTenants (auth : AuthContext) : Prop :=
  ∃ s ∈ auth.scopes, s ∈ [scopeTenantRead, scopeTenantAdmin]

/-- What a call that succeeds has passed, in a request that acts in `target`. -/
def Granted (cfg : ApplicationConfig) (w : TenantWorld) (target : String) (auth : AuthContext) :
    TenantRequest → TenantReply → Prop
  | .createTenant req, _ => scopeTenantAdmin ∈ auth.scopes ∧ target = cfg.systemTenantUlid ∧
      ¬ w.tenants.Affects fun t => t.slug = req.slug
  | .getTenant id, _ => ReadsTenants auth ∧ (id = target ∨ auth.tenantId = cfg.systemTenantUlid) ∧
      w.tenants.Affects fun t => t.id = id
  | .listTenants, reply => ReadsTenants auth ∧ ∃ rows, reply = .tenants rows ∧ ∀ t ∈ rows,
      t ∈ w.tenants.rows ∧ (t.id = target ∨ auth.tenantId = cfg.systemTenantUlid)
  | .createApplication req, _ => req.crossTenant = true → auth.tenantId = cfg.systemTenantUlid
  | .updateApplication req, _ =>
      req.crossTenant = some true → auth.tenantId = cfg.systemTenantUlid

/-- It is a fact about the table of tenants. -/
theorem Granted.of_tenants {cfg : ApplicationConfig} {w w' : TenantWorld} {target : String}
    {auth : AuthContext} {op : TenantRequest} {reply : TenantReply}
    (h : Granted cfg w' target auth op reply) (hw : w'.tenants = w.tenants) :
    Granted cfg w target auth op reply := by
  cases op <;> simpa only [Granted, hw] using h

/-! ## The checks -/

section checks

variable {cfg : ApplicationConfig} {target id : String} {auth : AuthContext}

theorem refuseIf_eq_ok {b : Prop} [Decidable b] {e : ServiceError} :
    refuseIf b e = .ok () ↔ ¬ b := by
  unfold refuseIf
  split <;> simp [*]

theorem requireScope_eq_ok {scope : String} {u : Unit} :
    requireScope ⟨some target, some auth⟩ scope = .ok u ↔ scope ∈ auth.scopes := by
  simp only [requireScope]
  split <;> simp [*]

theorem createTenantChecks_eq_ok :
    TenantService.createTenantChecks cfg ⟨some target, some auth⟩ = .ok () ↔
      scopeTenantAdmin ∈ auth.scopes ∧ target = cfg.systemTenantUlid := by
  have hchecks : TenantService.createTenantChecks cfg ⟨some target, some auth⟩ =
      requireScope ⟨some target, some auth⟩ scopeTenantAdmin >>= fun _ =>
        refuseIf (target ≠ cfg.systemTenantUlid)
          (.permissionDenied "only the system tenant can create tenants") := rfl
  rw [hchecks, except_bind_eq_ok]
  simp only [requireScope_eq_ok, refuseIf_eq_ok, Decidable.not_not, exists_and_left, exists_const]

theorem requireScopeAny_eq_ok {u : Unit} :
    requireScopeAny ⟨some target, some auth⟩ [scopeTenantRead, scopeTenantAdmin] = .ok u ↔
      ReadsTenants auth := by
  simp only [requireScopeAny, List.any_eq_true, decide_eq_true_eq]
  split
  · rename_i hscope
    exact iff_of_true rfl hscope
  · rename_i hscope
    refine iff_of_false (by simp) hscope

theorem tenantReader_eq_ok {t : String} :
    TenantService.tenantReader ⟨some target, some auth⟩ = .ok t ↔ ReadsTenants auth ∧ target = t := by
  have hchecks : TenantService.tenantReader ⟨some target, some auth⟩ =
      requireScopeAny ⟨some target, some auth⟩ [scopeTenantRead, scopeTenantAdmin] >>= fun _ =>
        .ok target := rfl
  rw [hchecks, except_bind_eq_ok]
  simp only [requireScopeAny_eq_ok, exists_const, Except.ok.injEq]

theorem isSystemTenant_eq_false :
    isSystemTenant cfg ⟨some target, some auth⟩ = false ↔ auth.tenantId ≠ cfg.systemTenantUlid := by
  simp [isSystemTenant]

theorem getTenantChecks_eq_ok :
    TenantService.getTenantChecks cfg ⟨some target, some auth⟩ id = .ok () ↔
      ReadsTenants auth ∧ (id = target ∨ auth.tenantId = cfg.systemTenantUlid) := by
  unfold TenantService.getTenantChecks
  rw [except_bind_eq_ok]
  simp only [tenantReader_eq_ok, refuseIf_eq_ok, isSystemTenant_eq_false]
  constructor
  · rintro ⟨t, ⟨hreads, rfl⟩, hnot⟩
    exact ⟨hreads, by simpa [or_iff_not_imp_left] using hnot⟩
  · rintro ⟨hreads, hid⟩
    exact ⟨target, ⟨hreads, rfl⟩, by simpa [or_iff_not_imp_left] using hid⟩

theorem validate_create_ok {lib : Libraries} {req : CreateApplicationRequest} {t : String}
    (h : req.validate lib cfg ⟨some target, some auth⟩ = .ok t) (hcross : req.crossTenant = true) :
    auth.tenantId = cfg.systemTenantUlid := by
  unfold CreateApplicationRequest.validate at h
  obtain ⟨_, -, h⟩ := except_bind_eq_ok.mp h
  obtain ⟨_, -, h⟩ := except_bind_eq_ok.mp h
  obtain ⟨_, hguard, -⟩ := except_bind_eq_ok.mp h
  simpa [isSystemTenant, hcross] using refuseIf_eq_ok.mp hguard

theorem validate_update_ok {lib : Libraries} {req : UpdateApplicationRequest} {t : String}
    (h : req.validate lib cfg ⟨some target, some auth⟩ = .ok t) (hcross : req.crossTenant = some true) :
    auth.tenantId = cfg.systemTenantUlid := by
  unfold UpdateApplicationRequest.validate at h
  obtain ⟨_, -, h⟩ := except_bind_eq_ok.mp h
  obtain ⟨_, -, h⟩ := except_bind_eq_ok.mp h
  obtain ⟨_, -, h⟩ := except_bind_eq_ok.mp h
  obtain ⟨_, -, h⟩ := except_bind_eq_ok.mp h
  obtain ⟨_, hguard, -⟩ := except_bind_eq_ok.mp h
  simpa [isSystemTenant, hcross] using refuseIf_eq_ok.mp hguard

end checks

/-! ## What a call that succeeds has passed -/

section granted

variable {env : AgentEnv} {lib : Libraries} {cfg : ApplicationConfig} {w : TenantWorld}

/-- The contract of a request that runs alone. -/
abbrev TenantContract : Contract TenantSig Choice TenantWorld :=
  .alone (fun _ _ _ => True) fun _ _ _ => True

/-- Nothing is known of what a program leaves behind. -/
theorem sat_anything {α : Type} (p : Prog TenantSig α) (w : TenantWorld) :
    p.Sat (tenantGateway env) TenantContract (fun _ _ => True) w :=
  (Prog.calls_true p).sat (fun _ _ _ _ => trivial) (fun _ _ _ _ _ _ => ⟨trivial, trivial⟩) trivial

theorem sat_createTenant {target : String} {auth : AuthContext} {req : CreateTenantRequest} :
    (TenantService.createTenant cfg ⟨some target, some auth⟩ req).run.Sat (tenantGateway env)
      TenantContract
      (Prog.OnOk fun row _ => Granted cfg w target auth (.createTenant req) (.tenant row)) w := by
  refine Prog.onOk_run_bind (P := fun _ w' => w' = w ∧ scopeTenantAdmin ∈ auth.scopes ∧
    target = cfg.systemTenantUlid) (Prog.onOk_run_mk fun _ h => ⟨rfl, createTenantChecks_eq_ok.mp h⟩) ?_
  rintro _ w' ⟨rfl, hscope, htarget⟩
  refine Prog.onOk_run_bind (P := fun _ _ => ¬ w'.tenants.Affects fun t => t.slug = req.slug) ?_ ?_
  · refine Prog.onOk_run_orThrow (Prog.sat_perform.mpr ?_)
    rintro _ rfl c -
    refine ⟨trivial, Prog.onOk_iff.mpr fun row hrow => ?_⟩
    obtain ⟨-, hinsert⟩ := Fault.answer_ok hrow
    unfold TenantWorld.insertTenant at hinsert
    split at hinsert
    · rename_i hnew
      rintro ⟨t, ht, hslug⟩
      exact (Table.insert?_eq_some hnew).2 t ht (.inr hslug.symm)
    · simp at hinsert
  · intro row w'' hfree
    exact (sat_anything _ w'').post fun r _ _ => Prog.onOk_iff.mpr fun _ _ => ⟨hscope, htarget, hfree⟩

theorem sat_getTenant {target id : String} {auth : AuthContext} :
    (TenantService.getTenant cfg ⟨some target, some auth⟩ id).run.Sat (tenantGateway env)
      TenantContract (Prog.OnOk fun row _ => Granted cfg w target auth (.getTenant id) (.tenant row)) w := by
  refine Prog.onOk_run_bind (P := fun _ w' => w' = w ∧ ReadsTenants auth ∧
    (id = target ∨ auth.tenantId = cfg.systemTenantUlid))
    (Prog.onOk_run_mk fun _ h => ⟨rfl, getTenantChecks_eq_ok.mp h⟩) ?_
  rintro _ w' ⟨rfl, hreads, hid⟩
  refine Prog.onOk_run_orThrow (Prog.sat_perform.mpr ?_)
  rintro _ rfl c -
  refine ⟨trivial, Prog.onOk_iff.mpr fun row hrow => ⟨hreads, hid, ?_⟩⟩
  obtain ⟨-, hfound⟩ := Fault.answer_ok hrow
  by_contra hnone
  rw [Table.find?_eq_none.mpr hnone] at hfound
  simp [orNotFound] at hfound

theorem sat_listTenants {target : String} {auth : AuthContext} :
    (TenantService.listTenants cfg ⟨some target, some auth⟩).run.Sat (tenantGateway env)
      TenantContract (Prog.OnOk fun rows _ => Granted cfg w target auth .listTenants (.tenants rows)) w := by
  refine Prog.onOk_run_bind (P := fun t w' => w' = w ∧ ReadsTenants auth ∧ target = t)
    (Prog.onOk_run_mk fun _ h => ⟨rfl, tenantReader_eq_ok.mp h⟩) ?_
  rintro _ w' ⟨rfl, hreads, rfl⟩
  refine Prog.onOk_run_bind (P := fun rows _ => ∀ t ∈ rows, t ∈ w'.tenants.rows) ?_ ?_
  · refine Prog.onOk_run_orThrow (Prog.sat_perform.mpr ?_)
    rintro _ rfl c -
    refine ⟨trivial, Prog.onOk_iff.mpr fun rows hrows => ?_⟩
    obtain ⟨-, hlist⟩ := Fault.answer_ok hrows
    obtain rfl := Except.ok.inj hlist
    intro t ht
    exact (List.mem_insertionSort _).mp ht
  · intro rows w'' hrows
    refine Prog.onOk_run_pure ⟨hreads, _, rfl, fun t ht => ?_⟩
    unfold TenantService.shownTenants at ht
    split at ht
    · rename_i hsystem
      exact ⟨hrows t ht, .inr (by simpa [isSystemTenant] using hsystem)⟩
    · obtain ⟨ht, hid⟩ := List.mem_filter.mp ht
      exact ⟨hrows t ht, .inl (by simpa using hid)⟩

theorem sat_updateApplication {target : String} {auth : AuthContext} {req : UpdateApplicationRequest} :
    (updateApplication lib cfg ⟨some target, some auth⟩ req).run.Sat (tenantGateway env)
      TenantContract
      (Prog.OnOk fun app _ => Granted cfg w target auth (.updateApplication req) (.application app)) w := by
  refine Prog.onOk_run_bind (P := fun _ _ => req.crossTenant = some true →
    auth.tenantId = cfg.systemTenantUlid) (Prog.onOk_run_mk fun _ h => validate_update_ok h) ?_
  intro _ w' hsystem
  exact (sat_anything _ w').post fun r _ _ => Prog.onOk_iff.mpr fun _ _ => hsystem

theorem sat_createApplication {target : String} {auth : AuthContext} {req : CreateApplicationRequest} :
    (Prog.translateT (S := Gateway) gatewayCall
      (createApplication lib cfg ⟨some target, some auth⟩ req)).run.Sat (tenantGateway env)
      TenantContract
      (Prog.OnOk fun app _ => Granted cfg w target auth (.createApplication req) (.application app)) w := by
  rcases hchecks : req.validate lib cfg ⟨some target, some auth⟩ with e | t
  · have hstop : createApplication lib cfg ⟨some target, some auth⟩ req = throw e := by
      unfold createApplication
      rw [hchecks]
      rfl
    rw [hstop]
    trivial
  · exact (sat_anything _ w).post fun r _ _ => Prog.onOk_iff.mpr fun _ _ hcross =>
      validate_create_ok hchecks hcross

/-- **The guards.** Every call that succeeds has passed what `Granted` says. -/
theorem sat_method {target : String} {auth : AuthContext} {op : TenantRequest} :
    (op.method lib cfg ⟨some target, some auth⟩).run.Sat (tenantGateway env) TenantContract
      (Prog.OnOk fun reply _ => Granted cfg w target auth op reply) w := by
  cases op with
  | createTenant req => exact Prog.onOk_run_map sat_createTenant
  | getTenant id => exact Prog.onOk_run_map sat_getTenant
  | listTenants => exact Prog.onOk_run_map sat_listTenants
  | createApplication req => exact Prog.onOk_run_map sat_createApplication
  | updateApplication req => exact Prog.onOk_run_map sat_updateApplication

end granted

/-! ## The tenant a request acts in -/

section target

variable {env : AgentEnv} {w : TenantWorld} {ctx : FullAuthContext} {tenantHeader : Option String}

/-- The middleware's read of an application. -/
abbrev readApplication (publicId : String) : TenantOp :=
  .agents (.gateway (.application (.getByPublicId publicId)))

theorem answer_readApplication (publicId : String) (c : Choice) :
    (tenantGateway env (readApplication publicId) c w).1 =
      (w.agents.base.db.read c (orNotFound .applicationNotFound id
        (w.agents.base.db.findApplication publicId))).1 := rfl

theorem find_of_answer {publicId : String} {c : Choice} {row : ApplicationRow}
    (h : (tenantGateway env (readApplication publicId) c w).1 = .ok row) :
    w.agents.base.db.findApplication publicId = some row := by
  rw [answer_readApplication] at h
  obtain ⟨-, hfound⟩ := Fault.answer_ok h
  rcases hrow : w.agents.base.db.findApplication publicId with _ | row'
  · simp [hrow, orNotFound] at hfound
  · simpa [hrow, orNotFound] using hfound

theorem answer_of_find {publicId : String} {c : Choice} {row : ApplicationRow} (hc : c.fault 0 = none)
    (h : w.agents.base.db.findApplication publicId = some row) :
    (tenantGateway env (readApplication publicId) c w).1 = .ok row := by
  simp [answer_readApplication, Db.read, hc, h, orNotFound]

/-- A request acts in the tenant of its credential, or in the one its header names. -/
theorem sat_target :
    ((resolveTargetTenant env ctx tenantHeader).translate agentCall).Sat (tenantGateway env)
      TenantContract (fun t w' => w'.tenants = w.tenants ∧
        (t = ctx.tenantId ∨ Honored env w ctx tenantHeader t)) w := by
  unfold resolveTargetTenant
  by_cases hclient : ctx.subjectType = .client
  · rw [if_neg (by simp [hclient])]
    rcases tenantHeader with _ | header
    · exact ⟨rfl, .inl rfl⟩
    by_cases hulid : env.isUlid header = true
    · simp only [hulid]
      rintro _ rfl c -
      refine ⟨trivial, ?_⟩
      rcases hanswer : (tenantGateway env (readApplication ctx.subject) c w).1 with e | row
      · exact ⟨rfl, .inl rfl⟩
      · refine ⟨rfl, ?_⟩
        by_cases hflag : row.crossTenant = true
        · rw [if_pos hflag]
          exact .inr ⟨hclient, rfl, hulid, row, find_of_answer hanswer, hflag⟩
        · rw [if_neg hflag]
          exact .inl rfl
    · simp only [hulid]
      exact ⟨rfl, .inl rfl⟩
  · rw [if_pos hclient]
    exact ⟨rfl, .inl rfl⟩

/-- The contract under which every call is made with the choice `c`. -/
abbrev FixedContract (c : Choice) : Contract TenantSig Choice TenantWorld :=
  .alone (fun _ c' _ => c' = c) fun _ _ _ => True

/-- Where no call fails, a header that is honoured decides. -/
theorem sat_target_honored {t : String} {c : Choice} (hc : c.fault 0 = none)
    (h : Honored env w ctx tenantHeader t) :
    ((resolveTargetTenant env ctx tenantHeader).translate agentCall).Sat (tenantGateway env)
      (FixedContract c) (fun t' w' => w'.tenants = w.tenants ∧ t' = t) w := by
  obtain ⟨hclient, rfl, hulid, row, hrow, hflag⟩ := h
  unfold resolveTargetTenant
  rw [if_neg (by simp [hclient])]
  simp only [hulid]
  rintro _ rfl _ rfl
  refine ⟨trivial, ?_⟩
  have hanswer : (tenantGateway env (readApplication ctx.subject) _ _).1 = .ok row :=
    answer_of_find hc hrow
  generalize (tenantGateway env (readApplication ctx.subject) _ _).1 = r at hanswer ⊢
  subst hanswer
  refine ⟨rfl, ?_⟩
  rw [if_pos hflag]

end target

/-! ## Runs -/

section runs

variable {env : AgentEnv} {lib : Libraries} {cfg : ApplicationConfig} {w : TenantWorld}
  {ctx : FullAuthContext} {tenantHeader : Option String} {op : TenantRequest}

/-- A request that succeeds acts in the tenant of its credential or in one it may name, and has
passed the guards there. -/
theorem run_tenantRequest {o : ℕ → Choice} {target : String} {reply : TenantReply}
    (h : ((tenantRequest env lib cfg ctx tenantHeader op).run (tenantGateway env) o w).1 =
      (target, .ok reply)) :
    (target = ctx.tenantId ∨ Honored env w ctx tenantHeader target) ∧
      Granted cfg w target ctx.toAuthContext op reply := by
  have hsat : (tenantRequest env lib cfg ctx tenantHeader op).Sat (tenantGateway env) TenantContract
      (fun r _ => (r.1 = ctx.tenantId ∨ Honored env w ctx tenantHeader r.1) ∧
        ∀ reply, r.2 = .ok reply → Granted cfg w r.1 ctx.toAuthContext op reply) w := by
    unfold tenantRequest
    refine Prog.sat_bind.mpr (sat_target.post ?_)
    rintro t w₁ ⟨htenants, ht⟩
    refine Prog.sat_bind.mpr (Prog.sat_perform.mpr ?_)
    rintro _ rfl c -
    refine ⟨trivial, Prog.sat_bind.mpr (sat_method.post ?_)⟩
    intro r w₂ hr
    refine Prog.sat_pure.mpr ⟨ht, fun reply hreply => ?_⟩
    have hgranted := Prog.onOk_iff.mp hr reply hreply
    exact hgranted.of_tenants htenants
  have hend := hsat.run_of_choices (o := o) fun _ _ _ => trivial
  rw [h] at hend
  exact ⟨hend.1, hend.2 reply rfl⟩

/-- In the tenant of an honoured header, a call that would succeed there succeeds. -/
theorem run_of_honored {c : Choice} {t : String} {P : TenantReply → Prop} (hc : c.fault 0 = none)
    (h : Honored env w ctx tenantHeader t)
    (hop : ∀ w', w'.tenants = w.tenants → (op.method lib cfg ⟨some t, some ctx.toAuthContext⟩).run.Sat
      (tenantGateway env) (FixedContract c) (fun r _ => ∃ reply, r = .ok reply ∧ P reply) w') :
    ∃ reply, ((tenantRequest env lib cfg ctx tenantHeader op).run (tenantGateway env)
      (fun _ => c) w).1 = (t, .ok reply) ∧ P reply := by
  have hsat : (tenantRequest env lib cfg ctx tenantHeader op).Sat (tenantGateway env) (FixedContract c)
      (fun r _ => ∃ reply, r = (t, .ok reply) ∧ P reply) w := by
    unfold tenantRequest
    refine Prog.sat_bind.mpr ((sat_target_honored hc h).post ?_)
    rintro _ w₁ ⟨htenants, rfl⟩
    refine Prog.sat_bind.mpr (Prog.sat_perform.mpr ?_)
    rintro _ rfl c -
    refine ⟨trivial, Prog.sat_bind.mpr ((hop _ htenants).post ?_)⟩
    rintro r w₂ ⟨reply, rfl, hP⟩
    exact ⟨reply, rfl, hP⟩
  exact hsat.run_of_choices (o := fun _ => c) fun _ _ _ => rfl

/-- There is a ULID that no tenant has. -/
theorem exists_fresh_id (tenants : List TenantDetails) : ∃ u, ∀ t ∈ tenants, t.id ≠ u := by
  have hinf : Infinite String := Infinite.of_injective (fun n => String.ofList (List.replicate n 'a'))
    fun n m h => by simpa using congrArg String.length h
  obtain ⟨u, hu⟩ := Infinite.exists_notMem_finset (tenants.map (·.id)).toFinset
  refine ⟨u, fun t ht hid => hu ?_⟩
  rw [List.mem_toFinset]
  exact List.mem_map.mpr ⟨t, ht, hid⟩

theorem answer_createTenant {slug displayName u : String} {settings : Value}
    (h : ∀ t ∈ w.tenants.rows, ¬ TenantDetails.Conflicts ⟨u, slug, displayName, false, settings, 0⟩ t) :
    (tenantGateway env (.createTenant slug displayName settings) (.plain u 0) w).1 =
      .ok ⟨u, slug, displayName, false, settings, 0⟩ := by
  show (w.insertTenant ⟨u, slug, displayName, false, settings, 0⟩).1 = _
  unfold TenantWorld.insertTenant Table.insert?
  rw [dif_pos h]

/-- A client that is let into the system tenant may create a tenant there. -/
theorem creates_of_honored (lib : Libraries) {req : CreateTenantRequest}
    (h : Honored env w ctx tenantHeader cfg.systemTenantUlid) (hscope : scopeTenantAdmin ∈ ctx.scopes)
    (hfree : ¬ w.tenants.Affects fun t => t.slug = req.slug) :
    ∃ o reply, ((tenantRequest env lib cfg ctx tenantHeader (.createTenant req)).run
      (tenantGateway env) o w).1 = (cfg.systemTenantUlid, .ok reply) := by
  obtain ⟨u, hu⟩ := exists_fresh_id w.tenants.rows
  have hop : ∀ w', w'.tenants = w.tenants →
      (TenantRequest.method lib cfg ⟨some cfg.systemTenantUlid, some ctx.toAuthContext⟩
        (.createTenant req)).run.Sat (tenantGateway env) (FixedContract (.plain u 0))
        (fun r _ => ∃ reply, r = .ok reply ∧ True) w' := by
    intro w' hw
    show (_ <$> TenantService.createTenant cfg _ req).run.Sat _ _ _ _
    unfold TenantService.createTenant TenantMethod.check
    rw [createTenantChecks_eq_ok.mpr ⟨hscope, rfl⟩]
    rintro _ rfl _ rfl
    refine ⟨trivial, ?_⟩
    have hnew : ∀ t ∈ w'.tenants.rows, ¬ TenantDetails.Conflicts
        ⟨u, req.slug, req.displayName, false, .obj (req.settings.map fun kv => (kv.1, .str kv.2)), 0⟩ t := by
      rw [hw]
      rintro t ht (hid | hslug)
      · exact hu t ht hid.symm
      · exact hfree ⟨t, ht, hslug.symm⟩
    have hanswer : (tenantGateway env _ _ w').1 = _ := answer_createTenant hnew
    generalize tenantGateway env (.createTenant req.slug req.displayName _) _ w' = r at hanswer ⊢
    obtain ⟨r, w''⟩ := r
    obtain rfl : r = .ok _ := hanswer
    rintro _ rfl _ rfl
    exact ⟨trivial, _, rfl, trivial⟩
  obtain ⟨reply, hrun, -⟩ := run_of_honored rfl h hop
  exact ⟨_, reply, hrun⟩

/-- A client that is let into a tenant may read it there. -/
theorem gets_of_honored (lib : Libraries) (cfg : ApplicationConfig) {t : String} (h : Honored env w ctx tenantHeader t)
    (hreads : ReadsTenants ctx.toAuthContext) (ht : w.tenants.Affects fun row => row.id = t) :
    ∃ o reply, ((tenantRequest env lib cfg ctx tenantHeader (.getTenant t)).run
      (tenantGateway env) o w).1 = (t, .ok reply) := by
  have hop : ∀ w', w'.tenants = w.tenants →
      (TenantRequest.method lib cfg ⟨some t, some ctx.toAuthContext⟩ (.getTenant t)).run.Sat
        (tenantGateway env) (FixedContract (.plain "" 0)) (fun r _ => ∃ reply, r = .ok reply ∧ True) w' := by
    intro w' hw
    show (_ <$> TenantService.getTenant cfg _ t).run.Sat _ _ _ _
    unfold TenantService.getTenant TenantMethod.check
    rw [getTenantChecks_eq_ok.mpr ⟨hreads, .inl rfl⟩]
    rintro _ rfl _ rfl
    obtain ⟨row, hrow⟩ : ∃ row, w'.tenants.find? (fun row => row.id = t) = some row := by
      rw [← Option.ne_none_iff_exists', hw, ne_eq, Table.find?_eq_none]
      exact not_not_intro ht
    refine ⟨trivial, ?_⟩
    have hanswer : (tenantGateway env (.getTenant t) (.plain "" 0) w').1 = .ok row := by
      show orNotFound .tenantNotFound (fun t => t) _ = _
      rw [hrow]
      rfl
    generalize tenantGateway env (.getTenant t) _ w' = r at hanswer ⊢
    obtain ⟨r, w''⟩ := r
    obtain rfl : r = .ok _ := hanswer
    exact ⟨_, rfl, trivial⟩
  obtain ⟨reply, hrun, -⟩ := run_of_honored rfl h hop
  exact ⟨_, reply, hrun⟩

/-- A client that is let into a tenant finds it in the list. -/
theorem lists_of_honored (lib : Libraries) (cfg : ApplicationConfig) {t : String} (h : Honored env w ctx tenantHeader t)
    (hreads : ReadsTenants ctx.toAuthContext) (ht : w.tenants.Affects fun row => row.id = t) :
    ∃ o rows, ((tenantRequest env lib cfg ctx tenantHeader .listTenants).run
      (tenantGateway env) o w).1 = (t, .ok (.tenants rows)) ∧ ∃ row ∈ rows, row.id = t := by
  have hop : ∀ w', w'.tenants = w.tenants →
      (TenantRequest.method lib cfg ⟨some t, some ctx.toAuthContext⟩ .listTenants).run.Sat
        (tenantGateway env) (FixedContract (.plain "" 0)) (fun r _ => ∃ reply, r = .ok reply ∧
          ∃ rows, reply = .tenants rows ∧ ∃ row ∈ rows, row.id = t) w' := by
    intro w' hw
    show (_ <$> TenantService.listTenants cfg _).run.Sat _ _ _ _
    unfold TenantService.listTenants TenantMethod.check
    rw [tenantReader_eq_ok.mpr ⟨hreads, rfl⟩]
    rintro _ rfl _ rfl
    obtain ⟨row, hrow, hid⟩ := ht
    refine ⟨trivial, _, rfl, _, rfl, row, ?_, hid⟩
    have hmem : row ∈ w'.tenants.rows.insertionSort fun t t' => t'.createdAt ≤ t.createdAt := by
      rw [List.mem_insertionSort, hw]
      exact hrow
    unfold TenantService.shownTenants
    split
    · exact hmem
    · exact List.mem_filter.mpr ⟨hmem, by simpa using hid⟩
  obtain ⟨reply, hrun, rows, rfl, hmem⟩ := run_of_honored rfl h hop
  exact ⟨_, rows, hrun, hmem⟩

end runs

/-! ## System privilege -/

section privilege

variable (env : AgentEnv) (lib : Libraries) (cfg : ApplicationConfig) (w : TenantWorld)
  (ctx : FullAuthContext) (tenantHeader : Option String) (op : TenantRequest)

/-- A tenant is created by a client whose header takes it into the system tenant. -/
def CreatesThroughHeader : Prop :=
  Honored env w ctx tenantHeader cfg.systemTenantUlid ∧ scopeTenantAdmin ∈ ctx.scopes ∧
    ∃ req, op = .createTenant req ∧ ¬ w.tenants.Affects fun t => t.slug = req.slug

/-- A tenant is read by a client of another one whose header takes it there. -/
def ReadsThroughHeader : Prop :=
  ∃ t, Honored env w ctx tenantHeader t ∧ t ≠ ctx.tenantId ∧ ReadsTenants ctx.toAuthContext ∧
    (w.tenants.Affects fun row => row.id = t) ∧ (op = .getTenant t ∨ op = .listTenants)

/-- In every run of the request, a reserved use succeeds only for a credential of the system tenant;
`own` says which tenant is the request's own, given the one it acts in. -/
def SystemOnly (own : String → String) : Prop :=
  ∀ o target reply, ((tenantRequest env lib cfg ctx tenantHeader op).run (tenantGateway env) o w).1 =
    (target, .ok reply) → SystemReserved (own target) op reply → ctx.tenantId = cfg.systemTenantUlid

variable {env lib cfg w ctx tenantHeader op}

/-- A reserved use that succeeds for another tenant's credential is one of the two. -/
theorem through_header {o : ℕ → Choice} {target own : String} {reply : TenantReply}
    (hrun : ((tenantRequest env lib cfg ctx tenantHeader op).run (tenantGateway env) o w).1 =
      (target, .ok reply))
    (hreserved : SystemReserved own op reply) (hother : ctx.tenantId ≠ cfg.systemTenantUlid) :
    CreatesThroughHeader env cfg w ctx tenantHeader op ∨
      (own ≠ target ∧ (own = ctx.tenantId → ReadsThroughHeader env w ctx tenantHeader op)) := by
  obtain ⟨htarget, hgranted⟩ := run_tenantRequest hrun
  have hhonored : target ≠ ctx.tenantId → Honored env w ctx tenantHeader target := fun hne =>
    htarget.resolve_left hne
  cases op with
  | createTenant req =>
      obtain ⟨hscope, rfl, hfree⟩ := hgranted
      exact .inl ⟨hhonored hother.symm, hscope, req, rfl, hfree⟩
  | getTenant id =>
      obtain ⟨hreads, hid, hrow⟩ := hgranted
      obtain rfl := hid.resolve_right hother
      refine .inr ⟨Ne.symm hreserved, ?_⟩
      rintro rfl
      exact ⟨id, hhonored hreserved, hreserved, hreads, hrow, .inl rfl⟩
  | listTenants =>
      obtain ⟨hreads, rows, rfl, hrows⟩ := hgranted
      obtain ⟨t, ht, hne⟩ := hreserved
      obtain ⟨hmem, hid⟩ := hrows t ht
      obtain rfl := hid.resolve_right hother
      refine .inr ⟨hne.symm, ?_⟩
      rintro rfl
      exact ⟨t.id, hhonored hne, hne, hreads, ⟨t, hmem, rfl⟩, .inr rfl⟩
  | createApplication req => exact absurd (hgranted hreserved) hother
  | updateApplication req => exact absurd (hgranted hreserved) hother

/-- Creating a tenant through the header breaks the rule, whichever tenant is the request's own. -/
theorem not_systemOnly_of_creates {own : String → String} (hother : ctx.tenantId ≠ cfg.systemTenantUlid)
    (h : CreatesThroughHeader env cfg w ctx tenantHeader op) :
    ¬ SystemOnly env lib cfg w ctx tenantHeader op own := by
  obtain ⟨hhonored, hscope, req, rfl, hfree⟩ := h
  obtain ⟨o, reply, hrun⟩ := creates_of_honored lib hhonored hscope hfree
  intro honly
  exact hother (honly o _ reply hrun trivial)

/-- Reading another tenant through the header breaks it for the tenant of the credential. -/
theorem not_systemOnly_of_reads (hother : ctx.tenantId ≠ cfg.systemTenantUlid)
    (h : ReadsThroughHeader env w ctx tenantHeader op) :
    ¬ SystemOnly env lib cfg w ctx tenantHeader op (fun _ => ctx.tenantId) := by
  obtain ⟨t, hhonored, hne, hreads, hrow, rfl | rfl⟩ := h
  · obtain ⟨o, reply, hrun⟩ := gets_of_honored lib cfg hhonored hreads hrow
    intro honly
    exact hother (honly o _ reply hrun hne)
  · obtain ⟨o, rows, hrun, row, hmem, rfl⟩ :=
      lists_of_honored lib cfg hhonored hreads hrow
    intro honly
    exact hother (honly o _ _ hrun ⟨row, hmem, hne⟩)

variable (env lib cfg w ctx tenantHeader op)

/-- **What a header may not add.** Reads counted from the tenant of the credential, a request keeps
to the system tenant what is reserved for it just if its client does not create a tenant or read
another one through its header; reads counted from the tenant it acts in, just if it does not create
a tenant through it. -/
theorem system_privilege_iff :
    (SystemOnly env lib cfg w ctx tenantHeader op (fun _ => ctx.tenantId) ↔
      (ctx.tenantId ≠ cfg.systemTenantUlid → ¬ CreatesThroughHeader env cfg w ctx tenantHeader op ∧
        ¬ ReadsThroughHeader env w ctx tenantHeader op)) ∧
    (SystemOnly env lib cfg w ctx tenantHeader op (fun target => target) ↔
      (ctx.tenantId ≠ cfg.systemTenantUlid → ¬ CreatesThroughHeader env cfg w ctx tenantHeader op)) := by
  refine ⟨⟨fun honly hother => ⟨?_, ?_⟩, fun hnot o target reply hrun hreserved => ?_⟩,
    ⟨fun honly hother => ?_, fun hnot o target reply hrun hreserved => ?_⟩⟩
  · intro hcreates
    exact not_systemOnly_of_creates hother hcreates honly
  · intro hreads
    exact not_systemOnly_of_reads hother hreads honly
  · by_contra hother
    obtain ⟨hcreates, hreads⟩ := hnot hother
    rcases through_header hrun hreserved hother with h | ⟨-, h⟩
    · exact hcreates h
    · exact hreads (h rfl)
  · intro hcreates
    exact not_systemOnly_of_creates hother hcreates honly
  · by_contra hother
    rcases through_header hrun hreserved hother with h | ⟨h, -⟩
    · exact hnot hother h
    · exact h rfl

end privilege

/-- A deployment with the system tenant and the tenant `acme`, whose application `robot` is flagged. -/
def flaggedWorld : TenantWorld where
  agents := .start { World.empty [⟨"system"⟩, ⟨"acme"⟩] with
    db := { Db.empty [⟨"system"⟩, ⟨"acme"⟩] with
      idMappings := [⟨"acme", .hydra, "robot", "robot-client", 0⟩]
      applications := [⟨"acme", "robot", true, .admin⟩]
      mappingKeys := by decide
      mappingTenant := by decide
      applicationKey := by decide
      applicationMapping := by decide
      applicationTenant := by decide } } []
  tenants := ⟨[⟨"system", "system", "System", true, .obj [], 0⟩, ⟨"acme", "acme", "Acme", false, .obj [], 1⟩],
    by decide⟩

/-- A client of acme's that may administer tenants. -/
def robot : FullAuthContext := ⟨⟨"acme", "robot", .client, [scopeTenantAdmin]⟩, none, "", []⟩

/-- Every header is a ULID. -/
def robotEnv : AgentEnv := ⟨.firstRow, id, fun _ => none, fun _ => true, id, 30, 600⟩

/-- Nothing is parsed. -/
def noLibraries : Libraries := ⟨fun _ => .error "", fun _ => none, fun _ => none, fun _ => ""⟩

/-- With the system tenant in its header, a client of acme's creates a tenant. -/
theorem acme_creates_tenant :
    robot.tenantId ≠ "system" ∧
    ((tenantRequest robotEnv noLibraries ⟨"system", [], false⟩ robot (some "system")
      (.createTenant ⟨"beta", "Beta", []⟩)).run (tenantGateway robotEnv)
        (fun _ => .plain "tenant" 7) flaggedWorld).1 =
      ("system", .ok (.tenant ⟨"tenant", "beta", "Beta", false, .obj [], 7⟩)) ∧
    ¬ SystemOnly robotEnv noLibraries ⟨"system", [], false⟩ flaggedWorld robot (some "system")
      (.createTenant ⟨"beta", "Beta", []⟩) (fun _ => robot.tenantId) := by
  have hrun : ((tenantRequest robotEnv noLibraries ⟨"system", [], false⟩ robot (some "system")
      (.createTenant ⟨"beta", "Beta", []⟩)).run (tenantGateway robotEnv)
        (fun _ => .plain "tenant" 7) flaggedWorld).1 =
      ("system", .ok (.tenant ⟨"tenant", "beta", "Beta", false, .obj [], 7⟩)) := rfl
  refine ⟨by decide, hrun, fun honly => ?_⟩
  exact absurd (honly _ _ _ hrun trivial) (by decide)

end SsoGateway
