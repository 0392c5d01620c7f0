import SsoGateway.AgentSteps
import SsoGateway.AgentTokens
import SsoGateway.Revocation
import SsoGateway.Lib.Ledger

/-!
# What a delegation hands on

Requests run interleaved with one another and with the rest of the gateway. A request is let in under
a context; with it, it may create a delegation, and an act-token of a delegation lets a later request
in under a context of the delegating user.

* `Delegated`, `Rooted` — a delegation was created in the run; a user was let in without one.
* `delegated_authority` — a context of an act-token is that of a delegation created earlier in the
  run, by its user, before its expiry; and its user was once let in without an act-token.
* `delegation_amplifies` — the scopes and the expiry of a delegation are the caller's to choose.
-/

namespace SsoGateway

open Lib

/-! ## Requests -/

/-- A request: the middleware, then a call of the agent service. -/
def agentRequest (env : AgentEnv) (creds : Credentials) (op : AgentOperation) :
    Middleware (Except ServiceError AgentReply) := do
  let ctx ← authMiddleware env creds
  Prog.attempt (op.method env ctx).run

/-- A call of the gateway's other services. -/
def AgentServiceOp.IsGateway : AgentServiceOp → Prop
  | .gateway _ => True
  | _ => False

/-- What runs: a request to the agent service, or a program of the other services. -/
inductive AgentTraffic where
  | request (creds : Credentials) (op : AgentOperation)
  | elsewhere (p : {p : Prog AgentSig Unit // p.Calls AgentServiceOp.IsGateway})

/-- Its program. -/
def AgentTraffic.prog (env : AgentEnv) : AgentTraffic → Prog AgentSig Unit
  | .request creds op => (fun _ => ()) <$> (agentRequest env creds op).run
  | .elsewhere p => p.1

/-- The traffic, all at once on a world. -/
def agentTraffic {ι : Type} (env : AgentEnv) (traffic : ι → AgentTraffic) (w : AgentWorld) :
    Pool AgentSig ι Unit AgentWorld := ⟨w, fun i => (traffic i).prog env⟩

/-! ## The past -/

/-- The calls of a run so far, newest first. -/
abbrev AgentHistory (ι : Type) := List (Event AgentSig (ι × Choice) AgentWorld)

section past

variable {ι : Type}

/-- Program `i` has been let in, to that tenant under that context. -/
def Attached (i : ι) (past : AgentHistory ι) (tenantId : String) (ctx : FullAuthContext) : Prop :=
  ∃ ev ∈ past, ev.choice.1 = i ∧ ev.op = .attachContext tenantId ctx

/-- Program `i` has read a time before that one. -/
def ReadBefore (i : ι) (past : AgentHistory ι) (x : ℤ) : Prop :=
  ∃ ev ∈ past, ev.choice.1 = i ∧ ev.op = .gateway .nowUtc ∧ ev.choice.2.now < x

/-- The context is of that user of that tenant. -/
def FullAuthContext.ActsFor (ctx : FullAuthContext) (tenantId userId : String) : Prop :=
  ctx.subjectType = .user ∧ ctx.tenantId = tenantId ∧ ctx.subject = userId

/-- The delegation has been created, by a program that was let in as its user. -/
def Delegated (past : AgentHistory ι) (d : AgentDelegationRow) : Prop :=
  ∃ newer ev older, past = newer ++ ev :: older ∧
    ev.op = .createDelegation d.tenantId d.agentId d.userIdentityId d.scopes d.expiresAt ∧
    ev.choice.2.ulid = d.id ∧
    ∃ ctx, Attached ev.choice.1 older d.tenantId ctx ∧ ctx.ActsFor d.tenantId d.userIdentityId

/-- The user has been let in without an act-token. -/
def Rooted (past : AgentHistory ι) (tenantId userId : String) : Prop :=
  ∃ ev ∈ past, ∃ ctx : FullAuthContext, ev.op = .attachContext tenantId ctx ∧ ctx.actor = none ∧
    ctx.ActsFor tenantId userId

/-- The resolution is that of a token of a delegation that has been created. -/
def ActTokenResolution.Backed (past : AgentHistory ι) (res : ActTokenResolution) : Prop :=
  ∃ d, Delegated past d ∧ res.expiresAt ≤ d.expiresAt ∧ (res.tenantId = d.tenantId ∧
    res.userIdentityId = d.userIdentityId ∧ res.agentId = d.agentId ∧ res.delegationId = d.id ∧
    res.scopes = d.scopes)

/-- The context is that of an act-token of the delegation. -/
def FullAuthContext.IsOf (ctx : FullAuthContext) (actor : ActorContext) (d : AgentDelegationRow) :
    Prop :=
  ctx.ActsFor d.tenantId d.userIdentityId ∧ ctx.scopes = d.scopes ∧ actor = ⟨d.agentId, d.id⟩

variable {i : ι} {past past' : AgentHistory ι}

theorem Attached.mono {t : String} {ctx : FullAuthContext} (h : Attached i past t ctx)
    (hpast : past <:+ past') : Attached i past' t ctx := by
  obtain ⟨ev, hev, hi, hop⟩ := h
  exact ⟨ev, hpast.subset hev, hi, hop⟩

theorem ReadBefore.mono {x : ℤ} (h : ReadBefore i past x) (hpast : past <:+ past') :
    ReadBefore i past' x := by
  obtain ⟨ev, hev, hi, hop, hnow⟩ := h
  exact ⟨ev, hpast.subset hev, hi, hop, hnow⟩

theorem ReadBefore.le {x y : ℤ} (h : ReadBefore i past x) (hxy : x ≤ y) : ReadBefore i past y := by
  obtain ⟨ev, hev, hi, hop, hnow⟩ := h
  exact ⟨ev, hev, hi, hop, by omega⟩

theorem Delegated.mono {d : AgentDelegationRow} (h : Delegated past d) (hpast : past <:+ past') :
    Delegated past' d := by
  obtain ⟨newer, ev, older, rfl, h⟩ := h
  obtain ⟨new, rfl⟩ := hpast
  exact ⟨new ++ newer, ev, older, by simp, h⟩

theorem Delegated.attached {d : AgentDelegationRow} (h : Delegated past d) :
    ∃ i ctx, Attached i past d.tenantId ctx ∧ ctx.ActsFor d.tenantId d.userIdentityId := by
  obtain ⟨newer, ev, older, rfl, -, -, ctx, hctx, hacts⟩ := h
  refine ⟨_, ctx, hctx.mono ?_, hacts⟩
  exact (List.suffix_cons ev older).trans (List.suffix_append newer _)

theorem Rooted.mono {t u : String} (h : Rooted past t u) (hpast : past <:+ past') :
    Rooted past' t u := by
  obtain ⟨ev, hev, h⟩ := h
  exact ⟨ev, hpast.subset hev, h⟩

theorem ActTokenResolution.Backed.mono {res : ActTokenResolution} (h : res.Backed past)
    (hpast : past <:+ past') : res.Backed past' := by
  obtain ⟨d, hd, h⟩ := h
  exact ⟨d, hd.mono hpast, h⟩

end past

/-! ## The invariant -/

section ledger

variable {ι : Type}

/-- Every delegation, token and cached resolution is of a delegation that has been created; every
user who was let in was once let in without an act-token. -/
structure GrantsRecorded (s : Past AgentSig ι Choice AgentWorld) : Prop where
  delegations : ∀ d ∈ s.1.delegations, Delegated s.2 d
  actTokens : ∀ row ∈ s.1.actTokens, row.resolution.Backed s.2
  actCache : s.1.actCache.Holds fun entry => ∀ res, entry = some res → res.Backed s.2
  rooted : ∀ i t ctx, Attached i s.2 t ctx → ctx.subjectType = .user →
    Rooted s.2 ctx.tenantId ctx.subject

/-- What is promised of a call. -/
def GrantPromise : AgentServiceOp → ι × Choice → Past AgentSig ι Choice AgentWorld → Prop
  | .createDelegation t _ u _ _, c, s => ∃ ctx, Attached c.1 s.2 t ctx ∧ ctx.ActsFor t u
  | .insertActToken row, _, s => row.resolution.Backed s.2
  | .actCacheInsert _ entry, _, s => ∀ res, entry = some res → res.Backed s.2
  | .attachContext t ctx, c, s => (ctx.subjectType = .user → t = ctx.tenantId) ∧
      ∀ actor, ctx.actor = some actor →
        ∃ d, Delegated s.2 d ∧ ReadBefore c.1 s.2 d.expiresAt ∧ ctx.IsOf actor d
  | _, _, _ => True

/-- The invariant with its promise. -/
def grantLedger (ι : Type) : Ledger AgentSig ι Choice AgentWorld := ⟨GrantsRecorded, GrantPromise⟩

/-- The world grows no grants of its own: what holds of the tables and the cache still holds when the
past has grown. -/
theorem GrantsRecorded.cons {s : Past AgentSig ι Choice AgentWorld} (hs : GrantsRecorded s)
    (ev : Event AgentSig (ι × Choice) AgentWorld) {w' : AgentWorld}
    (hdelegations : ∀ d ∈ w'.delegations, Delegated (ev :: s.2) d)
    (htokens : ∀ row ∈ w'.actTokens, row.resolution.Backed (ev :: s.2))
    (hcache : w'.actCache.Holds fun entry => ∀ res, entry = some res → res.Backed (ev :: s.2))
    (hattached : ∀ t ctx, ev.op = .attachContext t ctx → ctx.subjectType = .user →
      Rooted (ev :: s.2) ctx.tenantId ctx.subject) : GrantsRecorded (w', ev :: s.2) where
  delegations := hdelegations
  actTokens := htokens
  actCache := hcache
  rooted i t ctx hctx huser := by
    obtain ⟨ev', hev', hi, hop⟩ := hctx
    rcases List.mem_cons.mp hev' with rfl | hev'
    · exact hattached t ctx hop huser
    · exact (hs.rooted i t ctx ⟨ev', hev', hi, hop⟩ huser).mono (List.suffix_cons ev s.2)

variable {env : AgentEnv}

/-- A promised call keeps the invariant. -/
theorem grantLedger_sound : (grantLedger ι).Sound (sharedAgents ι env) := by
  intro op c s hs hpromise
  have hgrow : s.2 <:+ ⟨op, c, s.1⟩ :: s.2 := List.suffix_cons _ _
  have hdelegations : ∀ d ∈ s.1.delegations, Delegated (⟨op, c, s.1⟩ :: s.2) d :=
    fun d hd => (hs.delegations d hd).mono hgrow
  have htokens : ∀ row ∈ s.1.actTokens, row.resolution.Backed (⟨op, c, s.1⟩ :: s.2) :=
    fun row hrow => (hs.actTokens row hrow).mono hgrow
  have hcache : s.1.actCache.Holds fun entry => ∀ res, entry = some res →
      res.Backed (⟨op, c, s.1⟩ :: s.2) :=
    fun e he res hres => (hs.actCache e he res hres).mono hgrow
  have hattached : ∀ t ctx, op = .attachContext t ctx → ctx.subjectType = .user →
      Rooted (⟨op, c, s.1⟩ :: s.2) ctx.tenantId ctx.subject := by
    rintro t ctx rfl huser
    obtain ⟨htenant, hactor⟩ := hpromise
    rcases hnone : ctx.actor with _ | actor
    · refine ⟨_, List.mem_cons_self, ctx, ?_, hnone, huser, rfl, rfl⟩
      rw [htenant huser]
    · -- the context of an act-token leads to the one its delegation was created under
      obtain ⟨d, hd, -, ⟨-, htd, hud⟩, -⟩ := hactor actor hnone
      obtain ⟨j, ctx', hctx', huser', ht, hu⟩ := hd.attached
      have hrooted := (hs.rooted j _ ctx' hctx' huser').mono hgrow
      rw [ht, hu] at hrooted
      rw [htd, hud]
      exact hrooted
  have hstep := agentGateway_step env op c.2 s.1
  show GrantsRecorded ((agentGateway env op c.2 s.1).2, ⟨op, c, s.1⟩ :: s.2)
  generalize (agentGateway env op c.2 s.1).2 = w' at hstep
  cases hstep with
  | same | setName | setStatus | statusCache cache =>
      exact hs.cons _ hdelegations htokens hcache hattached
  | cascade base =>
      exact hs.cons _ (fun d hd => hdelegations d (List.mem_of_mem_filter hd))
        (fun row hrow => htokens row (List.mem_of_mem_filter hrow)) hcache hattached
  | insertDelegation h =>
      obtain ⟨hrows, htok, hcached, -⟩ := AgentWorld.insertDelegation_ok h
      refine hs.cons _ ?_ (by rw [htok]; exact htokens) (by rw [hcached]; exact hcache) hattached
      intro d hd
      rw [hrows] at hd
      rcases List.mem_cons.mp hd with rfl | hd
      · exact ⟨[], _, s.2, rfl, rfl, rfl, hpromise⟩
      · exact hdelegations d hd
  | revokeDelegation =>
      refine hs.cons _ ?_ htokens hcache hattached
      intro d hd
      obtain ⟨d', hd', rfl⟩ := List.mem_map.mp hd
      have hbefore := hdelegations d' hd'
      unfold AgentWorld.markRevoked
      split
      · exact hbefore
      · exact hbefore
  | insertActToken h =>
      obtain ⟨htok, hrows, hcached, -⟩ := AgentWorld.insertActToken_ok h
      refine hs.cons _ (by rw [hrows]; exact hdelegations) ?_ (by rw [hcached]; exact hcache) hattached
      intro row hrow
      rw [htok] at hrow
      rcases List.mem_cons.mp hrow with rfl | hrow
      · exact hpromise.mono hgrow
      · exact htokens row hrow
  | actCacheInsert =>
      refine hs.cons _ hdelegations htokens (Cache.holds_insert hcache _ _ fun res hres => ?_) hattached
      exact (hpromise res hres).mono hgrow
  | actCacheInvalidateIf =>
      exact hs.cons _ hdelegations htokens (Cache.holds_invalidateIf hcache _) hattached

/-- A neutral call needs no promise. -/
theorem AgentServiceOp.IsNeutral.promise {op : AgentServiceOp} (h : op.IsNeutral)
    (c : ι × Choice) (s : Past AgentSig ι Choice AgentWorld) : GrantPromise op c s := by
  unfold AgentServiceOp.IsNeutral at h
  unfold GrantPromise
  split <;> trivial

/-! ## The programs -/

/-- A program all of whose calls are neutral. -/
theorem sat_neutral {α : Type} {p : Prog AgentSig α} (hp : p.Calls AgentServiceOp.IsNeutral)
    {i : ι} {s : Past AgentSig ι Choice AgentWorld} (hs : GrantsRecorded s) :
    p.Sat (sharedAgents ι env).traced ((grantLedger ι).contract i)
      (fun _ s' => GrantsRecorded s' ∧ s.2 <:+ s'.2) s :=
  Ledger.sat_calls grantLedger_sound (hp.mono fun _ hop => hop.promise) hs

/-- One neutral call. -/
theorem sat_ask (op : AgentServiceOp) (hop : op.IsNeutral) {i : ι}
    {Q : op.Res → Past AgentSig ι Choice AgentWorld → Prop}
    {s : Past AgentSig ι Choice AgentWorld} (hs : GrantsRecorded s)
    (hQ : ∀ c (s' : Past AgentSig ι Choice AgentWorld), c.1 = i → GrantsRecorded s' →
      s.2 <:+ ⟨op, c, s'.1⟩ :: s'.2 →
      GrantsRecorded ((agentGateway env op c.2 s'.1).2, ⟨op, c, s'.1⟩ :: s'.2) →
      Q (agentGateway env op c.2 s'.1).1
        ((agentGateway env op c.2 s'.1).2, ⟨op, c, s'.1⟩ :: s'.2)) :
    (ask op).Sat (sharedAgents ι env).traced ((grantLedger ι).contract i) Q s :=
  Ledger.sat_perform grantLedger_sound hs fun c s' hc hsuf hs' =>
    ⟨hop.promise c s', fun hnext => hQ c s' hc hs' (hsuf.trans (List.suffix_cons _ _)) hnext⟩

/-- A resolution that was found: one of a delegation that has been created, before its expiry. -/
def FoundActive (i : ι) (s : Past AgentSig ι Choice AgentWorld)
    (r : Except DbError (Option ActTokenResolution)) (s' : Past AgentSig ι Choice AgentWorld) : Prop :=
  GrantsRecorded s' ∧ s.2 <:+ s'.2 ∧ ∀ res, r = .ok (some res) →
    res.Backed s'.2 ∧ ReadBefore i s'.2 res.expiresAt

theorem foundActive_of_ne {i : ι} {s s' : Past AgentSig ι Choice AgentWorld}
    {r : Except DbError (Option ActTokenResolution)} (hs' : GrantsRecorded s') (hsuf : s.2 <:+ s'.2)
    (hr : ∀ res, r ≠ .ok (some res)) : FoundActive i s r s' :=
  ⟨hs', hsuf, fun res h => absurd h (hr res)⟩

/-- The validation of a row that is backed. -/
theorem sat_validateActTokenRow {row : AgentActTokenRow} {i : ι}
    {s : Past AgentSig ι Choice AgentWorld} (hs : GrantsRecorded s)
    (hrow : row.resolution.Backed s.2) :
    (validateActTokenRow row).run.Sat (sharedAgents ι env).traced ((grantLedger ι).contract i)
      (FoundActive i s) s := by
  unfold validateActTokenRow
  rw [Prog.sat_run_bind, Prog.sat_run_attempt]
  refine sat_ask (.gateway .nowUtc) trivial hs fun c s₁ hc _ hsuf₁ hs₁ => ?_
  dsimp only
  rw [Prog.sat_run_ite]
  split
  · exact foundActive_of_ne hs₁ hsuf₁ (by simp)
  rename_i hnow
  have hread : ReadBefore i (⟨.gateway .nowUtc, c, s₁.1⟩ :: s₁.2) row.expiresAt :=
    ⟨_, List.mem_cons_self, hc, rfl, not_le.mp hnow⟩
  rw [Prog.sat_run_bind, Prog.sat_run_attempt]
  refine sat_ask (.getDelegationById row.delegationId) trivial hs₁ fun c₂ s₂ _ _ hsuf₂ hs₂ => ?_
  dsimp only
  split
  · exact foundActive_of_ne hs₂ (hsuf₁.trans hsuf₂) (by simp)
  · exact foundActive_of_ne hs₂ (hsuf₁.trans hsuf₂) (by simp)
  rw [Prog.sat_run_ite]
  split
  · exact foundActive_of_ne hs₂ (hsuf₁.trans hsuf₂) (by simp)
  rw [Prog.sat_run_bind, Prog.sat_run_attempt]
  refine sat_ask (.gateway (.agent (.getStatus row.agentId))) trivial hs₂ fun c₃ s₃ _ _ hsuf₃ hs₃ => ?_
  have hsuf := hsuf₁.trans (hsuf₂.trans hsuf₃)
  dsimp only
  split
  · exact foundActive_of_ne hs₃ hsuf (by simp)
  · exact foundActive_of_ne hs₃ hsuf (by simp)
  rw [Prog.sat_run_ite]
  split
  · exact foundActive_of_ne hs₃ hsuf (by simp)
  · refine ⟨hs₃, hsuf, fun res h => ?_⟩
    obtain rfl := Option.some.inj (Except.ok.inj h)
    exact ⟨hrow.mono hsuf, hread.mono (hsuf₂.trans hsuf₃)⟩

/-- A resolve yields a resolution of a delegation that has been created, before its expiry. -/
theorem sat_resolveActToken (token : String) {i : ι} {s : Past AgentSig ι Choice AgentWorld}
    (hs : GrantsRecorded s) :
    (resolveActToken env token).run.Sat (sharedAgents ι env).traced ((grantLedger ι).contract i)
      (FoundActive i s) s := by
  unfold resolveActToken
  rw [Prog.sat_run_bind, Prog.sat_run_attempt]
  refine sat_ask (.actCacheGet (env.hashToken token)) trivial hs fun c s₁ _ hat hsuf₁ hs₁ => ?_
  rcases hget : (agentGateway env (.actCacheGet (env.hashToken token)) c.2 s₁.1).1 with _ | entry
  · dsimp only
    rw [Prog.sat_run_bind, Prog.sat_run_orThrow]
    refine sat_ask (.getActToken (env.hashToken token)) trivial hs₁ fun c₂ s₂ _ hat₂ hsuf₂ hs₂ => ?_
    rcases hrow : (agentGateway env (.getActToken (env.hashToken token)) c₂.2 s₂.1).1 with e | _ | row
    · exact foundActive_of_ne hs₂ (hsuf₁.trans hsuf₂) (by simp)
    · -- no such token: that is what is cached
      show Prog.Sat _ _ _ (ExceptT.run (Prog.attempt (ask _) >>= fun _ => Pure.pure none)) _
      rw [Prog.sat_run_bind, Prog.sat_run_attempt]
      refine Ledger.sat_perform grantLedger_sound hs₂ fun c₃ s₃ _ hsuf₃ _ => ⟨?_, fun hs₄ => ?_⟩
      · exact fun res h => by simp at h
      · have hsuf₄ := hsuf₂.trans (hsuf₃.trans
          (List.suffix_cons ⟨.actCacheInsert (env.hashToken token) none, c₃, s₃.1⟩ s₃.2))
        exact foundActive_of_ne hs₄ (hsuf₁.trans hsuf₄) (by simp)
    · have hbacked : row.resolution.Backed (⟨.getActToken (env.hashToken token), c₂, s₂.1⟩ :: s₂.2) :=
        (hat₂.actTokens row (agentGateway_getActToken_ok hrow).1).mono (List.suffix_cons _ _)
      show Prog.Sat _ _ _ (ExceptT.run (validateActTokenRow row >>= fun resolution =>
        Prog.attempt (ask (.actCacheInsert (env.hashToken token) resolution)) >>= fun _ =>
          Pure.pure resolution)) _
      rw [Prog.sat_run_bind]
      refine (sat_validateActTokenRow hs₂ hbacked).post fun r s₃ hfound => ?_
      obtain ⟨hs₃, hsuf₃, hres⟩ := hfound
      have hsuf := hsuf₁.trans (hsuf₂.trans hsuf₃)
      rcases r with e | resolution
      · exact foundActive_of_ne hs₃ hsuf (by simp)
      · dsimp only
        rw [Prog.sat_run_bind, Prog.sat_run_attempt]
        refine Ledger.sat_perform grantLedger_sound hs₃ fun c₄ s₄ _ hsuf₄ _ => ⟨?_, fun hs₅ => ?_⟩
        · rintro res rfl
          exact (hres res rfl).1.mono hsuf₄
        · have hsuf₅ := hsuf₄.trans
            (List.suffix_cons ⟨.actCacheInsert (env.hashToken token) resolution, c₄, s₄.1⟩ s₄.2)
          refine ⟨hs₅, hsuf.trans hsuf₅, fun res h => ?_⟩
          exact ⟨(hres res h).1.mono hsuf₅, (hres res h).2.mono hsuf₅⟩
  · dsimp only
    rw [Prog.sat_run_bind, Prog.sat_run_attempt]
    refine sat_ask (.gateway .nowUtc) trivial hs₁ fun c₂ s₂ hc₂ _ hsuf₂ hs₂ => ?_
    refine ⟨hs₂, hsuf₁.trans hsuf₂, fun res h => ?_⟩
    obtain ⟨hsome, hnow⟩ := Option.filter_eq_some_iff.mp (Except.ok.inj h)
    have hcached := Cache.holds_get hat.actCache hget res hsome
    refine ⟨hcached.mono ((List.suffix_cons _ _).trans hsuf₂), ?_⟩
    have hnow : c₂.2.now < res.expiresAt := of_decide_eq_true hnow
    exact ⟨_, List.mem_cons_self, hc₂, rfl, hnow⟩

/-- A pure check, and then the rest of a call. -/
theorem sat_agentCheck {α β : Type} {r : Except ServiceError α} {f : α → AgentMethod β} {i : ι}
    {s : Past AgentSig ι Choice AgentWorld}
    (hf : ∀ a, r = .ok a → (f a).run.Sat (sharedAgents ι env).traced ((grantLedger ι).contract i)
      (fun _ _ => True) s) :
    (AgentMethod.check r >>= f).run.Sat (sharedAgents ι env).traced ((grantLedger ι).contract i)
      (fun _ _ => True) s := by
  rw [Prog.sat_run_bind, AgentMethod.check, Prog.sat_run_mk]
  rcases r with e | a
  · exact trivial
  · exact hf a rfl

/-- Neutral calls, and then the rest. -/
theorem sat_neutral_bind {α β ε : Type} {x : ExceptT ε (Prog AgentSig) α}
    {f : α → ExceptT ε (Prog AgentSig) β} (hx : x.run.Calls AgentServiceOp.IsNeutral) {i : ι}
    {s : Past AgentSig ι Choice AgentWorld} (hs : GrantsRecorded s)
    (hf : ∀ a s', GrantsRecorded s' → s.2 <:+ s'.2 →
      (f a).run.Sat (sharedAgents ι env).traced ((grantLedger ι).contract i) (fun _ _ => True) s') :
    (x >>= f).run.Sat (sharedAgents ι env).traced ((grantLedger ι).contract i)
      (fun _ _ => True) s :=
  Ledger.sat_run_bind_calls grantLedger_sound (hx.mono fun _ hop => hop.promise) hs
    (fun _ _ _ _ => trivial) hf

theorem neutral_ask (op : AgentServiceOp) (hop : op.IsNeutral) :
    (ask op).Calls AgentServiceOp.IsNeutral := Prog.calls_perform hop

/-- The context is that of a request of program `i` that has been let in. -/
def LetIn (i : ι) (past : AgentHistory ι) (ctx : RequestContext) : Prop :=
  ∃ t full, ctx = ⟨some t, some full.toAuthContext⟩ ∧ Attached i past t full ∧
    (full.subjectType = .user → t = full.tenantId)

/-- A delegation is created under a context of its user. -/
theorem sat_createAgentDelegation {ctx : RequestContext} (req : CreateAgentDelegationRequest) {i : ι}
    {s : Past AgentSig ι Choice AgentWorld} (hs : GrantsRecorded s) (hctx : LetIn i s.2 ctx) :
    (createAgentDelegation env ctx req).run.Sat (sharedAgents ι env).traced
      ((grantLedger ι).contract i) (fun _ _ => True) s := by
  obtain ⟨t, full, rfl, hattached, htenant⟩ := hctx
  unfold createAgentDelegation
  refine sat_agentCheck fun t' ht => ?_
  obtain rfl : t = t' := Except.ok.inj ht
  refine sat_agentCheck fun _ huser => ?_
  refine sat_agentCheck fun auth hauth => ?_
  obtain rfl : full.toAuthContext = auth := Except.ok.inj hauth
  have hgetAgent := neutral_ask (.getAgent t req.agentId) trivial
  refine sat_neutral_bind (Prog.calls_run_orThrow hgetAgent) hs fun agent s₁ hs₁ hsuf₁ => ?_
  refine sat_agentCheck fun _ _ => ?_
  refine sat_neutral_bind (calls_requireActiveMember (fun _ => id) _ _) hs₁ fun _ s₂ hs₂ hsuf₂ => ?_
  refine sat_agentCheck fun _ _ => ?_
  refine sat_agentCheck fun x _ => ?_
  have hnow := neutral_ask (.gateway .nowUtc) trivial
  refine sat_neutral_bind (Prog.calls_run_attempt hnow) hs₂ fun now s₃ hs₃ hsuf₃ => ?_
  refine sat_agentCheck fun _ _ => ?_
  rw [Prog.sat_run_orThrow]
  refine Ledger.sat_perform grantLedger_sound hs₃ fun c s₄ hc hsuf₄ _ => ⟨?_, fun _ => trivial⟩
  obtain ⟨auth, hauth, huser⟩ := requireSubjectType_ok huser
  obtain rfl := Option.some.inj hauth
  subst hc
  exact ⟨full, hattached.mono (hsuf₁.trans (hsuf₂.trans (hsuf₃.trans hsuf₄))), huser,
    (htenant huser).symm, rfl⟩

/-- A token is minted for a delegation that has been created, with its scopes and no longer life. -/
theorem sat_mintAgentActToken (ctx : RequestContext) (delegationId : String) {i : ι}
    {s : Past AgentSig ι Choice AgentWorld} (hs : GrantsRecorded s) :
    (mintAgentActToken env ctx delegationId).run.Sat (sharedAgents ι env).traced
      ((grantLedger ι).contract i) (fun _ _ => True) s := by
  have hnow := neutral_ask (.gateway .nowUtc) trivial
  unfold mintAgentActToken
  refine sat_agentCheck fun t _ => ?_
  refine sat_agentCheck fun _ _ => ?_
  refine sat_agentCheck fun _ _ => ?_
  refine sat_agentCheck fun auth _ => ?_
  have hgetAgent := neutral_ask (.getAgent t auth.subject) trivial
  refine sat_neutral_bind (Prog.calls_run_orThrow hgetAgent) hs fun agent s₁ hs₁ _ => ?_
  refine sat_agentCheck fun _ _ => ?_
  rw [Prog.sat_run_bind, Prog.sat_run_orThrow]
  refine sat_ask (.getDelegation t delegationId) trivial hs₁ fun c s₂ _ hat₂ _ hs₂ => ?_
  rcases hfound : (agentGateway env (.getDelegation t delegationId) c.2 s₂.1).1 with e | d
  · exact trivial
  have hd : Delegated s₂.2 d := hat₂.delegations d (agentGateway_getDelegation_ok hfound).1
  have hd := hd.mono (List.suffix_cons ⟨.getDelegation t delegationId, c, s₂.1⟩ s₂.2)
  dsimp only [Except.mapError]
  refine sat_neutral_bind (Prog.calls_run_attempt hnow) hs₂ fun now s₃ hs₃ hsuf₃ => ?_
  refine sat_agentCheck fun _ _ => ?_
  refine sat_neutral_bind (calls_requireActiveMember (fun _ => id) _ _) hs₃ fun _ s₄ hs₄ hsuf₄ => ?_
  rw [Prog.sat_run_orThrow]
  refine Prog.Sat.post (Q := fun _ _ => True) ?_ fun _ _ _ => trivial
  unfold mint
  have hrandom := neutral_ask .randomHex trivial
  refine sat_neutral_bind (Prog.calls_run_attempt hrandom) hs₄ fun random s₅ hs₅ hsuf₅ => ?_
  refine sat_neutral_bind (Prog.calls_run_attempt hnow) hs₅ fun now' s₆ hs₆ hsuf₆ => ?_
  rw [Prog.sat_run_bind, Prog.sat_run_orThrow]
  refine Ledger.sat_perform grantLedger_sound hs₆ fun c₇ s₇ _ hsuf₇ _ => ⟨?_, fun _ => ?_⟩
  · have hsuf := hsuf₃.trans (hsuf₄.trans (hsuf₅.trans (hsuf₆.trans hsuf₇)))
    exact ⟨d, hd.mono hsuf, min_le_right _ _, rfl, rfl, rfl, rfl, rfl⟩
  · split <;> trivial

/-- The calls of the agent service, under the context of a request that has been let in. -/
theorem sat_agentOperation {ctx : RequestContext} (op : AgentOperation) {i : ι}
    {s : Past AgentSig ι Choice AgentWorld} (hs : GrantsRecorded s) (hctx : LetIn i s.2 ctx) :
    (op.method env ctx).run.Sat (sharedAgents ι env).traced ((grantLedger ι).contract i)
      (fun _ _ => True) s := by
  have hmap : ∀ {α : Type} {f : α → AgentReply} {x : AgentMethod α},
      x.run.Sat (sharedAgents ι env).traced ((grantLedger ι).contract i) (fun _ _ => True) s →
      (f <$> x).run.Sat (sharedAgents ι env).traced ((grantLedger ι).contract i)
        (fun _ _ => True) s := by
    intro α f x hx
    rw [ExceptT.run_map, Prog.sat_map]
    exact hx
  have hpromise : ∀ op : AgentServiceOp, op.IsNeutral →
      ∀ c (s : Past AgentSig ι Choice AgentWorld), GrantPromise op c s := fun _ hop => hop.promise
  have hask : ∀ op : AgentServiceOp, (∀ c (s : Past AgentSig ι Choice AgentWorld), GrantPromise op c s) →
      (ask op).Calls fun op => ∀ c (s : Past AgentSig ι Choice AgentWorld), GrantPromise op c s :=
    fun op hop => Prog.calls_perform hop
  have hinvalidate : ∀ a, (invalidateAgent a).Calls
      fun op => ∀ c (s : Past AgentSig ι Choice AgentWorld), GrantPromise op c s :=
    fun a => Prog.calls_bind (hask _ fun _ _ => trivial) fun _ => hask _ fun _ _ => trivial
  have hcalls : ∀ {α : Type} {x : AgentMethod α}, (x.run.Calls fun op => ∀ c
        (s : Past AgentSig ι Choice AgentWorld), GrantPromise op c s) →
      x.run.Sat (sharedAgents ι env).traced ((grantLedger ι).contract i) (fun _ _ => True) s :=
    fun hx => (Ledger.sat_calls grantLedger_sound hx hs).post fun _ _ _ => trivial
  cases op with
  | createDelegation req => exact hmap (sat_createAgentDelegation req hs hctx)
  | mint d => exact hmap (sat_mintAgentActToken ctx d hs)
  | introspect token =>
      refine hmap (sat_agentCheck fun t _ => ?_)
      rw [Prog.sat_run_bind, Prog.sat_run_orThrow]
      refine (sat_resolveActToken token hs).post fun r s' _ => ?_
      rcases r with e | res <;> exact trivial
  | revokeDelegation id =>
      refine hmap (hcalls ?_)
      refine Prog.calls_run_bind (calls_agentCheck _) fun t => ?_
      refine Prog.calls_run_bind (calls_agentCheck _) fun auth => ?_
      have hget := hask (.getDelegation t id) fun _ _ => trivial
      have hrevoke := hask (.revokeDelegation t id) fun _ _ => trivial
      have hevict := hask (.actCacheInvalidateIf (.delegation id)) fun _ _ => trivial
      refine Prog.calls_run_bind (Prog.calls_run_orThrow hget) fun d => ?_
      refine Prog.calls_run_bind (calls_agentCheck _) fun _ => ?_
      refine Prog.calls_run_bind (Prog.calls_run_orThrow hrevoke) fun row => ?_
      exact Prog.calls_run_bind (Prog.calls_run_attempt hevict) fun _ => trivial
  | update req =>
      refine hmap (hcalls ?_)
      refine Prog.calls_run_bind (calls_agentCheck _) fun t => ?_
      have hget := hask (.getAgent t req.id) fun _ _ => trivial
      have hstatus := hask (.setAgentStatus t req.id req.status) fun _ _ => trivial
      refine Prog.calls_run_bind (Prog.calls_run_orThrow hget) fun a => ?_
      refine Prog.calls_run_bind (calls_agentCheck _) fun _ => ?_
      refine Prog.calls_run_bind (calls_renameAgent hpromise t req a) fun a => ?_
      unfold changeAgentStatus
      split
      · refine Prog.calls_run_bind (Prog.calls_run_orThrow hstatus) fun row => ?_
        exact Prog.calls_run_bind (Prog.calls_run_attempt (hinvalidate req.id)) fun _ => trivial
      · exact trivial
  | delete id =>
      refine hmap (hcalls ?_)
      refine Prog.calls_run_bind (calls_agentCheck _) fun t => ?_
      have hdelete := hask (.gateway (.agent (.delete t id))) fun _ _ => trivial
      refine Prog.calls_run_bind (Prog.calls_run_orThrow hdelete) fun _ => ?_
      refine Prog.calls_run_bind (Prog.calls_run_attempt (calls_dropAgentClient hpromise t id))
        fun _ => ?_
      exact Prog.calls_run_attempt (hinvalidate id)

/-! ## The middleware -/

theorem calls_agentStatus (agentId : String) :
    (agentStatus agentId).run.Calls AgentServiceOp.IsNeutral := by
  refine Prog.calls_run_bind (Prog.calls_run_attempt (neutral_ask (.statusCacheGet agentId) trivial))
    fun r => ?_
  rcases r with _ | entry
  · refine Prog.calls_run_bind ?_ fun status => ?_
    · have hread := neutral_ask (.gateway (.agent (.getStatus agentId))) trivial
      unfold readAgentStatus
      refine Prog.calls_run_bind (Prog.calls_run_attempt hread) fun r => ?_
      split <;> trivial
    · have hinsert := neutral_ask (.statusCacheInsert agentId status) trivial
      exact Prog.calls_run_bind (Prog.calls_run_attempt hinsert) fun _ => trivial
  · exact trivial

theorem calls_resolveSubjectIn (b : Backend) (subject : String) :
    (resolveSubjectIn b subject).run.Calls AgentServiceOp.IsNeutral := by
  have htenant := neutral_ask (.gateway (.mapping (.getTenantIdByOryId b subject))) trivial
  have hpublic := neutral_ask (.gateway (.mapping (.getPublicIdByOryId b subject))) trivial
  refine Prog.calls_run_bind (Prog.calls_run_attempt htenant) fun r => ?_
  split
  · refine Prog.calls_run_bind (Prog.calls_run_attempt hpublic) fun r => ?_
    split <;> trivial
  · exact trivial
  · exact trivial

theorem calls_resolveSubject (subject : String) :
    (resolveSubject subject).run.Calls AgentServiceOp.IsNeutral := by
  refine Prog.calls_run_bind (calls_resolveSubjectIn .hydra subject) fun r => ?_
  rcases r with _ | x
  · refine Prog.calls_run_bind (calls_resolveSubjectIn .kratos subject) fun r => ?_
    rcases r with _ | x <;> exact trivial
  · exact trivial

theorem calls_authenticateIntrospected (token : String) :
    (authenticateIntrospected env token).run.Calls AgentServiceOp.IsNeutral := by
  refine Prog.calls_run_bind (Prog.calls_run_orThrow (neutral_ask (.introspect token) trivial))
    fun introspection => ?_
  split
  · exact trivial
  split
  · exact trivial
  · refine Prog.calls_run_bind (Prog.calls_run_orThrow (calls_resolveSubject _)) fun x => ?_
    refine Prog.calls_run_bind ?_ fun subjectType => trivial
    unfold subjectTypeOf
    split
    · exact trivial
    · refine Prog.calls_run_bind (Prog.calls_run_orThrow (calls_agentStatus _)) fun status => ?_
      split
      · split <;> exact trivial
      · exact trivial

theorem calls_authenticateSessionCookie (cookie : String) :
    (authenticateSessionCookie env cookie).run.Calls AgentServiceOp.IsNeutral := by
  unfold authenticateSessionCookie
  split
  · exact trivial
  · rename_i claims _
    have hactive := neutral_ask (.sessionActive claims.sid) trivial
    refine Prog.calls_run_bind (Prog.calls_run_orThrow hactive) fun active => ?_
    split <;> exact trivial

theorem calls_resolveTargetTenant (ctx : FullAuthContext) (header : Option String) :
    (resolveTargetTenant env ctx header).Calls AgentServiceOp.IsNeutral := by
  unfold resolveTargetTenant
  split
  · exact trivial
  split
  · exact trivial
  split
  · exact trivial
  · have hread := neutral_ask (.gateway (.application (.getByPublicId ctx.subject))) trivial
    refine Prog.calls_bind hread fun r => ?_
    split <;> exact trivial

/-- Every result is of a context without an actor, or a refusal. -/
def NoActor (r : Except ℕ FullAuthContext) : Prop := ∀ ctx, r = .ok ctx → ctx.actor = none

theorem before_run_any {α : Type} (x : Middleware α) {P : Except ℕ FullAuthContext → Prop}
    (hP : ∀ e, P (.error e)) : x.run.Before (fun _ _ => False) (fun _ => False)
      fun r => (∀ a, r = .ok a → True) ∧ ∀ e, r = .error e → P (.error e) :=
  ((Prog.calls_true x.run).mono fun _ _ => id).before.post fun _ _ => ⟨fun _ _ => trivial, fun e _ => hP e⟩

theorem noActor_authenticateIntrospected (token : String) :
    (authenticateIntrospected env token).run.Before (fun _ _ => False) (fun _ => False) NoActor := by
  have herror : ∀ e, NoActor (.error e) := fun e ctx h => by simp at h
  refine Prog.before_run_bind (before_run_any _ herror) fun introspection _ => ?_
  split
  · exact herror 401
  split
  · exact herror 500
  · refine Prog.before_run_bind (before_run_any _ herror) fun x _ => ?_
    refine Prog.before_run_bind (before_run_any _ herror) fun subjectType _ => ?_
    intro ctx h
    obtain rfl := Except.ok.inj h
    rfl

theorem noActor_authenticateSessionCookie (cookie : String) :
    (authenticateSessionCookie env cookie).run.Before (fun _ _ => False) (fun _ => False) NoActor := by
  have herror : ∀ e, NoActor (.error e) := fun e ctx h => by simp at h
  unfold authenticateSessionCookie
  split
  · exact herror 401
  · refine Prog.before_run_bind (before_run_any _ herror) fun active _ => ?_
    split
    · intro ctx h
      obtain rfl := Except.ok.inj h
      rfl
    · exact herror 401

/-- A context of an act-token is of a delegation that has been created, before its expiry. -/
def FullAuthContext.OfDelegation (i : ι) (past : AgentHistory ι) (ctx : FullAuthContext) : Prop :=
  ∀ actor, ctx.actor = some actor →
    ∃ d, Delegated past d ∧ ReadBefore i past d.expiresAt ∧ ctx.IsOf actor d

theorem FullAuthContext.OfDelegation.mono {i : ι} {past past' : AgentHistory ι}
    {ctx : FullAuthContext} (h : ctx.OfDelegation i past) (hpast : past <:+ past') :
    ctx.OfDelegation i past' := by
  intro actor hactor
  obtain ⟨d, hd, hread, hof⟩ := h actor hactor
  exact ⟨d, hd.mono hpast, hread.mono hpast, hof⟩

/-- What authentication ends in. -/
def Authenticated (i : ι) (s : Past AgentSig ι Choice AgentWorld) (r : Except ℕ FullAuthContext)
    (s' : Past AgentSig ι Choice AgentWorld) : Prop :=
  GrantsRecorded s' ∧ s.2 <:+ s'.2 ∧ ∀ ctx, r = .ok ctx → ctx.OfDelegation i s'.2

/-- Authentication other than by an act-token. -/
theorem sat_noActor {p : Middleware FullAuthContext} (hp : p.run.Calls AgentServiceOp.IsNeutral)
    (hnone : p.run.Before (fun _ _ => False) (fun _ => False) NoActor) {i : ι}
    {s : Past AgentSig ι Choice AgentWorld} (hs : GrantsRecorded s) :
    p.run.Sat (sharedAgents ι env).traced ((grantLedger ι).contract i) (Authenticated i s) s := by
  refine (hnone.sat (sat_neutral hp hs)).post fun r s' h => ⟨h.2.1, h.2.2, fun ctx hr => ?_⟩
  intro actor hactor
  rw [h.1 ctx hr] at hactor
  simp at hactor

theorem sat_authenticateBearerToken (token : String) {i : ι}
    {s : Past AgentSig ι Choice AgentWorld} (hs : GrantsRecorded s) :
    (authenticateBearerToken env token).run.Sat (sharedAgents ι env).traced
      ((grantLedger ι).contract i) (Authenticated i s) s := by
  unfold authenticateBearerToken
  rw [Prog.sat_run_bind, Prog.sat_run_orThrow]
  refine (sat_resolveActToken token hs).post fun r s₁ hfound => ?_
  obtain ⟨hs₁, hsuf₁, hres⟩ := hfound
  rcases r with e | _ | res
  · exact ⟨hs₁, hsuf₁, fun ctx h => by simp at h⟩
  · refine (sat_noActor (calls_authenticateIntrospected token)
      (noActor_authenticateIntrospected token) hs₁).post fun r s₂ h => ?_
    exact ⟨h.1, hsuf₁.trans h.2.1, h.2.2⟩
  · refine ⟨hs₁, hsuf₁, fun ctx h actor hactor => ?_⟩
    obtain rfl := Except.ok.inj h
    obtain rfl := Option.some.inj hactor
    obtain ⟨⟨d, hd, hle, ht, hu, ha, hi, hsc⟩, hread⟩ := hres res rfl
    refine ⟨d, hd, hread.le hle, ⟨rfl, ht, hu⟩, hsc, ?_⟩
    rw [ha, hi]

/-- The middleware lets a request in under the context of a delegation that has been created, or
under one without an actor. -/
theorem sat_authMiddleware (creds : Credentials) {i : ι} {s : Past AgentSig ι Choice AgentWorld}
    (hs : GrantsRecorded s) :
    (authMiddleware env creds).run.Sat (sharedAgents ι env).traced ((grantLedger ι).contract i)
      (fun r s' => GrantsRecorded s' ∧ ∀ ctx, r = .ok ctx → LetIn i s'.2 ctx) s := by
  unfold authMiddleware
  rw [Prog.sat_run_bind]
  have hauth : (authenticate env creds).run.Sat (sharedAgents ι env).traced
      ((grantLedger ι).contract i) (Authenticated i s) s := by
    unfold authenticate
    split
    · exact sat_authenticateBearerToken _ hs
    · exact sat_noActor (calls_authenticateSessionCookie _) (noActor_authenticateSessionCookie _) hs
    · exact ⟨hs, List.suffix_refl s.2, fun ctx h => by simp at h⟩
  refine hauth.post fun r s₁ h => ?_
  obtain ⟨hs₁, -, hctx⟩ := h
  rcases r with e | ctx
  · exact ⟨hs₁, fun ctx h => by simp at h⟩
  have hctx := hctx ctx rfl
  dsimp only
  rw [Prog.sat_run_bind, Prog.sat_run_attempt]
  have htarget : (resolveTargetTenant env ctx creds.tenantHeader).Sat (sharedAgents ι env).traced
      ((grantLedger ι).contract i) (fun t s' => GrantsRecorded s' ∧ s₁.2 <:+ s'.2 ∧
        (ctx.subjectType = .user → t = ctx.tenantId)) s₁ := by
    by_cases huser : ctx.subjectType = .user
    · unfold resolveTargetTenant
      rw [if_pos (by simp [huser])]
      exact ⟨hs₁, List.suffix_refl s₁.2, fun _ => rfl⟩
    · refine (sat_neutral (calls_resolveTargetTenant ctx creds.tenantHeader) hs₁).post ?_
      exact fun t s' h => ⟨h.1, h.2, fun h => absurd h huser⟩
  refine htarget.post fun t s₂ h => ?_
  obtain ⟨hs₂, hsuf₂, htenant⟩ := h
  dsimp only
  rw [Prog.sat_run_bind, Prog.sat_run_attempt]
  refine Ledger.sat_perform grantLedger_sound hs₂ fun c s₃ hc hsuf₃ _ => ⟨?_, fun hs₄ => ?_⟩
  · subst hc
    exact ⟨htenant, hctx.mono (hsuf₂.trans hsuf₃)⟩
  · refine ⟨hs₄, fun rctx h => ?_⟩
    obtain rfl := Except.ok.inj h
    exact ⟨t, ctx, rfl, ⟨_, List.mem_cons_self, hc, rfl⟩, htenant⟩

theorem sat_agentTraffic (x : AgentTraffic) {i : ι} {s : Past AgentSig ι Choice AgentWorld}
    (hs : GrantsRecorded s) :
    (x.prog env).Sat (sharedAgents ι env).traced ((grantLedger ι).contract i) (fun _ _ => True) s := by
  cases x with
  | request creds op =>
      refine Prog.sat_map.mpr ?_
      unfold agentRequest
      rw [Prog.sat_run_bind]
      refine (sat_authMiddleware creds hs).post fun r s' h => ?_
      rcases r with status | ctx
      · exact trivial
      · dsimp only
        rw [Prog.sat_run_attempt]
        exact sat_agentOperation op h.1 (h.2 ctx rfl)
  | elsewhere p =>
      refine (Ledger.sat_calls grantLedger_sound (p.2.mono fun op hop c s => ?_) hs).post
        fun _ _ _ => trivial
      cases op <;> trivial

end ledger

/-! ## Authority along a chain of delegations -/

/-- Nothing has been granted on a world that has just started. -/
theorem grantsRecorded_start (ι : Type) (base : World) (members : List MembershipState) :
    GrantsRecorded (ι := ι) (AgentWorld.start base members, []) where
  delegations := fun d hd => absurd hd List.not_mem_nil
  actTokens := fun row hrow => absurd hrow List.not_mem_nil
  actCache := Cache.holds_empty _
  rooted := by
    rintro i t ctx ⟨ev, hev, -⟩
    exact absurd hev List.not_mem_nil

/-- **What a delegation hands on.** Along every run of requests and other programs, a request that is
let in with an act-token is let in under the context of one delegation: its user and tenant, its
scopes, and a time read before its expiry. The delegation was created earlier in the run by a request
let in as the same user of the same tenant, and that user was let in without an act-token before. -/
theorem delegated_authority {ι : Type} [DecidableEq ι] (env : AgentEnv) (traffic : ι → AgentTraffic)
    (base : World) (members : List MembershipState) (sched : List (ι × Choice)) :
    ∀ ev ∈ remembered [] ((agentTraffic env traffic (AgentWorld.start base members)).events
        (sharedAgents ι env) sched),
      ∀ tenantId ctx actor, ev.op = .attachContext tenantId ctx → ctx.actor = some actor →
        tenantId = ctx.tenantId ∧
        (∃ d, Delegated ev.before.2 d ∧ ReadBefore ev.choice.1 ev.before.2 d.expiresAt ∧
          ctx.IsOf actor d) ∧
        Rooted ev.before.2 ctx.tenantId ctx.subject := by
  intro ev hev tenantId ctx actor hop hactor
  obtain ⟨hinv, hpromise⟩ := Ledger.run (L := grantLedger ι)
    (P := agentTraffic env traffic (AgentWorld.start base members)) grantLedger_sound
    (grantsRecorded_start ι base members)
    (fun i => sat_agentTraffic (traffic i) (grantsRecorded_start ι base members)) sched ev hev
  have hgranted : GrantPromise ev.op ev.choice ev.before := hpromise
  rw [hop] at hgranted
  obtain ⟨htenant, hof⟩ := hgranted
  obtain ⟨d, hd, hread, hctx⟩ := hof actor hactor
  have hacts := hctx.1
  refine ⟨htenant hacts.1, ⟨d, hd, hread, hctx⟩, ?_⟩
  obtain ⟨j, ctx', hctx', hacts'⟩ := hd.attached
  have hrooted := hinv.rooted j _ ctx' hctx' hacts'.1
  rw [hacts'.2.1, hacts'.2.2, ← hacts.2.1, ← hacts.2.2] at hrooted
  exact hrooted

/-! ## A delegation that amplifies -/

/-- A session cookie of alice's, and tokens that are their own hashes. -/
def sessionEnv : AgentEnv :=
  { plainAgentEnv with
    verifySession := fun cookie => if cookie = "cookie" then some ⟨"acme", "alice", "sid"⟩ else none }

/-- The agent `bot` with its client. -/
def botWorld : World :=
  { World.empty [⟨"acme"⟩] with
    db := { Db.empty [⟨"acme"⟩] with
      idMappings := [⟨"acme", .hydra, "bot", "bot-client", 0⟩]
      agents := [⟨"bot", "acme", none, "Bot", "active"⟩]
      mappingKeys := by decide
      mappingTenant := by decide
      applicationMapping := by decide
      agentKey := botRow_key
      agentTenant := botRow_tenant } }

/-- Alice delegates to the agent from her session; the agent mints a token; with the token, a second
delegation is made. -/
def delegatesTwice : Fin 3 → AgentTraffic
  | 0 => .request ⟨none, some "cookie", none⟩
      (.createDelegation ⟨"bot", ["tenant:admin"], some 1000⟩)
  | 1 => .request ⟨some "bot-token", none, none⟩ (.mint "delegation")
  | 2 => .request ⟨some "sat_minted", none, none⟩
      (.createDelegation ⟨"bot", ["tenant:owner"], some 5000⟩)

/-- What the environment decides for the calls of each of them. -/
def delegatesTwiceChoice : Fin 3 → Choice
  | 0 => { Choice.plain "delegation" 5 with doc := .bool true }
  | 1 => { Choice.plain "minted" 5 with doc := .obj [("active", .bool true),
      ("sub", .str "bot-client"), ("scope", .str "agent:act")] }
  | 2 => Choice.plain "second" 5

/-- One after another. -/
def delegatesTwiceSched : List (Fin 3 × Choice) :=
  (List.replicate 20 (0 : Fin 3) ++ List.replicate 20 1 ++ List.replicate 20 2).map fun i =>
    (i, delegatesTwiceChoice i)

/-- The calls of that run. -/
def delegatesTwiceCalls : AgentHistory (Fin 3) :=
  (agentTraffic sessionEnv delegatesTwice
    (AgentWorld.start botWorld [⟨"acme", "alice", "active"⟩])).events (sharedAgents (Fin 3) sessionEnv)
      delegatesTwiceSched

/-- The contexts requests were let in under: the program, its scopes, and whether by an act-token. -/
def contextsOf {ι : Type} (evs : AgentHistory ι) : List (ι × List String × Bool) :=
  evs.filterMap fun ev => match ev.op with
    | .attachContext _ ctx => some (ev.choice.1, ctx.scopes, ctx.actor.isSome)
    | _ => none

/-- The delegations that were created: by which program, their scopes and expiry. -/
def delegationsOf {ι : Type} (evs : AgentHistory ι) : List (ι × List String × ℤ) :=
  evs.filterMap fun ev => match ev.op with
    | .createDelegation _ _ _ scopes x => some (ev.choice.1, scopes, x)
    | _ => none

/-- Alice's session has no scopes, and delegates one; a request with the act-token delegates a scope
that the token does not have, for longer than its own delegation lasts. -/
theorem delegation_amplifies :
    contextsOf delegatesTwiceCalls =
      [(0, [], false), (1, ["agent:act"], false), (2, ["tenant:admin"], true)] ∧
    delegationsOf delegatesTwiceCalls =
      [(0, ["tenant:admin"], 1000), (2, ["tenant:owner"], 5000)] := by
  decide

/-- The context the third request is let in under. -/
def actingBot : FullAuthContext :=
  ⟨⟨"acme", "alice", .user, ["tenant:admin"]⟩, some ⟨"bot", "delegation"⟩, "sat_minted", []⟩

/-- The third request is let in with the token of the first one's delegation. -/
theorem delegated_authority_minted :
    ∃ ev ∈ remembered [] delegatesTwiceCalls, ev.op = .attachContext "acme" actingBot ∧
      (∃ d, Delegated ev.before.2 d ∧ ReadBefore ev.choice.1 ev.before.2 d.expiresAt ∧
        actingBot.IsOf ⟨"bot", "delegation"⟩ d) ∧
      Rooted ev.before.2 "acme" "alice" := by
  have hcall : ∃ ev ∈ remembered [] delegatesTwiceCalls, ev.op = .attachContext "acme" actingBot :=
    ⟨_, List.mem_of_getElem? (i := 29) rfl, rfl⟩
  obtain ⟨ev, hev, hop⟩ := hcall
  have h := delegated_authority sessionEnv delegatesTwice botWorld [⟨"acme", "alice", "active"⟩]
    delegatesTwiceSched ev hev "acme" actingBot _ hop rfl
  exact ⟨ev, hev, hop, h.2⟩

end SsoGateway
