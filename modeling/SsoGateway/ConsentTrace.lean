import SsoGateway.ConsentCalls
import SsoGateway.Resolution

/-!
# What an accepted consent rests on

The calls of one `acceptConsent`, read as a history: which consent request was fetched, which scope
ceiling was read, which claim was minted, and which body went to Hydra.

* `Fetched`, `CeilingRead`, `Minted`, `Sent` — facts about a history.
* `Vetted` — the state after the checks and before the body is sent.
* `Accepted` — what a sent body rests on.
* `sat_acceptConsent` — every body `acceptConsent` sends is `Accepted`, and a call that read no
  ceiling covering its scopes fails with the stores `Untouched`.
-/

namespace SsoGateway

open Lib

/-! ## Facts about a history -/

/-- The history has a fetch of this pending consent under the challenge. -/
def Fetched (env : Env) (tr : History) (challenge : String) (consent : ConsentRequest) : Prop :=
  ∃ c w document, ⟨.hydra (.getConsentRequest challenge), c, w⟩ ∈ tr ∧
    (gateway env (.hydra (.getConsentRequest challenge)) c w).1 = .ok document ∧
    oryConsentRequestToProto document = consent

/-- The history has a read of this identity's scope ceiling. -/
def CeilingRead (env : Env) (tr : History) (tenantId identityId : String)
    (ceiling : List String) : Prop :=
  ∃ c w, ⟨.entitlement (.effectiveScopeCeiling tenantId identityId), c, w⟩ ∈ tr ∧
    (gateway env (.entitlement (.effectiveScopeCeiling tenantId identityId)) c w).1 = ceiling

/-- The history has this claim minted, in a world with these tuples. -/
def Minted (env : Env) (tr : History) (tenantId identityId appPublicId : String)
    (tuples : List StoredTuple) (claim : Value) : Prop :=
  ∃ c w, ⟨.entitlement (.mintClaim tenantId identityId appPublicId), c, w⟩ ∈ tr ∧
    w.tuples = tuples ∧
    (gateway env (.entitlement (.mintClaim tenantId identityId appPublicId)) c w).1 = claim

/-- The history has an acceptance of the challenge with this body. -/
def Sent (tr : History) (challenge : String) (body : Value) : Prop :=
  ∃ c w, ⟨.hydra (.acceptConsentRequest challenge body), c, w⟩ ∈ tr

/-- A call of the history minted a claim. -/
def AnyMinted (tr : History) : Prop :=
  ∃ t i a c w, (⟨.entitlement (.mintClaim t i a), c, w⟩ : Event Gateway Choice World) ∈ tr

section monotone

variable {env : Env} {tr : History} {ev : Event Gateway Choice World}

theorem Fetched.cons {challenge : String} {consent : ConsentRequest}
    (h : Fetched env tr challenge consent) : Fetched env (ev :: tr) challenge consent := by
  obtain ⟨c, w, document, hmem, hdoc⟩ := h
  exact ⟨c, w, document, List.mem_cons_of_mem _ hmem, hdoc⟩

theorem CeilingRead.cons {t i : String} {ceiling : List String}
    (h : CeilingRead env tr t i ceiling) : CeilingRead env (ev :: tr) t i ceiling := by
  obtain ⟨c, w, hmem, hanswer⟩ := h
  exact ⟨c, w, List.mem_cons_of_mem _ hmem, hanswer⟩

theorem Minted.cons {t i a : String} {ts : List StoredTuple} {claim : Value}
    (h : Minted env tr t i a ts claim) : Minted env (ev :: tr) t i a ts claim := by
  obtain ⟨c, w, hmem, hanswer⟩ := h
  exact ⟨c, w, List.mem_cons_of_mem _ hmem, hanswer⟩

end monotone

/-! ## Fetching and vetting -/

/-- Nothing has been sent and no claim minted yet. -/
def Quiet (tr : History) : Prop := (∀ challenge body, ¬ Sent tr challenge body) ∧ ¬ AnyMinted tr

theorem quiet_nil : Quiet [] := by
  constructor
  · rintro challenge body ⟨c, w, hmem⟩
    cases hmem
  · rintro ⟨t, i, a, c, w, hmem⟩
    cases hmem

/-- The calls that neither accept a consent, nor mint a claim, nor delete a mapping. -/
def GatewayOp.IsPreparation (op : GatewayOp) : Prop :=
  (∀ challenge body, op ≠ .hydra (.acceptConsentRequest challenge body)) ∧
    (∀ t i a, op ≠ .entitlement (.mintClaim t i a)) ∧ ∀ t b p, op ≠ .mapping (.delete t b p)

theorem GatewayOp.IsLookup.isPreparation {op : GatewayOp} (hop : op.IsLookup) :
    op.IsPreparation := by
  refine ⟨?_, ?_, ?_⟩
  · rintro challenge body rfl
    exact hop
  · rintro t i a rfl
    exact hop
  · rintro t b p rfl
    exact hop

theorem Quiet.cons {tr : History} (h : Quiet tr) {op : GatewayOp} (hop : op.IsPreparation)
    (c : Choice) (w : World) : Quiet (⟨op, c, w⟩ :: tr) := by
  constructor
  · rintro challenge body ⟨c', w', hmem⟩
    rcases List.mem_cons.mp hmem with heq | hmem
    · cases heq
      exact hop.1 challenge body rfl
    · exact h.1 challenge body ⟨c', w', hmem⟩
  · rintro ⟨t, i, a, c', w', hmem⟩
    rcases List.mem_cons.mp hmem with heq | hmem
    · cases heq
      exact hop.2.1 t i a rfl
    · exact h.2 ⟨t, i, a, c', w', hmem⟩

/-- The stores are as they were, but for a Kratos mapping minted for an unmapped subject. -/
def Untouched (w w' : World) : Prop :=
  w'.tuples = w.tuples ∧ w'.db.applications = w.db.applications ∧
    (w'.db.idMappings = w.db.idMappings ∨
      ∃ m, w'.db.idMappings = m :: w.db.idMappings ∧ m.backend = .kratos ∧
        ∀ m' ∈ w.db.idMappings, ¬ (m'.tenantId = m.tenantId ∧ m'.backend = .kratos ∧
          m'.oryGlobalId = m.oryGlobalId))

theorem Untouched.refl (w : World) : Untouched w w := ⟨rfl, rfl, .inl rfl⟩

section accept

variable {env : Env}

/-- Fetching reads; what it yields is in the history. -/
theorem sat_fetchConsent (ctx : RequestContext) (req : AcceptConsentRequest)
    {s : World × History} (hs : Quiet s.2) :
    (fetchConsent ctx req).run.Sat (gateway env).traced remembering
      (fun r s' => (∀ v, r = .ok v → requireTenant ctx = .ok v.1 ∧ Fetched env s'.2 v.2.1 v.2.2) ∧
        s'.1 = s.1 ∧ Quiet s'.2) s := by
  have hcalls : (fetchConsent ctx req).run.Calls GatewayOp.IsLookup := by
    refine Prog.calls_run_bind (calls_check _) fun _ => ?_
    refine Prog.calls_run_bind (calls_check _) fun tenantId => ?_
    refine Prog.calls_run_bind (calls_oryChallenge (fun _ h => h) tenantId _) fun challenge => ?_
    refine Prog.calls_run_bind (Prog.calls_run_orThrow (Prog.calls_perform ?_)) fun _ => trivial
    trivial
  refine sat_remembering_frame (I := fun s' => s'.1 = s.1 ∧ Quiet s'.2) ?_ hcalls ?_ ⟨rfl, hs⟩
  · unfold fetchConsent
    rw [Prog.sat_run_bind]
    refine (sat_remembering_true _).post fun r s' _ => ?_
    rcases r with e | _
    · simp
    dsimp only
    rw [Prog.sat_run_bind, check, Prog.sat_run_mk]
    rcases htenant : requireTenant ctx with e | tenantId
    · simp
    dsimp only
    rw [Prog.sat_run_bind]
    refine (sat_remembering_true _).post fun r s' _ => ?_
    rcases r with e | challenge
    · simp
    dsimp only
    rw [Prog.sat_run_bind, Prog.sat_run_orThrow]
    refine sat_remembering_perform.mpr fun c => ?_
    rcases hdoc : (gateway env (.hydra (.getConsentRequest challenge)) c s'.1).1 with e | document
    · rintro v hv
      cases hv
    · rintro v hv
      cases hv
      exact ⟨rfl, c, s'.1, document, List.mem_cons_self, hdoc, rfl⟩
  · rintro op c s' hop ⟨hw, hquiet⟩
    have hread := gateway_of_isRead hop.isRead env c s'.1
    exact ⟨by rw [hread, hw], hquiet.cons hop.isPreparation c s'.1⟩

/-- A subject's public id is found, or minted where there was none. -/
theorem sat_publicSubject (tenantId orySubject : String) (s : World × History) :
    (publicSubject tenantId orySubject).run.Sat (gateway env).traced remembering
      (fun r s' => Untouched s.1 s'.1 ∧
        ∀ p, r = .ok p → s'.1.PublicIdOf .kratos orySubject p) s := by
  unfold publicSubject
  rw [Prog.sat_run_ite]
  split
  · rename_i hempty
    refine ⟨Untouched.refl s.1, fun p hp => ?_⟩
    cases hp
    exact .inl ⟨hempty, rfl⟩
  rw [Prog.sat_run_bind, Prog.sat_run_attempt]
  refine sat_remembering_perform.mpr fun c => ?_
  have hlook := gateway_getPublicId env c s.1 tenantId .kratos orySubject
  rcases hlook with ⟨m, hm, ⟨-, hb, hi⟩, hanswer⟩ | ⟨hnone, hanswer⟩ | ⟨e, -, hanswer⟩
  · rw [hanswer]
    refine ⟨Untouched.refl s.1, fun p hp => ?_⟩
    cases hp
    exact .inr ⟨m, hm, hb, rfl, hi⟩
  · rw [hanswer]
    dsimp only
    rw [Prog.sat_run_bind, Prog.sat_run_attempt]
    refine sat_remembering_perform.mpr fun c' => ?_
    dsimp only [gateway]
    rw [Prog.sat_run_bind, Prog.sat_run_orThrow]
    refine sat_remembering_perform.mpr fun c'' => ?_
    dsimp only [gateway, mappingHandler]
    generalize hwrite : s.1.db.write c'' (s.1.db.insertMapping
      ⟨tenantId, .kratos, c'.ulid, orySubject, c''.now⟩) _ = r
    -- the mapping is written, or it is not; the answer may differ from that
    have huntouched : Untouched s.1 { s.1 with db := r.2 } := by
      rw [← hwrite]
      rcases Db.write_snd c'' (s.1.db.insertMapping
        ⟨tenantId, .kratos, c'.ulid, orySubject, c''.now⟩) _ with h | ⟨db', hdb, h⟩
      · rw [h]
        exact Untouched.refl s.1
      · rw [h]
        obtain ⟨hrows, happs, -⟩ := Db.insertMapping_ok hdb
        exact ⟨rfl, happs, .inr ⟨_, hrows, rfl, hnone⟩⟩
    rcases hr : r.1 with e | row
    · refine ⟨huntouched, fun p hp => ?_⟩
      cases hp
    · refine ⟨huntouched, fun p hp => ?_⟩
      cases hp
      obtain ⟨-, db', hdb, hsnd⟩ := Db.write_ok (hwrite ▸ hr)
      obtain ⟨hrows, -⟩ := Db.insertMapping_ok hdb
      refine .inr ⟨⟨tenantId, .kratos, c'.ulid, orySubject, c''.now⟩, ?_, rfl, rfl, rfl⟩
      rw [← hwrite, hsnd, hrows]
      exact List.mem_cons_self
  · rw [hanswer]
    refine ⟨Untouched.refl s.1, fun p hp => ?_⟩
    cases hp

/-- The consent has passed the checks of `vetConsent`, and nothing has been sent. -/
structure Vetted (env : Env) (req : AcceptConsentRequest) (tenantId challenge : String)
    (consent : ConsentRequest) (subject : String) (s : World × History) : Prop where
  fetched : Fetched env s.2 challenge consent
  requested : ∀ scope ∈ req.grantScope, scope ∈ consent.requestedScope
  ceiling : ∃ ceiling, CeilingRead env s.2 tenantId subject ceiling ∧
    outOfCeiling ceiling req.grantScope = []
  subject : s.1.PublicIdOf .kratos consent.subject subject

/-- Whatever call comes next, a vetted consent stays vetted while its mapping does. -/
theorem Vetted.step {req : AcceptConsentRequest} {tenantId challenge subject : String}
    {consent : ConsentRequest} {s : World × History}
    (h : Vetted env req tenantId challenge consent subject s)
    {op : GatewayOp} (hop : ∀ t b p, op ≠ .mapping (.delete t b p)) (c : Choice) :
    Vetted env req tenantId challenge consent subject
      ((gateway env op c s.1).2, ⟨op, c, s.1⟩ :: s.2) where
  fetched := h.fetched.cons
  requested := h.requested
  ceiling := by
    obtain ⟨ceiling, hread, hin⟩ := h.ceiling
    exact ⟨ceiling, hread.cons, hin⟩
  subject := h.subject.gateway hop env c

/-- A check that refuses ends the call. -/
theorem sat_check_refuse {b : Prop} [Decidable b] {e : ServiceError}
    {Q : Except ServiceError Unit → World × History → Prop} {s : World × History}
    (hok : ¬ b → Q (.ok ()) s) (herr : b → Q (.error e) s) :
    (check (refuseIf b e)).run.Sat (gateway env).traced remembering Q s := by
  unfold check refuseIf
  rw [Prog.sat_run_mk]
  by_cases hb : b
  · rw [if_pos hb]
    exact herr hb
  · rw [if_neg hb]
    exact hok hb

/-- The checks before the gate leave the stores untouched; what passes them is vetted. -/
theorem sat_vetConsent (ctx : RequestContext) (req : AcceptConsentRequest)
    (tenantId challenge : String) (consent : ConsentRequest) {s : World × History}
    (hfetched : Fetched env s.2 challenge consent)
    (hquiet : Quiet s.2) :
    (vetConsent ctx req tenantId consent).run.Sat (gateway env).traced remembering
      (fun r s' => (Untouched s.1 s'.1 ∧
        ∀ v, r = .ok v → Vetted env req tenantId challenge consent v.2 s') ∧ Quiet s'.2) s := by
  have hlookup : ∀ op : GatewayOp, op.IsLookup → op.IsPreparation := fun _ h => h.isPreparation
  have hcalls : (vetConsent ctx req tenantId consent).run.Calls GatewayOp.IsPreparation := by
    refine calls_vetConsent hlookup (fun p => ?_) (fun i => ?_) ctx req
    · exact ⟨by simp, by simp, by simp⟩
    · exact ⟨by simp, by simp, by simp⟩
  refine sat_remembering_frame (I := fun s' => Quiet s'.2) ?_ hcalls
    (fun op c s' hop h => h.cons hop c s'.1) hquiet
  unfold vetConsent
  rw [Prog.sat_run_bind]
  refine sat_check_refuse (fun hrequested => ?_) fun _ =>
    ⟨Untouched.refl s.1, fun v hv => by cases hv⟩
  have hrequested : ∀ scope ∈ req.grantScope, scope ∈ consent.requestedScope :=
    not_not.mp hrequested
  dsimp only
  rw [Prog.sat_run_bind]
  -- the caller and the lookup for the claim change nothing
  have hread : ∀ {α : Type} (x : Service α), x.run.Calls GatewayOp.IsLookup → ∀ s₁ : World × History,
      s₁.1 = s.1 ∧ Fetched env s₁.2 challenge consent → x.run.Sat (gateway env).traced remembering
        (fun _ s' => True ∧ s'.1 = s.1 ∧ Fetched env s'.2 challenge consent) s₁ := by
    intro α x hx s₁ h₁
    refine sat_remembering_frame (sat_remembering_true _) hx ?_ h₁
    rintro op c s' hop ⟨hw, hf⟩
    exact ⟨(gateway_of_isRead hop.isRead env c s'.1).trans hw, hf.cons⟩
  refine (hread _ (calls_check _) s ⟨rfl, hfetched⟩).post fun r s₁ ⟨_, h₁⟩ => ?_
  rcases r with e | auth
  · exact ⟨h₁.1 ▸ Untouched.refl s₁.1, fun v hv => by cases hv⟩
  dsimp only
  rw [Prog.sat_run_bind]
  refine (hread _ (calls_identityClaim (fun _ h => h) _ _) s₁ h₁).post fun r s₂ ⟨_, h₂⟩ => ?_
  rcases r with e | identityId
  · exact ⟨h₂.1 ▸ Untouched.refl s₂.1, fun v hv => by cases hv⟩
  dsimp only
  rw [Prog.sat_run_bind]
  refine (sat_remembering_frame (P := fun _ => True) (I := fun s' => Fetched env s'.2 challenge consent)
    (sat_publicSubject tenantId consent.subject s₂)
    (calls_publicSubject (fun _ _ => trivial) fun _ => trivial)
    (fun _ _ _ _ h => h.cons) h₂.2).post fun r s₃ ⟨⟨huntouched, hsubject⟩, hf₃⟩ => ?_
  rw [h₂.1] at huntouched
  rcases r with e | subject
  · exact ⟨huntouched, fun v hv => by cases hv⟩
  have hsubject := hsubject subject rfl
  dsimp only
  rw [Prog.sat_run_bind]
  refine sat_check_refuse (fun _ => ?_) fun _ => ⟨huntouched, fun v hv => by cases hv⟩
  dsimp only
  rw [Prog.sat_run_bind, Prog.sat_run_attempt]
  refine sat_remembering_perform.mpr fun c => ?_
  have hceil : GatewayOp.IsRead (.entitlement (.effectiveScopeCeiling tenantId subject)) := trivial
  rw [gateway_of_isRead hceil]
  dsimp only
  rw [Prog.sat_run_bind]
  refine sat_check_refuse (fun hceiling => ?_) fun _ => ⟨huntouched, fun v hv => by cases hv⟩
  refine ⟨huntouched, fun v hv => ?_⟩
  cases hv
  exact ⟨hf₃.cons, hrequested, ⟨_, ⟨c, s₃.1, List.mem_cons_self, rfl⟩, not_not.mp hceiling⟩,
    hsubject⟩

/-! ## The gate and the claim -/

/-- The gate names no application but the resolved one. -/
theorem sat_consentGateOn_publicId (tenantId subject : String) (skip : Bool)
    (res : ClientEntitlement) (s : World × History) :
    (consentGateOn tenantId subject skip res).run.Sat (gateway env).traced remembering
      (fun r _ => ∀ pass p, r = .ok pass → pass.appPublicId = some p → res.publicId = some p)
      s := by
  -- a first-use grant is for the resolved client
  have hgrant : ∀ (pid : String) (rehome : Bool) (s : World × History),
      (do
        grantFirstUse tenantId subject pid rehome skip
        return ⟨tenantId, some pid⟩ : Service GatePass).run.Sat (gateway env).traced remembering
        (fun r _ => ∀ pass p, r = .ok pass → pass.appPublicId = some p → some pid = some p) s := by
    intro pid rehome s
    rw [Prog.sat_run_bind]
    refine (sat_remembering_true _).post fun r s' _ => ?_
    rcases r with e | _
    · rintro pass p hr
      cases hr
    · rintro pass p hr hp
      cases hr
      exact hp
  cases res with
  | unmapped =>
      rintro pass p hr hp
      cases hr
      cases hp
  | crossTenantOwned pid owner flag =>
      simp only [consentGateOn, Prog.sat_run_ite]
      split
      · rintro pass p hr
        cases hr
      · rw [Prog.sat_run_bind, Prog.sat_run_attempt]
        refine (sat_remembering_true _).post fun r s' _ => ?_
        dsimp only
        split
        · rintro pass p hr hp
          cases hr
          exact hp
        · rintro pass p hr
          cases hr
  | localClient pid source =>
      simp only [consentGateOn]
      rw [Prog.sat_run_bind, Prog.sat_run_attempt]
      refine (sat_remembering_true _).post fun r s' _ => ?_
      dsimp only
      split
      · rintro pass p hr hp
        cases hr
        cases hp
      · rw [Prog.sat_run_ite]
        split
        · exact hgrant pid false s'
        · rintro pass p hr
          cases hr
  | provisional pid owner =>
      simp only [consentGateOn]
      rw [Prog.sat_run_bind, Prog.sat_run_attempt]
      refine (sat_remembering_true _).post fun r s' _ => ?_
      dsimp only
      split
      · rintro pass p hr hp
        cases hr
        cases hp
      · exact hgrant pid _ s'

/-- The claims put into a body before the entitlement claim. -/
inductive Stamped (body : Value) : Value → Prop where
  | base : Stamped body body
  | inject {b : Value} {claim : String} (value : String) (hclaim : claim ≠ "entitlements")
      (h : Stamped body b) : Stamped body (injectIdTokenClaim b claim value)

theorem sat_stampIdentity (cfg : ConsentConfig) (tenantId : String) (consent : ConsentRequest)
    (identityId : Option String) (body : Value) (s : World × History) :
    (stampIdentity cfg tenantId consent identityId body).Sat (gateway env).traced remembering
      (fun b _ => Stamped body b) s := by
  obtain ⟨base, hbase, hidentity⟩ : ∃ base, stampIdentity cfg tenantId consent identityId body =
      stampIdentity cfg tenantId consent none base ∧ Stamped body base := by
    cases identityId with
    | none => exact ⟨body, rfl, .base⟩
    | some i => exact ⟨_, rfl, .inject i (by decide) .base⟩
  rw [hbase]
  unfold stampIdentity
  rw [Prog.sat_bind]
  refine (sat_remembering_true _).post fun b s' _ => ?_
  rw [Prog.sat_ite]
  split
  · rw [Prog.sat_bind]
    refine (sat_remembering_true _).post fun r s' _ => ?_
    split
    · split
      · exact .inject _ (by decide) hidentity
      · exact hidentity
    · exact hidentity
  · exact hidentity

/-- What a body sent to Hydra rests on. -/
structure Accepted (env : Env) (req : AcceptConsentRequest) (s : World × History) (body : Value)
    (tenantId challenge : String) (consent : ConsentRequest) (subject : String) : Prop where
  vetted : Vetted env req tenantId challenge consent subject s
  body : ∃ base, Stamped (acceptConsentRequestToJson req) base ∧
    ((∃ t app tuples claim, Minted env s.2 t subject app tuples claim ∧
        s.1.PublicIdOf .hydra consent.clientId app ∧ body = mergeClaim base claim) ∨
      (¬ AnyMinted s.2 ∧ body = base))

/-- The client's own public id, where the tenant has one. -/
theorem sat_publicClientId (tenantId cid : String) (s : World × History) :
    (publicClientId tenantId cid).Sat (gateway env).traced remembering
      (fun r s' => ∀ p ∈ r.toOption, s'.1.PublicIdOf .hydra cid p) s := by
  unfold publicClientId
  rw [Prog.sat_ite]
  split
  · rename_i hempty
    rintro p hp
    exact .inl ⟨hempty, (Option.some.inj hp).symm⟩
  · rw [Prog.sat_bind]
    refine sat_remembering_perform.mpr fun c => ?_
    rcases gateway_getPublicId env c s.1 tenantId .hydra cid with
      ⟨m, hm, ⟨-, hb, hi⟩, hanswer⟩ | ⟨-, hanswer⟩ | ⟨e, -, hanswer⟩
    · rw [hanswer]
      rintro p hp
      exact .inr ⟨m, hm, hb, Option.some.inj hp, hi⟩
    · rw [hanswer]
      rintro p hp
      cases hp
    · rw [hanswer]
      rintro p hp
      cases hp

theorem firstUse_isPreparation (tenantId subject : String) :
    FirstUseCalls GatewayOp.IsPreparation tenantId subject where
  rehome _ := ⟨by simp, by simp, by simp⟩
  create _ := ⟨by simp, by simp, by simp⟩
  grant _ := ⟨by simp, by simp, by simp⟩

/-- The application the gate names is one the client is mapped to. -/
theorem sat_consentGate_publicId (tenantId subject cid : String) (skip : Bool)
    (s : World × History) :
    (consentGate tenantId subject cid skip).run.Sat (gateway env).traced remembering
      (fun r s' => ∀ pass p, r = .ok pass → pass.appPublicId = some p →
        s'.1.PublicIdOf .hydra cid p) s := by
  unfold consentGate
  rw [Prog.sat_run_bind, Prog.sat_run_attempt]
  refine (sat_resolveClientEntitlement tenantId cid s).post ?_
  rintro r s' ⟨hw, rfl | ⟨⟨e, rfl⟩, -⟩⟩
  · -- the gate keeps the mapping it resolved
    refine (sat_remembering_frame
      (I := fun s' => ∀ p, (s.1.resolve env tenantId cid).publicId = some p →
        s'.1.Linked .hydra p cid)
      (sat_consentGateOn_publicId tenantId subject skip _ s')
      (calls_consentGateOn (fun _ h => h.isPreparation)
        (fun _ => firstUse_isPreparation tenantId subject) _)
      (fun op c s'' hop hl p hp => (hl p hp).gateway hop.2.2 env c) ?_).post ?_
    · intro p hp
      rw [hw]
      exact World.linked_of_resolve hp
    · rintro r s'' ⟨hpass, hl⟩ pass p hr hp
      exact .inr (hl p (hpass pass p hr hp))
  · rintro pass p hr hp
    cases hr
    cases hp

/-- The answer to Hydra is the first acceptance of the call, so what holds of its body holds of
every body sent. -/
theorem sat_sendConsent {req : AcceptConsentRequest} {tenantId challenge subject : String}
    {consent : ConsentRequest} {s : World × History} {body : Value}
    (hacc : Accepted env req s body tenantId challenge consent subject) (hnone : ∀ ch b, ¬ Sent s.2 ch b) :
    (Prog.orThrow mapConsentOryError
      (callHydra (.acceptConsentRequest challenge body)) : Service Value).run.Sat
      (gateway env).traced remembering
      (fun _ s' => Vetted env req tenantId challenge consent subject s' ∧
        ∀ ch b, Sent s'.2 ch b → Accepted env req s' b tenantId ch consent subject) s := by
  rw [Prog.sat_run_orThrow]
  refine sat_remembering_perform.mpr fun c => ?_
  have hdelete : ∀ t b p, GatewayOp.hydra (.acceptConsentRequest challenge body) ≠
      .mapping (.delete t b p) := by simp
  have hvetted := hacc.vetted.step hdelete c
  refine ⟨hvetted, fun ch b hsent => ?_⟩
  obtain ⟨rfl, hb⟩ : ch = challenge ∧ b = body := by
    obtain ⟨c', w', hmem⟩ := hsent
    rcases List.mem_cons.mp hmem with heq | hmem
    · cases heq
      exact ⟨rfl, rfl⟩
    · exact absurd ⟨c', w', hmem⟩ (hnone ch b)
  refine ⟨hvetted, ?_⟩
  obtain ⟨base, hbase, hclaim⟩ := hacc.body
  refine ⟨base, hbase, ?_⟩
  rcases hclaim with ⟨t, app, tuples, claim, hminted, happ, hbody⟩ | ⟨hminted, hbody⟩
  · exact .inl ⟨t, app, tuples, claim, hminted.cons, happ.gateway hdelete env c, hb.trans hbody⟩
  · refine .inr ⟨?_, hb.trans hbody⟩
    rintro ⟨t, i, a, c', w', hmem⟩
    rcases List.mem_cons.mp hmem with heq | hmem
    · cases heq
    · exact hminted ⟨t, i, a, c', w', hmem⟩

/-- Every body sent rests on the gate and the claims made before it. -/
theorem sat_finishConsent (cfg : ConsentConfig) (req : AcceptConsentRequest)
    {tenantId challenge : String} {consent : ConsentRequest} (identityId : Option String)
    {subject : String} {s : World × History} (hvetted : Vetted env req tenantId challenge consent subject s)
    (hquiet : Quiet s.2) :
    (finishConsent cfg req tenantId challenge consent identityId subject).run.Sat
      (gateway env).traced remembering
      (fun _ s' => Vetted env req tenantId challenge consent subject s' ∧
        ∀ ch body, Sent s'.2 ch body → Accepted env req s' body tenantId ch consent subject) s := by
  have hlookup : ∀ op : GatewayOp, op.IsLookup → op.IsPreparation := fun _ h => h.isPreparation
  have hgrant := firstUse_isPreparation tenantId subject
  -- what the calls before the claim keep, for an application found on the way
  have hkeep : ∀ (app : Option String) op c (s : World × History), op.IsPreparation →
      (Vetted env req tenantId challenge consent subject s ∧ Quiet s.2 ∧
        ∀ p ∈ app, s.1.PublicIdOf .hydra consent.clientId p) →
      Vetted env req tenantId challenge consent subject ((gateway env op c s.1).2, ⟨op, c, s.1⟩ :: s.2) ∧
        Quiet (⟨op, c, s.1⟩ :: s.2) ∧
        ∀ p ∈ app, (gateway env op c s.1).2.PublicIdOf .hydra consent.clientId p := by
    rintro app op c s hop ⟨hv, hq, happ⟩
    exact ⟨hv.step hop.2.2 c, hq.cons hop c s.1, fun p hp => (happ p hp).gateway hop.2.2 env c⟩
  unfold finishConsent
  rw [Prog.sat_run_bind, Prog.sat_run_attempt]
  refine (sat_remembering_frame (sat_publicClientId tenantId consent.clientId s)
    (calls_publicClientId hlookup tenantId _)
    (hkeep none) ⟨hvetted, hquiet, by simp⟩).post fun app s₁ ⟨happ, hv, hq, _⟩ => ?_
  dsimp only
  rw [Prog.sat_run_bind]
  refine (sat_remembering_frame
    (sat_consentGate_publicId tenantId subject consent.clientId consent.skip s₁)
    (calls_consentGate hlookup (fun _ => hgrant) _)
    (hkeep app.toOption) ⟨hv, hq, happ⟩).post fun r s₂ ⟨hpass, hv, hq, happ⟩ => ?_
  rcases r with e | pass
  · exact ⟨hv, fun ch body hsent => absurd hsent (hq.1 ch body)⟩
  have happ : ∀ p ∈ pass.appPublicId.or app.toOption,
      s₂.1.PublicIdOf .hydra consent.clientId p := by
    intro p hp
    rcases hgate : pass.appPublicId with _ | q
    · rw [hgate] at hp
      exact happ p hp
    · rw [hgate] at hp
      cases hp
      exact hpass pass p rfl hgate
  dsimp only
  rw [Prog.sat_run_bind, Prog.sat_run_attempt]
  refine (sat_remembering_frame (sat_stampIdentity cfg tenantId consent identityId _ s₂)
    (calls_stampIdentity hlookup cfg tenantId consent identityId _)
    (hkeep (pass.appPublicId.or app.toOption)) ⟨hv, hq, happ⟩).post
    fun base s₃ ⟨hbase, hv, hq, happ⟩ => ?_
  dsimp only
  rw [Prog.sat_run_bind, Prog.sat_run_attempt]
  unfold stampEntitlements
  split
  · rename_i a happ'
    rw [Prog.sat_map]
    refine sat_remembering_perform.mpr fun c => ?_
    have hdelete : ∀ t b p, GatewayOp.entitlement (.mintClaim pass.claimTenant subject a) ≠
        .mapping (.delete t b p) := by simp
    refine sat_sendConsent ⟨hv.step hdelete c, base, hbase, .inl ?_⟩ ?_
    · exact ⟨pass.claimTenant, a, s₃.1.tuples, _, ⟨c, s₃.1, List.mem_cons_self, rfl, rfl⟩,
        (happ a happ').gateway hdelete env c, rfl⟩
    · rintro ch b ⟨c', w', hmem⟩
      rcases List.mem_cons.mp hmem with heq | hmem
      · cases heq
      · exact hq.1 ch b ⟨c', w', hmem⟩
  · exact sat_sendConsent ⟨hv, base, hbase, .inr ⟨hq.2, rfl⟩⟩ hq.1

variable (env) in
/-- **The calls of an acceptance.** Every body sent is `Accepted`, and a call that never read a
ceiling covering its scopes fails, with the stores untouched and nothing sent. -/
theorem sat_acceptConsent (cfg : ConsentConfig) (ctx : RequestContext)
    (req : AcceptConsentRequest) (w : World) :
    (acceptConsent cfg ctx req).run.Sat (gateway env).traced remembering
      (fun r s => (∀ challenge body, Sent s.2 challenge body → ∃ t consent subject,
          Accepted env req s body t challenge consent subject) ∧
        ((∃ t challenge consent subject, Vetted env req t challenge consent subject s) ∨
          (∃ e, r = .error e) ∧ Untouched w s.1)) (w, []) := by
  unfold acceptConsent
  rw [Prog.sat_run_bind]
  refine (sat_fetchConsent ctx req quiet_nil).post fun r s₁ ⟨hf, hw, hq⟩ => ?_
  rcases r with e | ⟨tenantId, challenge, consent⟩
  · exact ⟨fun ch body hsent => absurd hsent (hq.1 ch body),
      .inr ⟨⟨e, rfl⟩, hw ▸ Untouched.refl s₁.1⟩⟩
  have hfetched := (hf _ rfl).2
  dsimp only
  rw [Prog.sat_run_bind]
  refine (sat_vetConsent ctx req tenantId challenge consent hfetched hq).post
    fun r s₂ ⟨⟨huntouched, hvetted⟩, hq⟩ => ?_
  rw [hw] at huntouched
  rcases r with e | ⟨identityId, subject⟩
  · exact ⟨fun ch body hsent => absurd hsent (hq.1 ch body), .inr ⟨⟨e, rfl⟩, huntouched⟩⟩
  refine (sat_finishConsent cfg req identityId (hvetted _ rfl) hq).post fun r s₃ ⟨hv, hsent⟩ => ?_
  exact ⟨fun ch body h => ⟨tenantId, consent, subject, hsent ch body h⟩,
    .inl ⟨tenantId, challenge, consent, subject, hv⟩⟩

end accept

/-! ## The body -/

theorem Value.get_mergeIdTokenClaims_of_ne {key : String} (hkey : key ≠ "session")
    (claims : List (String × Value)) (body : Value) :
    (mergeIdTokenClaims claims body).get key = body.get key :=
  Value.get_entryOr_of_ne hkey _ _ _

/-- The claims only touch the session of a body. -/
theorem Stamped.get_of_ne {key : String} (hkey : key ≠ "session") {body b : Value}
    (h : Stamped body b) : b.get key = body.get key := by
  induction h with
  | base => rfl
  | @inject b claim value _ _ ih =>
      unfold injectIdTokenClaim
      split
      · exact ih
      · rw [Value.get_mergeIdTokenClaims_of_ne hkey, ih]

theorem get_mergeClaim_of_ne {key : String} (hkey : key ≠ "session") (body claim : Value) :
    (mergeClaim body claim).get key = body.get key := by
  unfold mergeClaim
  split
  · exact Value.get_mergeIdTokenClaims_of_ne hkey _ _
  · rfl

/-- Outside the session, a sent body is the one built from the request. -/
theorem Accepted.get_of_ne {env : Env} {req : AcceptConsentRequest} {s : World × History}
    {body : Value} {t challenge subject : String} {consent : ConsentRequest}
    (h : Accepted env req s body t challenge consent subject) {key : String} (hkey : key ≠ "session") :
    body.get key = (acceptConsentRequestToJson req).get key := by
  obtain ⟨base, hbase, hclaim⟩ := h.body
  rcases hclaim with ⟨_, _, _, claim, -, -, rfl⟩ | ⟨-, rfl⟩
  · rw [get_mergeClaim_of_ne hkey, hbase.get_of_ne hkey]
  · rw [hbase.get_of_ne hkey]

end SsoGateway
