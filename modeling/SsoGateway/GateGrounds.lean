import SsoGateway.Gates

/-!
# On what grounds an acceptance reaches Hydra

The gates decide before the gateway accepts a login or a consent with Hydra. Here the grounds are
stated as properties of tables and tuples, and every acceptance is traced back to one.

* `Authorization.MappedNowhere`, `Authorization.Member`, `Authorization.FirstUseEligible` — the
  grounds.
* `gates_forward_only` — every acceptance of a login and of a consent has a ground, or a lookup of
  the client failed on the way.
* `loginGate_fails_open` — a failed lookup lets an unentitled login pass.
-/

namespace SsoGateway

open Lib

/-! ## Grounds to pass -/

namespace Authorization

/-- No tenant maps the client. -/
def MappedNowhere (a : Authorization) (cid : String) : Prop :=
  ∀ m ∈ a.hydraMappings, m.oryGlobalId ≠ cid

/-- The subject is a member of the client, directly or through a group, in the store of the tenant
that owns it; and that is the user's tenant, or the client's row admits users of others. A client
without a row is owned by the tenant of its mapping. -/
def Member (a : Authorization) (tenantId subject cid : String) : Prop :=
  ∃ m ∈ a.hydraMappings, m.oryGlobalId = cid ∧
    ((∃ row ∈ a.applications, row.publicId = m.publicId ∧
        (row.tenantId = tenantId ∨ row.crossTenant = true) ∧
        Holds a.tuples row.tenantId entitlementNamespace m.publicId memberRel subject) ∨
      ((∀ row ∈ a.applications, row.publicId ≠ m.publicId) ∧ m.tenantId = tenantId ∧
        Holds a.tuples tenantId entitlementNamespace m.publicId memberRel subject))

/-- The client is mapped, and its row, if it has one, is the tenant's and was made by a dynamic
registration. -/
def FirstUseEligible (a : Authorization) (tenantId cid : String) : Prop :=
  ∃ m ∈ a.hydraMappings, m.oryGlobalId = cid ∧ ∀ row ∈ a.applications,
    row.publicId = m.publicId → row.tenantId = tenantId ∧ row.registrationSource = .dcr

instance (a : Authorization) (cid : String) : Decidable (a.MappedNowhere cid) :=
  inferInstanceAs (Decidable (∀ m ∈ a.hydraMappings, _))

instance (a : Authorization) (tenantId cid : String) : Decidable (a.FirstUseEligible tenantId cid) :=
  inferInstanceAs (Decidable (∃ m ∈ a.hydraMappings, _))

/-- Without tuples nobody is a member. -/
theorem not_member_of_tuples_eq_nil {a : Authorization} (h : a.tuples = [])
    (tenantId subject cid : String) : ¬ a.Member tenantId subject cid := by
  have hnone : ∀ t n o r, ¬ Holds a.tuples t n o r subject := by
    intro t n o r hholds
    rw [h] at hholds
    cases hholds with
    | direct hmem => cases hmem
    | viaSet hmem => cases hmem
  rintro ⟨m, -, -, ⟨row, -, -, -, hholds⟩ | ⟨-, -, hholds⟩⟩
  · exact hnone _ _ _ _ hholds
  · exact hnone _ _ _ _ hholds

end Authorization

theorem mem_hydraMappings {w : World} {m : IdMappingRow} :
    m ∈ w.authorization.hydraMappings ↔ m ∈ w.db.idMappings ∧ m.backend = .hydra := by
  simp [World.authorization]

/-- Who is admitted is admitted on a ground. -/
theorem ground_of_allow {env : Env} {w : World} {tenantId subject cid : String} {tr : History}
    {member : Bool}
    (hmember : MemberAnswer env w tenantId subject (w.resolve env tenantId cid) tr member)
    (h : gateDecision tenantId member (w.resolve env tenantId cid) = .allow) :
    w.authorization.MappedNowhere cid ∨ w.authorization.Member tenantId subject cid := by
  have htrue : member = true → memberChecked env w tenantId subject (w.resolve env tenantId cid) =
      true := by
    rintro rfl
    rcases hmember with h | ⟨h, -⟩
    · exact h.symm
    · cases h
  have hres := w.resolved env tenantId cid
  generalize w.resolve env tenantId cid = res at h hres htrue
  cases hres with
  | unmapped hnone =>
      refine .inl fun m hm => ?_
      obtain ⟨hm, hb⟩ := mem_hydraMappings.mp hm
      exact hnone m hm hb
  | @localClient m row hm hb hi hrow hp ht =>
      cases member with
      | false =>
          simp only [gateDecision] at h
          split at h
          · cases ‹false = true›
          · split at h <;> cases h
      | true =>
          have hholds := holds_of_checkWithin (htrue rfl)
          refine .inr ⟨m, mem_hydraMappings.mpr ⟨hm, hb⟩, hi, .inl ⟨row, hrow, hp, .inl ht, ?_⟩⟩
          rw [ht]
          exact hholds
  | @crossTenantOwned m row hm hb hi hrow hp ht =>
      rcases hflag : row.crossTenant with _ | _
      · rw [hflag] at h
        cases h
      · cases member with
        | false =>
            rw [hflag] at h
            cases h
        | true =>
            exact .inr ⟨m, mem_hydraMappings.mpr ⟨hm, hb⟩, hi,
              .inl ⟨row, hrow, hp, .inr hflag, holds_of_checkWithin (htrue rfl)⟩⟩
  | @provisional m owner hm hb hi hfree howner =>
      cases member with
      | false => cases h
      | true =>
          have hchecked := htrue rfl
          simp only [memberChecked, Bool.and_eq_true, decide_eq_true_eq] at hchecked
          obtain ⟨hsame, hcheck⟩ := hchecked
          rcases howner with ⟨-, htenant⟩ | ⟨hother, -⟩
          · exact .inr ⟨m, mem_hydraMappings.mpr ⟨hm, hb⟩, hi,
              .inr ⟨hfree, htenant, holds_of_checkWithin hcheck⟩⟩
          · exact absurd hsame hother

theorem eligible_of_firstUse {env : Env} {w : World} {tenantId cid p : String}
    {member rehome : Bool}
    (h : gateDecision tenantId member (w.resolve env tenantId cid) = .firstUse p rehome) :
    w.authorization.FirstUseEligible tenantId cid ∧ w.Linked .hydra p cid := by
  have hres := w.resolved env tenantId cid
  generalize w.resolve env tenantId cid = res at h hres
  cases hres with
  | unmapped => cases h
  | @localClient m row hm hb hi hrow hp ht =>
      simp only [gateDecision] at h
      split at h
      · cases h
      · split at h
        · rename_i hsource
          cases h
          refine ⟨⟨m, mem_hydraMappings.mpr ⟨hm, hb⟩, hi, fun a ha hap => ?_⟩, m, hm, hb, rfl, hi⟩
          rw [Db.application_unique ha hrow (hap.trans hp.symm)]
          exact ⟨ht, hsource⟩
        · cases h
  | crossTenantOwned hm hb hi hrow hp ht =>
      simp only [gateDecision] at h
      split at h
      · cases h
      · split at h <;> cases h
  | @provisional m owner hm hb hi hfree howner =>
      simp only [gateDecision] at h
      split at h
      · cases h
      · cases h
        exact ⟨⟨m, mem_hydraMappings.mpr ⟨hm, hb⟩, hi, fun a ha hap => absurd hap (hfree a ha)⟩,
          m, hm, hb, rfl, hi⟩

/-- Who has just been granted the client is a member of it. -/
theorem member_of_grantedTo {w : World} {tenantId subject p cid : String}
    (hgranted : GrantedTo w tenantId subject p) (hlinked : w.Linked .hydra p cid) :
    w.authorization.Member tenantId subject cid := by
  obtain ⟨⟨row, hrow, hp, ht⟩, htuple⟩ := hgranted
  obtain ⟨m, hm, hb, rfl, hi⟩ := hlinked
  refine ⟨m, mem_hydraMappings.mpr ⟨hm, hb⟩, hi, .inl ⟨row, hrow, hp, .inl ht, ?_⟩⟩
  rw [ht]
  exact .direct htuple

/-! ## Accepted logins -/

/-- The history has an acceptance of the login challenge. -/
def LoginSent (tr : History) (challenge : String) (body : Value) : Prop :=
  ∃ c w, (⟨.hydra (.acceptLoginRequest challenge body), c, w⟩ : Event Gateway Choice World) ∈ tr

/-- The history has a fetch of this login request. -/
def LoginRequested (env : Env) (tr : History) (challenge : String) (loginRequest : Value) : Prop :=
  ∃ c w, (⟨.hydra (.getLoginRequest challenge), c, w⟩ : Event Gateway Choice World) ∈ tr ∧
    (gateway env (.hydra (.getLoginRequest challenge)) c w).1 = .ok loginRequest

/-- The history has a read of the session of the cookie. -/
def SessionRead (env : Env) (tr : History) (cookie : Option String) (session : Value) : Prop :=
  ∃ c w, (⟨.kratos (.toSession cookie), c, w⟩ : Event Gateway Choice World) ∈ tr ∧
    (gateway env (.kratos (.toSession cookie)) c w).1 = .ok session

theorem LoginRequested.cons {env : Env} {tr : History} {ev : Event Gateway Choice World}
    {challenge : String} {v : Value} (h : LoginRequested env tr challenge v) :
    LoginRequested env (ev :: tr) challenge v := by
  obtain ⟨c, w, hmem, hanswer⟩ := h
  exact ⟨c, w, List.mem_cons_of_mem _ hmem, hanswer⟩

theorem SessionRead.cons {env : Env} {tr : History} {ev : Event Gateway Choice World}
    {cookie : Option String} {v : Value} (h : SessionRead env tr cookie v) :
    SessionRead env (ev :: tr) cookie v := by
  obtain ⟨c, w, hmem, hanswer⟩ := h
  exact ⟨c, w, List.mem_cons_of_mem _ hmem, hanswer⟩

/-- The grounds on which a login passes the gate. -/
def LoginGround (w : World) (tenantId subject : String) (loginRequest : Value) (tr : History) :
    Prop :=
  loginClient loginRequest = none ∨ ∃ cid, loginClient loginRequest = some cid ∧
    (LookupFailed tr ∨ w.authorization.MappedNowhere cid ∨
      (∃ i, SubjectAnswer w tenantId subject tr i ∧ w.authorization.Member tenantId i cid) ∨
      w.authorization.FirstUseEligible tenantId cid)

theorem LoginGround.cons {w : World} {tenantId subject : String} {loginRequest : Value}
    {tr : History} {ev : Event Gateway Choice World}
    (h : LoginGround w tenantId subject loginRequest tr) :
    LoginGround w tenantId subject loginRequest (ev :: tr) := by
  refine h.imp_right fun ⟨cid, hcid, h⟩ => ⟨cid, hcid, ?_⟩
  rcases h with h | h | ⟨i, hi, h⟩ | h
  · exact .inl h.cons
  · exact .inr (.inl h)
  · exact .inr (.inr (.inl ⟨i, hi.cons, h⟩))
  · exact .inr (.inr (.inr h))

section login

variable {env : Env}

theorem sat_gateLogin (tenantId subject : String) (loginRequest : Value) (s : World × History) :
    (gateLogin tenantId subject loginRequest).run.Sat (gateway env).traced remembering
      (fun r s' => s'.1 = s.1 ∧
        ∀ v, r = .ok v → LoginGround s.1 tenantId subject loginRequest s'.2) s := by
  unfold gateLogin
  rcases hcid : loginClient loginRequest with _ | cid
  · exact ⟨rfl, fun _ _ => .inl hcid⟩
  · refine (sat_loginGate env tenantId subject cid s).post ?_
    rintro r s' ⟨hw, ⟨-, hfailed⟩ | ⟨i, member, hsubject, hmember, hr⟩⟩
    · exact ⟨hw, fun _ _ => .inr ⟨cid, hcid, .inl hfailed⟩⟩
    · refine ⟨hw, fun v hv => .inr ⟨cid, hcid, .inr ?_⟩⟩
      rcases hd : gateDecision tenantId member (s.1.resolve env tenantId cid) with _ | ⟨p, rehome⟩ | e
      · rcases ground_of_allow hmember hd with h | h
        · exact .inl h
        · exact .inr (.inl ⟨i, hsubject, h⟩)
      · exact .inr (.inr (eligible_of_firstUse hd).1)
      · rw [hd] at hr
        rw [hr] at hv
        cases hv

/-- The login gate only looks things up. -/
theorem calls_gateLogin (tenantId subject : String) (loginRequest : Value) :
    (gateLogin tenantId subject loginRequest).run.Calls GatewayOp.IsLookup := by
  have hmember : ∀ t i p, (EntitlementService.isMember t i p).Calls GatewayOp.IsLookup :=
    fun t i p => Prog.calls_perform trivial
  unfold gateLogin
  split
  · refine Prog.calls_run_bind
      (Prog.calls_run_attempt (calls_resolveClientEntitlement (fun _ h => h) _ _)) fun r => ?_
    split
    · rename_i res
      refine Prog.calls_run_bind (Prog.calls_run_attempt ?_) fun i => ?_
      · refine Prog.calls_bind (Prog.calls_perform trivial) fun r => ?_
        split <;> exact trivial
      · cases res with
        | unmapped => exact trivial
        | crossTenantOwned p owner flag =>
            simp only [loginGateOn]
            split
            · exact trivial
            · refine Prog.calls_run_bind (Prog.calls_run_attempt (hmember _ _ _)) fun r => ?_
              split <;> exact trivial
        | localClient p source =>
            refine Prog.calls_run_bind (Prog.calls_run_attempt (hmember _ _ _)) fun r => ?_
            split
            · exact trivial
            · split <;> exact trivial
        | provisional p owner =>
            refine Prog.calls_run_bind (Prog.calls_run_attempt ?_) fun r => ?_
            · unfold provisionalMember
              split
              · exact hmember _ _ _
              · exact trivial
            · split <;> exact trivial
    · exact trivial
  · exact trivial

theorem not_loginSent_cons {tr : History} (h : ∀ ch body, ¬ LoginSent tr ch body) {op : GatewayOp}
    (hop : op.IsLookup) (c : Choice) (w : World) :
    ∀ ch body, ¬ LoginSent (⟨op, c, w⟩ :: tr) ch body := by
  rintro ch body ⟨c', w', hmem⟩
  rcases List.mem_cons.mp hmem with heq | hmem
  · cases heq
    exact hop
  · exact h ch body ⟨c', w', hmem⟩

/-- Every acceptance of the history is of a login that passed the gate on a ground. -/
def LoginGrounded (env : Env) (w : World) (tenantId : String) (cookie : Option String)
    (tr : History) : Prop :=
  ∀ ch body, LoginSent tr ch body → ∃ loginRequest session subject,
    LoginRequested env tr ch loginRequest ∧ SessionRead env tr cookie session ∧
    sessionSubject session = some subject ∧ LoginGround w tenantId subject loginRequest tr

/-- Every accepted login has a ground. -/
theorem sat_acceptSkippableLogin (env : Env) (cfg : SelfServiceConfig)
    (tenantId challenge : String) (cookie : Option String) (w : World) :
    (acceptSkippableLogin cfg tenantId challenge cookie).run.Sat (gateway env).traced remembering
      (fun _ s => LoginGrounded env w tenantId cookie s.2) (w, []) := by
  have hquiet : ∀ ch body, ¬ LoginSent [] ch body := by
    rintro ch body ⟨c, w, hmem⟩
    cases hmem
  unfold acceptSkippableLogin
  rw [Prog.sat_run_bind, Prog.sat_run_attempt]
  refine sat_remembering_perform.mpr fun c => ?_
  have hlogin : GatewayOp.IsLookup (.hydra (.getLoginRequest challenge)) := trivial
  have hquiet₁ := not_loginSent_cons hquiet hlogin c w
  rcases hrequest : (gateway env (.hydra (.getLoginRequest challenge)) c w).1 with e | loginRequest
  · exact fun ch body h => absurd h (hquiet₁ ch body)
  dsimp only
  rcases cookie with _ | cookie
  · exact fun ch body h => absurd h (hquiet₁ ch body)
  dsimp only
  rw [gateway_of_isRead hlogin.isRead, Prog.sat_run_bind, Prog.sat_run_attempt]
  refine sat_remembering_perform.mpr fun c' => ?_
  have hread : GatewayOp.IsLookup (.kratos (.toSession (some cookie))) := trivial
  have hquiet₂ := not_loginSent_cons hquiet₁ hread c' w
  rcases hsession : (gateway env (.kratos (.toSession (some cookie))) c' w).1 with e | session
  · exact fun ch body h => absurd h (hquiet₂ ch body)
  dsimp only
  rw [gateway_of_isRead hread.isRead]
  have hrequested : LoginRequested env (⟨.kratos (.toSession (some cookie)), c', w⟩ ::
      ⟨.hydra (.getLoginRequest challenge), c, w⟩ :: []) challenge loginRequest :=
    ⟨c, w, List.mem_cons_of_mem _ List.mem_cons_self, hrequest⟩
  have hsessionRead : SessionRead env (⟨.kratos (.toSession (some cookie)), c', w⟩ ::
      ⟨.hydra (.getLoginRequest challenge), c, w⟩ :: []) (some cookie) session :=
    ⟨c', w, List.mem_cons_self, hsession⟩
  unfold acceptWithSession
  split
  · exact fun ch body h => absurd h (hquiet₂ ch body)
  rename_i subject hsubject
  rw [Prog.sat_run_ite]
  split
  · exact fun ch body h => absurd h (hquiet₂ ch body)
  rw [Prog.sat_run_bind]
  refine (sat_remembering_frame (I := fun s => (∀ ch body, ¬ LoginSent s.2 ch body) ∧
      LoginRequested env s.2 challenge loginRequest ∧ SessionRead env s.2 (some cookie) session)
    (sat_gateLogin tenantId subject loginRequest _) (calls_gateLogin tenantId subject loginRequest)
    (fun op c s hop h => ⟨not_loginSent_cons h.1 hop c s.1, h.2.1.cons, h.2.2.cons⟩)
    ⟨hquiet₂, hrequested, hsessionRead⟩).post ?_
  rintro r s ⟨⟨hw, hground⟩, hquiet, hrequested, hsessionRead⟩
  rcases r with e | verdict
  · exact fun ch body h => absurd h (hquiet ch body)
  have hground := hground verdict rfl
  dsimp only
  rw [Prog.sat_run_bind, Prog.sat_run_orThrow]
  refine sat_remembering_perform.mpr fun c'' => ?_
  -- the acceptance is the only one of the call, and is made for the request that was fetched
  have hsent : LoginGrounded env w tenantId (some cookie) (⟨.hydra (.acceptLoginRequest challenge
      (acceptLoginBody subject session)), c'', s.1⟩ :: s.2) := by
    rintro ch body ⟨c₃, w₃, hmem⟩
    rcases List.mem_cons.mp hmem with heq | hmem
    · cases heq
      exact ⟨loginRequest, session, subject, hrequested.cons, hsessionRead.cons, hsubject,
        hground.cons⟩
    · exact absurd ⟨c₃, w₃, hmem⟩ (hquiet ch body)
  rcases (gateway env (.hydra (.acceptLoginRequest challenge (acceptLoginBody subject session)))
    c'' s.1).1 with e | accept
  · exact hsent
  · refine (Prog.sat_run_bind).mpr ?_
    rw [check, Prog.sat_run_mk]
    rcases loginFlow cfg accept with e | flow
    · exact hsent
    · exact hsent

end login

/-! ## Accepted consents -/

/-- The grounds on which a consent passes the gate: from the authorization `a` to `a'`. -/
def ConsentGround (a a' : Authorization) (tenantId subject : String) (consent : ConsentRequest)
    (tr : History) : Prop :=
  LookupFailed tr ∨ a.MappedNowhere consent.clientId ∨ a.Member tenantId subject consent.clientId ∨
    (consent.skip = false ∧ a.FirstUseEligible tenantId consent.clientId ∧
      a'.Member tenantId subject consent.clientId)

theorem ConsentGround.cons {a a' : Authorization} {tenantId subject : String}
    {consent : ConsentRequest} {tr : History} {ev : Event Gateway Choice World}
    (h : ConsentGround a a' tenantId subject consent tr) :
    ConsentGround a a' tenantId subject consent (ev :: tr) := h.imp_left LookupFailed.cons

/-- A subject's new Kratos mapping is no matter of authorization. -/
theorem Untouched.authorization_eq {w w' : World} (h : Untouched w w') :
    w'.authorization = w.authorization := by
  obtain ⟨htuples, happs, hrows⟩ := h
  unfold World.authorization
  rw [htuples, happs]
  rcases hrows with hrows | ⟨m, hrows, hb, -⟩
  · rw [hrows]
  · rw [hrows, List.filter_cons_of_neg (by simp [hb])]

theorem not_sent_cons {tr : History} (h : ∀ ch body, ¬ Sent tr ch body) {op : GatewayOp}
    (hop : ∀ ch body, op ≠ .hydra (.acceptConsentRequest ch body)) (c : Choice) (w : World) :
    ∀ ch body, ¬ Sent (⟨op, c, w⟩ :: tr) ch body := by
  rintro ch body ⟨c', w', hmem⟩
  rcases List.mem_cons.mp hmem with heq | hmem
  · cases heq
    exact hop ch body rfl
  · exact h ch body ⟨c', w', hmem⟩

section consent

variable {env : Env}

/-- What passes the consent gate has a ground. -/
theorem sat_consentGate_ground (tenantId subject : String) (consent : ConsentRequest)
    (s : World × History) :
    (consentGate tenantId subject consent.clientId consent.skip).run.Sat (gateway env).traced
      remembering (fun r s' => ∀ pass, r = .ok pass →
        ConsentGround s.1.authorization s'.1.authorization tenantId subject consent s'.2) s := by
  -- the gate deletes no mapping
  refine (sat_remembering_frame
    (I := fun s' => ∀ p, s.1.Linked .hydra p consent.clientId →
      s'.1.Linked .hydra p consent.clientId)
    (sat_consentGate env tenantId subject consent.clientId consent.skip s)
    (calls_consentGate (fun _ h => h.isPreparation)
      (fun _ => firstUse_isPreparation tenantId subject) _)
    (fun op c s' hop h p hp => (h p hp).gateway hop.2.2 env c) (fun _ h => h)).post ?_
  rintro r s' ⟨⟨-, -, hfailed⟩ | ⟨member, hmember, hconsent⟩, hlinked⟩ pass hpass
  · exact .inl hfailed
  · rcases hd : gateDecision tenantId member (s.1.resolve env tenantId consent.clientId) with
      _ | ⟨p, rehome⟩ | e
    · rcases ground_of_allow hmember hd with h | h
      · exact .inr (.inl h)
      · exact .inr (.inr (.inl h))
    · obtain ⟨heligible, hlink⟩ := eligible_of_firstUse hd
      rw [hd, Decision.Consent] at hconsent
      split at hconsent
      · rw [hconsent.2] at hpass
        cases hpass
      · rename_i hskip
        rcases hconsent with ⟨-, hgranted⟩ | ⟨⟨e, he⟩, -⟩
        · exact .inr (.inr (.inr ⟨by simpa using hskip, heligible,
            member_of_grantedTo hgranted (hlinked p hlink)⟩))
        · rw [he] at hpass
          cases hpass
    · rw [hd] at hconsent
      rw [hconsent.2] at hpass
      cases hpass

/-- Every consent sent has passed the gate on a ground. -/
theorem sat_finishConsent_ground (cfg : ConsentConfig) (req : AcceptConsentRequest)
    {tenantId challenge : String} {consent : ConsentRequest} (identityId : Option String)
    {subject : String} {a : Authorization} {s : World × History}
    (hvetted : Vetted env req tenantId challenge consent subject s) (hquiet : Quiet s.2)
    (ha : s.1.authorization = a) :
    (finishConsent cfg req tenantId challenge consent identityId subject).run.Sat
      (gateway env).traced remembering
      (fun _ s' => ∀ ch body, Sent s'.2 ch body →
        Vetted env req tenantId ch consent subject s' ∧
          ConsentGround a s'.1.authorization tenantId subject consent s'.2) s := by
  have hlookup : ∀ op : GatewayOp, op.IsLookup → op.IsPreparation := fun _ h => h.isPreparation
  unfold finishConsent
  rw [Prog.sat_run_bind, Prog.sat_run_attempt]
  refine (sat_remembering_frame (I := fun s' => s'.1 = s.1 ∧
      Vetted env req tenantId challenge consent subject s' ∧ ∀ ch body, ¬ Sent s'.2 ch body)
    (sat_remembering_true _) (calls_publicClientId (fun _ h => h) tenantId _) ?_
    ⟨rfl, hvetted, hquiet.1⟩).post ?_
  · rintro op c s' hop ⟨hw, hv, hq⟩
    have hop' := hop.isPreparation
    exact ⟨(gateway_of_isRead hop.isRead env c s'.1).trans hw, hv.step hop'.2.2 c,
      not_sent_cons hq hop'.1 c s'.1⟩
  rintro app s₁ ⟨-, hw, hv, hq⟩
  dsimp only
  rw [Prog.sat_run_bind]
  refine (sat_remembering_frame (I := fun s' =>
      Vetted env req tenantId challenge consent subject s' ∧ ∀ ch body, ¬ Sent s'.2 ch body)
    (sat_consentGate_ground tenantId subject consent s₁)
    (calls_consentGate hlookup (fun _ => firstUse_isPreparation tenantId subject) _)
    (fun op c s' hop h => ⟨h.1.step hop.2.2 c, not_sent_cons h.2 hop.1 c s'.1⟩) ⟨hv, hq⟩).post ?_
  rintro r s₂ ⟨hground, hv, hq⟩
  rcases r with e | pass
  · exact fun ch body hsent => absurd hsent (hq ch body)
  have hground := hground pass rfl
  rw [hw, ha] at hground
  -- what is left only reads, up to the acceptance
  have hkeep : ∀ op c (s' : World × History), op.IsRead →
      (Vetted env req tenantId challenge consent subject s' ∧ (∀ ch body, ¬ Sent s'.2 ch body) ∧
        ConsentGround a s'.1.authorization tenantId subject consent s'.2) →
      Vetted env req tenantId challenge consent subject
          ((gateway env op c s'.1).2, ⟨op, c, s'.1⟩ :: s'.2) ∧
        (∀ ch body, ¬ Sent (⟨op, c, s'.1⟩ :: s'.2) ch body) ∧
        ConsentGround a (gateway env op c s'.1).2.authorization tenantId subject consent
          (⟨op, c, s'.1⟩ :: s'.2) := by
    rintro op c s' hop ⟨hv, hq, hg⟩
    refine ⟨hv.step ?_ c, not_sent_cons hq ?_ c s'.1, ?_⟩
    · rintro t b p rfl
      exact hop
    · rintro ch body rfl
      exact hop
    · rw [gateway_of_isRead hop]
      exact hg.cons
  dsimp only
  rw [Prog.sat_run_bind, Prog.sat_run_attempt]
  refine (sat_remembering_frame (sat_remembering_true _)
    (calls_stampIdentity (fun _ h => h.isRead) cfg tenantId consent identityId _) hkeep
    ⟨hv, hq, hground⟩).post ?_
  rintro base s₃ ⟨-, h₃⟩
  dsimp only
  rw [Prog.sat_run_bind, Prog.sat_run_attempt]
  refine (sat_remembering_frame (sat_remembering_true _)
    (calls_stampEntitlements (fun _ _ _ => trivial) pass subject app base) hkeep h₃).post ?_
  rintro body s₄ ⟨-, hv, hq, hground⟩
  dsimp only
  rw [Prog.sat_run_orThrow]
  refine sat_remembering_perform.mpr fun c => ?_
  rintro ch b ⟨c', w', hmem⟩
  rcases List.mem_cons.mp hmem with heq | hmem
  · cases heq
    exact ⟨hv.step (by simp) c, hground.cons⟩
  · exact absurd ⟨c', w', hmem⟩ (hq ch b)

/-- Every accepted consent has a ground. -/
theorem sat_acceptConsent_ground (env : Env) (cfg : ConsentConfig) (ctx : RequestContext)
    (req : AcceptConsentRequest) (w : World) :
    (acceptConsent cfg ctx req).run.Sat (gateway env).traced remembering
      (fun _ s => ∀ ch body, Sent s.2 ch body → ∃ tenantId consent subject,
        requireTenant ctx = .ok tenantId ∧ Vetted env req tenantId ch consent subject s ∧
        ConsentGround w.authorization s.1.authorization tenantId subject consent s.2) (w, []) := by
  unfold acceptConsent
  rw [Prog.sat_run_bind]
  refine (sat_fetchConsent ctx req quiet_nil).post fun r s₁ ⟨hf, hw, hq⟩ => ?_
  rcases r with e | ⟨tenantId, challenge, consent⟩
  · exact fun ch body hsent => absurd hsent (hq.1 ch body)
  obtain ⟨htenant, hfetched⟩ := hf _ rfl
  dsimp only
  rw [Prog.sat_run_bind]
  refine (sat_vetConsent ctx req tenantId challenge consent hfetched hq).post
    fun r s₂ ⟨⟨huntouched, hvetted⟩, hq⟩ => ?_
  rw [hw] at huntouched
  rcases r with e | ⟨identityId, subject⟩
  · exact fun ch body hsent => absurd hsent (hq.1 ch body)
  refine (sat_finishConsent_ground cfg req identityId (hvetted _ rfl) hq
    huntouched.authorization_eq).post fun r s₃ hsent => ?_
  intro ch body h
  obtain ⟨hv, hground⟩ := hsent ch body h
  exact ⟨tenantId, consent, subject, htenant, hv, hground⟩

end consent

/-! ## Both gates -/

/-- **No acceptance without a ground.** Whatever the tables, the tuples and the faults: a login is
accepted with Hydra only if its request names no client, or the client is mapped nowhere, or the
subject is a member of it in the owner's store (and the client the tenant's or open to others), or
its first use is left to the consent, or a lookup of the client failed. A consent is accepted only
if the client is mapped nowhere, or the subject is such a member, or an interactive first use has
just made them one, or a lookup of the client failed. -/
theorem gates_forward_only (env : Env) :
    (∀ cfg tenantId challenge cookie o w, LoginGrounded env w tenantId cookie
      ((acceptSkippableLogin cfg tenantId challenge cookie).run.events (gateway env) o w).reverse) ∧
    ∀ cfg ctx req o w,
      let p := (acceptConsent cfg ctx req).run
      let history := (p.events (gateway env) o w).reverse
      let w' := (p.run (gateway env) o w).2
      ∀ challenge body, Sent history challenge body → ∃ tenantId consent subject,
        requireTenant ctx = .ok tenantId ∧ Fetched env history challenge consent ∧
        w'.PublicIdOf .kratos consent.subject subject ∧
        ConsentGround w.authorization w'.authorization tenantId subject consent history := by
  refine ⟨fun cfg tenantId challenge cookie o w => ?_, fun cfg ctx req o w => ?_⟩
  · exact run_of_remembering (sat_acceptSkippableLogin env cfg tenantId challenge cookie w) o
  · intro p history w' challenge body hsent
    obtain ⟨tenantId, consent, subject, htenant, hvetted, hground⟩ :=
      run_of_remembering (sat_acceptConsent_ground env cfg ctx req w) o challenge body hsent
    exact ⟨tenantId, consent, subject, htenant, hvetted.fetched, hvetted.subject, hground⟩

/-- An application an admin registered, and a user nobody has granted it. -/
def ungrantedWorld : World :=
  { World.empty [] with
    db := { revokedDb with
      applications := [⟨"acme", "app", false, .admin⟩]
      applicationKey := by decide
      applicationMapping := by decide
      applicationTenant := by decide }
    hydra := ⟨[], [], [("challenge", .obj [("client", .obj [("client_id", .str "client")])])]⟩
    kratos := ⟨[], [("cookie", .obj [("identity", .obj [("id", .str "ory-alice")])])]⟩ }

/-- Choices under which the third call, the first lookup of the client, fails. -/
def lookupFailure (n : ℕ) : Choice :=
  if n = 2 then { smooth n with fault := fun _ => some ⟨false, .http "connection reset"⟩ }
  else smooth n

/-- The user's login is accepted after a failed lookup, although the client is mapped, the user is
no member of it, and it is not up for a first use. -/
theorem loginGate_fails_open :
    (((acceptSkippableLogin ⟨"", ""⟩ "acme" "challenge" (some "cookie")).run.events
        (gateway Env.firstRow) lookupFailure ungrantedWorld).filterMap fun ev => match ev.op with
      | .hydra (.acceptLoginRequest challenge _) => some challenge
      | _ => none) = ["challenge"] ∧
    ¬ ungrantedWorld.authorization.MappedNowhere "client" ∧
    (∀ subject, ¬ ungrantedWorld.authorization.Member "acme" subject "client") ∧
    ¬ ungrantedWorld.authorization.FirstUseEligible "acme" "client" := by
  refine ⟨by decide, by decide, fun subject => ?_, by decide⟩
  exact Authorization.not_member_of_tuples_eq_nil rfl "acme" subject "client"

end SsoGateway
