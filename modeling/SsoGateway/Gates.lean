import SsoGateway.GatePolicy
import SsoGateway.ScopeCeiling

/-!
# The login gate and the consent gate

The two gates as whole programs, from the resolution of the client to the verdict.

* `sat_loginGate`, `sat_consentGate` — the gates follow the policy on what the resolution finds, and
  let pass where a lookup of the client fails.
* `gates_agree` — without faults the gates refuse the same users, and what the login gate leaves to
  the consent is granted there.
-/

namespace SsoGateway

open Lib

/-! ## What the gates answer -/

/-- The subject the login gate checks: the public id, or the raw id where the lookup yields none. -/
def SubjectAnswer (w : World) (tenantId subject : String) (tr : History) (i : String) : Prop :=
  (∃ m, w.db.findMapping tenantId .kratos subject = some m ∧ i = m.publicId) ∨
    (i = subject ∧ (w.db.findMapping tenantId .kratos subject = none ∨ Faulted tr))

theorem SubjectAnswer.cons {w : World} {tenantId subject i : String} {tr : History}
    {ev : Event Gateway Choice World} (h : SubjectAnswer w tenantId subject tr i) :
    SubjectAnswer w tenantId subject (ev :: tr) i :=
  h.imp_right fun ⟨hi, h⟩ => ⟨hi, h.imp_right Faulted.cons⟩

section answers

variable {env : Env}

theorem sat_loginSubject (tenantId subject : String) (s : World × History) :
    (loginSubject tenantId subject).Sat (gateway env).traced remembering
      (fun i s' => s'.1 = s.1 ∧ SubjectAnswer s.1 tenantId subject s'.2 i) s := by
  unfold loginSubject
  rw [Prog.sat_bind]
  refine sat_remembering_perform.mpr fun c => ?_
  simp only [gateway, mappingHandler]
  rcases s.1.db.read_cases c (orNotFound .mappingNotFound (·.publicId)
    (s.1.db.findMapping tenantId .kratos subject)) with h | ⟨e, hfault, h⟩
  · rw [h]
    unfold SubjectAnswer
    rcases s.1.db.findMapping tenantId .kratos subject with _ | m
    · exact ⟨rfl, .inr ⟨rfl, .inl rfl⟩⟩
    · exact ⟨rfl, .inl ⟨m, rfl, rfl⟩⟩
  · rw [h]
    exact ⟨rfl, .inr ⟨rfl, .inr (faulted_of_isSome hfault)⟩⟩

variable (env) in
/-- The login gate: it lets pass where a lookup of the client failed, and follows the policy
otherwise. -/
theorem sat_loginGate (tenantId subject cid : String) (s : World × History) :
    (loginGate tenantId subject cid).run.Sat (gateway env).traced remembering
      (fun r s' => s'.1 = s.1 ∧ ((r = .ok .passed ∧ LookupFailed s'.2) ∨
        ∃ i member, SubjectAnswer s.1 tenantId subject s'.2 i ∧
          MemberAnswer env s.1 tenantId i (s.1.resolve env tenantId cid) s'.2 member ∧
          r = (gateDecision tenantId member (s.1.resolve env tenantId cid)).login)) s := by
  unfold loginGate
  rw [Prog.sat_run_bind, Prog.sat_run_attempt]
  refine (sat_resolveClientEntitlement tenantId cid s).post ?_
  rintro r s₁ ⟨hw₁, rfl | ⟨⟨e, rfl⟩, hfailed⟩⟩
  · dsimp only
    rw [Prog.sat_run_bind, Prog.sat_run_attempt]
    refine (sat_loginSubject tenantId subject s₁).post ?_
    rintro i s₂ ⟨hw₂, hsubject⟩
    refine (sat_remembering_frame (I := fun s' => SubjectAnswer s₁.1 tenantId subject s'.2 i)
      (sat_loginGateOn tenantId i _ s₂) (Prog.calls_true _)
      (fun _ _ _ _ h => h.cons) hsubject).post ?_
    rintro r s₃ ⟨⟨hw₃, member, hmember, hr⟩, hsubject⟩
    rw [hw₂, hw₁] at hmember
    rw [hw₁] at hsubject
    exact ⟨hw₃.trans (hw₂.trans hw₁), .inr ⟨i, member, hsubject, hmember, hr⟩⟩
  · exact ⟨hw₁, .inl ⟨rfl, hfailed⟩⟩

variable (env) in
/-- The consent gate: the same. -/
theorem sat_consentGate (tenantId subject cid : String) (skip : Bool) (s : World × History) :
    (consentGate tenantId subject cid skip).run.Sat (gateway env).traced remembering
      (fun r s' => (s'.1 = s.1 ∧ (∃ pass, r = .ok pass) ∧ LookupFailed s'.2) ∨
        ∃ member, MemberAnswer env s.1 tenantId subject (s.1.resolve env tenantId cid) s'.2 member ∧
          (gateDecision tenantId member (s.1.resolve env tenantId cid)).Consent skip tenantId
            subject s.1 r s') s := by
  unfold consentGate
  rw [Prog.sat_run_bind, Prog.sat_run_attempt]
  refine (sat_resolveClientEntitlement tenantId cid s).post ?_
  rintro r s₁ ⟨hw, rfl | ⟨⟨e, rfl⟩, hfailed⟩⟩
  · refine (sat_consentGateOn tenantId subject skip _ s₁).post ?_
    rintro r s₂ ⟨member, hmember, hconsent⟩
    rw [hw] at hmember hconsent
    exact .inr ⟨member, hmember, hconsent⟩
  · exact .inl ⟨hw, ⟨_, rfl⟩, hfailed⟩

end answers

/-! ## The gates agree -/

/-- What the policy leaves to the first use can be claimed by a tenant that exists. -/
theorem claimable_of_firstUse {env : Env} {w : World} {tenantId cid p : String}
    {member rehome : Bool}
    (h : gateDecision tenantId member (w.resolve env tenantId cid) = .firstUse p rehome)
    (htenant : w.db.HasTenant tenantId) :
    Claimable w tenantId p rehome ∧ w.Linked .hydra p cid := by
  have hres := w.resolved env tenantId cid
  generalize w.resolve env tenantId cid = res at h hres
  cases hres with
  | unmapped => cases h
  | crossTenantOwned hm hb hi hrow hp ht =>
      simp only [gateDecision] at h
      split at h
      · cases h
      · split at h <;> cases h
  | @localClient m row hm hb hi hrow hp ht =>
      simp only [gateDecision] at h
      split at h
      · cases h
      · split at h
        · cases h
          refine ⟨⟨⟨htenant, ⟨m, hm, rfl⟩, fun a ha hap => ?_⟩, by simp⟩, m, hm, hb, rfl, hi⟩
          rw [Db.application_unique ha hrow (hap.trans hp.symm), ht]
        · cases h
  | @provisional m owner hm hb hi hfree howner =>
      simp only [gateDecision] at h
      split at h
      · cases h
      · cases h
        refine ⟨⟨⟨htenant, ⟨m, hm, rfl⟩, fun a ha hap => absurd hap (hfree a ha)⟩, ?_⟩,
          m, hm, hb, rfl, hi⟩
        intro hrehome
        have hother : owner ≠ tenantId := by simpa using hrehome
        rcases howner with ⟨hsame, -⟩ | ⟨-, hnone⟩
        · exact absurd hsame hother
        · refine Db.exists_updateTenant ⟨m, hm, hb, rfl⟩ ?_ htenant
          intro m₁ hm₁ hb₁ hp₁ m' hm'
          have hsame : m₁ = m := Db.mapping_unique hm₁ hm (.inl hp₁)
          rw [hsame, hi]
          exact hnone m' hm'

/-- Without faults a gate works with the membership the tuples have. -/
theorem MemberAnswer.eq_of_not_faulted {env : Env} {w : World} {tenantId subject : String}
    {res : ClientEntitlement} {tr : History} {member : Bool}
    (h : MemberAnswer env w tenantId subject res tr member) (hfree : ¬ Faulted tr) :
    member = memberChecked env w tenantId subject res := by
  rcases h with h | ⟨-, hfault⟩
  · exact h
  · exact absurd hfault hfree

/-- The login gate of a mapped subject, without faults. -/
theorem loginGate_eq {env : Env} {w : World} {tenantId subject cid : String} {m : IdMappingRow}
    (hm : w.db.findMapping tenantId .kratos subject = some m) {o : ℕ → Choice}
    (ho : ∀ n, (o n).FaultFree) :
    ((loginGate tenantId subject cid).run.run (gateway env) o w).1 =
      (gateDecision tenantId (memberChecked env w tenantId m.publicId
        (w.resolve env tenantId cid)) (w.resolve env tenantId cid)).login := by
  have hfree := not_faulted_events env (loginGate tenantId subject cid).run ho w
  obtain ⟨-, ⟨-, hfailed⟩ | ⟨i, member, hsubject, hmember, hr⟩⟩ :=
    run_of_remembering (sat_loginGate env tenantId subject cid (w, [])) o
  · exact absurd hfailed.faulted hfree
  · have hi : i = m.publicId := by
      rcases hsubject with ⟨m', hm', hi⟩ | ⟨-, hnone | hfault⟩
      · rw [hm] at hm'
        cases hm'
        exact hi
      · rw [hm] at hnone
        cases hnone
      · exact absurd hfault hfree
    rw [hr, hmember.eq_of_not_faulted hfree, hi]

/-- The consent gate, without faults. -/
theorem consentGate_eq (env : Env) (w : World) (tenantId subject cid : String) (skip : Bool)
    {o : ℕ → Choice} (ho : ∀ n, (o n).FaultFree) :
    let p := (consentGate tenantId subject cid skip).run
    (gateDecision tenantId (memberChecked env w tenantId subject (w.resolve env tenantId cid))
      (w.resolve env tenantId cid)).Consent skip tenantId subject w (p.run (gateway env) o w).1
      ((p.run (gateway env) o w).2, (p.events (gateway env) o w).reverse) := by
  intro p
  have hfree := not_faulted_events env p ho w
  have hspec := run_of_remembering (sat_consentGate env tenantId subject cid skip (w, [])) o
  rcases hspec with ⟨-, -, hfailed⟩ | ⟨member, hmember, hconsent⟩
  · exact absurd hfailed.faulted hfree
  · rw [hmember.eq_of_not_faulted hfree] at hconsent
    exact hconsent

/-- **The gates agree.** For a subject mapped in the tenant and any client, where no lookup fails:
the login gate refuses exactly who an interactive consent refuses; and whom it defers to the consent
(a client eligible for first use, no member yet) a remembered consent refuses, while an interactive
one makes them a member of the client in the tenant. -/
theorem gates_agree (env : Env) (w : World) (tenantId subject cid : String) {m : IdMappingRow}
    (hm : w.db.findMapping tenantId .kratos subject = some m) {oLogin oConsent oSkipped : ℕ → Choice}
    (hLogin : ∀ n, (oLogin n).FaultFree) (hConsent : ∀ n, (oConsent n).FaultFree)
    (hSkipped : ∀ n, (oSkipped n).FaultFree) :
    let login := (loginGate tenantId subject cid).run.run (gateway env) oLogin w
    let consent := (consentGate tenantId m.publicId cid false).run.run (gateway env) oConsent w
    let skipped := (consentGate tenantId m.publicId cid true).run.run (gateway env) oSkipped w
    ((∃ e, login.1 = .error e) ↔ ∃ e, consent.1 = .error e) ∧
      (login.1 = .ok .deferred ↔ (w.resolve env tenantId cid).isFirstUseEligible = true ∧
        memberChecked env w tenantId m.publicId (w.resolve env tenantId cid) = false) ∧
      (login.1 = .ok .deferred → (∃ e, skipped.1 = .error e) ∧ (∃ pass, consent.1 = .ok pass) ∧
        ∃ p, w.Linked .hydra p cid ∧ GrantedTo consent.2 tenantId m.publicId p) := by
  intro login consent skipped
  have htenant : w.db.HasTenant tenantId := by
    have hmatch := List.find?_some hm
    simp only [decide_eq_true_eq] at hmatch
    rw [← hmatch.1]
    exact w.db.mappingTenant m (List.mem_of_find?_eq_some hm)
  have hlogin : login.1 = _ := loginGate_eq hm hLogin
  have hconsent := consentGate_eq env w tenantId m.publicId cid false hConsent
  have hskipped := consentGate_eq env w tenantId m.publicId cid true hSkipped
  have hfree := not_faulted_events env (consentGate tenantId m.publicId cid false).run hConsent w
  have hfirst := gateDecision_firstUse_iff tenantId (memberChecked env w tenantId m.publicId
    (w.resolve env tenantId cid)) (w.resolve env tenantId cid)
  rcases hd : gateDecision tenantId (memberChecked env w tenantId m.publicId
    (w.resolve env tenantId cid)) (w.resolve env tenantId cid) with _ | ⟨p, rehome⟩ | e
  · -- admitted by both
    rw [hd] at hlogin hconsent hfirst
    obtain ⟨-, pass, hpass⟩ := hconsent
    have hpassed : login.1 = .ok .passed := hlogin
    refine ⟨⟨?_, ?_⟩, ?_, ?_⟩
    · rintro ⟨e, he⟩
      rw [hpassed] at he
      cases he
    · rintro ⟨e, he⟩
      rw [hpass] at he
      cases he
    · rw [hpassed, ← hfirst]
      simp
    · intro h
      rw [hpassed] at h
      cases h
  · -- left to the first use
    rw [hd] at hlogin hconsent hskipped hfirst
    have hdeferred : login.1 = .ok .deferred := hlogin
    obtain ⟨hclaim, hlinked⟩ := claimable_of_firstUse hd htenant
    rcases hconsent with ⟨⟨pass, hpass⟩, hgranted⟩ | ⟨-, hfault⟩
    · refine ⟨⟨?_, ?_⟩, ?_, fun _ => ?_⟩
      · rintro ⟨e, he⟩
        rw [hdeferred] at he
        cases he
      · rintro ⟨e, he⟩
        rw [hpass] at he
        cases he
      · exact ⟨fun _ => hfirst.mp ⟨p, rehome, rfl⟩, fun _ => hdeferred⟩
      · exact ⟨⟨_, hskipped.2⟩, ⟨pass, hpass⟩, p, hlinked, hgranted⟩
    · exact absurd (hfault hclaim) hfree
  · -- refused by both
    rw [hd] at hlogin hconsent hfirst
    have hrefused : login.1 = .error e := hlogin
    refine ⟨⟨fun _ => ⟨e, hconsent.2⟩, fun _ => ⟨e, hrefused⟩⟩, ?_, ?_⟩
    · rw [hrefused, ← hfirst]
      simp
    · intro h
      rw [hrefused] at h
      cases h

/-- A client that nobody has consented to yet: its mapping is the system tenant's and it has no row.
The user is known to the tenant `acme`. -/
def provisionalDb : Db where
  tenants := [⟨"system"⟩, ⟨"acme"⟩, ⟨"globex"⟩]
  idMappings := [⟨"system", .hydra, "app", "client", 0⟩,
    ⟨"acme", .kratos, "alice", "ory-alice", 0⟩, ⟨"globex", .kratos, "bob", "ory-bob", 0⟩]
  applications := []
  agents := []
  mappingKeys := by decide
  mappingTenant := by decide
  applicationKey := Db.noApplications_key
  applicationMapping := by decide
  applicationTenant := by decide
  agentKey := Db.noAgents_key
  agentTenant := by decide

/-- The world of that client. -/
def provisionalWorld : World := { World.empty [] with db := provisionalDb }

/-- Alice's login with it is deferred, her remembered consent refused, her interactive one granted. -/
theorem gates_agree_provisional :
    ((loginGate "acme" "ory-alice" "client").run.run (gateway Env.firstRow) smooth
        provisionalWorld).1 = .ok .deferred ∧
      (∃ e, ((consentGate "acme" "alice" "client" true).run.run (gateway Env.firstRow) smooth
        provisionalWorld).1 = .error e) ∧
      ∃ pass, ((consentGate "acme" "alice" "client" false).run.run (gateway Env.firstRow) smooth
        provisionalWorld).1 = .ok pass := by
  have hsmooth : ∀ n, (smooth n).FaultFree := fun _ _ => rfl
  have hm : provisionalWorld.db.findMapping "acme" .kratos "ory-alice" =
      some ⟨"acme", .kratos, "alice", "ory-alice", 0⟩ := by decide
  have hdeferred : ((loginGate "acme" "ory-alice" "client").run.run (gateway Env.firstRow) smooth
      provisionalWorld).1 = .ok .deferred := rfl
  obtain ⟨-, -, h⟩ := gates_agree Env.firstRow provisionalWorld "acme" "ory-alice" "client" hm
    hsmooth hsmooth hsmooth
  obtain ⟨hskipped, hconsent, -⟩ := h hdeferred
  exact ⟨hdeferred, hskipped, hconsent⟩

end SsoGateway
