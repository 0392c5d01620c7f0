import SsoGateway.ConsentCalls

/-!
# A remembered consent changes no authorization

A consent that Hydra remembers (`skip = true`) is accepted without asking the user again. Whatever
such a call does and however it ends, the entitlement tuples, the `applications` rows and the
Hydra rows of `id_mappings` stay as they are, so a revoked user does not come back through it.

* `World.authorization` — that part of the world.
* `GatewayOp.KeepsAuthorization` — the calls that leave it alone (`authorization_gateway`).
* `acceptAll_skipped_authorization` — a sequence of skipped consents leaves it alone.
-/

namespace SsoGateway

open Lib

/-- The state that authorization decisions rest on. -/
structure Authorization where
  tuples : List StoredTuple
  applications : List ApplicationRow
  hydraMappings : List IdMappingRow
deriving DecidableEq, Repr

/-- The authorization state of a world. -/
def World.authorization (w : World) : Authorization where
  tuples := w.tuples
  applications := w.db.applications
  hydraMappings := w.db.idMappings.filter fun m => m.backend = .hydra

/-- The calls that leave the authorization state alone: reads, answers to Hydra, and new mappings of
other backends. -/
def GatewayOp.KeepsAuthorization : GatewayOp → Prop
  | .mapping (.create _ b _ _) => b ≠ .hydra
  | .hydra _ => True
  | op => op.IsRead

theorem GatewayOp.IsRead.keepsAuthorization {op : GatewayOp} (hop : op.IsRead) :
    op.KeepsAuthorization := by
  unfold KeepsAuthorization
  split
  · exact hop.elim
  · trivial
  · exact hop

theorem authorization_gateway {op : GatewayOp} (hop : op.KeepsAuthorization) (env : Env)
    (c : Choice) (w : World) : (gateway env op c w).2.authorization = w.authorization := by
  unfold GatewayOp.KeepsAuthorization at hop
  split at hop
  · rename_i t b p o
    have hstep := gateway_step env c w (.mapping (.create t b p o))
    generalize (gateway env (.mapping (.create t b p o)) c w).2 = w' at hstep ⊢
    cases hstep with
    | same => rfl
    | insertMapping hop' h =>
        cases hop'
        obtain ⟨hrows, happs, -⟩ := Db.insertMapping_ok h
        simp [World.authorization, hrows, happs, hop]
    | _ hop' => cases hop'
  · rfl
  · rw [gateway_of_isRead hop]

/-! ## Skipped consents -/

/-- Hydra's consent request, where the call fetches one, says `skip = true`. -/
def SkipAnswered (env : Env) : GatewayOp → Choice → World → Prop
  | .hydra (.getConsentRequest challenge), c, w =>
      ∀ document, (gateway env (.hydra (.getConsentRequest challenge)) c w).1 = .ok document →
        (oryConsentRequestToProto document).skip = true
  | _, _, _ => True

/-- The contract of a skipped consent. -/
def skippedConsent (env : Env) : Contract Gateway Choice World :=
  Contract.alone (SkipAnswered env) fun op _ _ => op.KeepsAuthorization

theorem sat_of_calls {env : Env} {α : Type} {p : Prog Gateway α} {Q : α → World → Prop}
    (hp : p.Calls GatewayOp.KeepsAuthorization) (hQ : ∀ a w, Q a w) (w : World) :
    p.Sat (gateway env) (skippedConsent env) Q w :=
  (hp.sat (I := fun _ => True) (fun _ _ _ _ => trivial)
    (fun _ _ _ hop _ _ => ⟨hop, trivial⟩) trivial).post fun a w _ => hQ a w

/-- Fetching the consent reads; under the contract, what it yields says `skip`. -/
theorem sat_fetchConsent_skipped (env : Env) (ctx : RequestContext) (req : AcceptConsentRequest)
    (w : World) :
    (fetchConsent ctx req).run.Sat (gateway env) (skippedConsent env)
      (fun r _ => ∀ t ch consent, r = .ok (t, ch, consent) → consent.skip = true) w := by
  have hread : ∀ op : GatewayOp, op.IsLookup → op.KeepsAuthorization :=
    fun _ h => h.isRead.keepsAuthorization
  unfold fetchConsent
  rw [Prog.sat_run_bind]
  refine sat_of_calls (calls_check _) (fun r w => ?_) w
  rcases r with e | _
  · simp
  dsimp only
  rw [Prog.sat_run_bind]
  refine sat_of_calls (calls_check _) (fun r w => ?_) w
  rcases r with e | tenantId
  · simp
  dsimp only
  rw [Prog.sat_run_bind]
  refine sat_of_calls (calls_oryChallenge hread tenantId _) (fun r w => ?_) w
  rcases r with e | challenge
  · simp
  dsimp only
  rw [Prog.sat_run_bind, Prog.sat_run_orThrow]
  rintro w' - c hskip
  refine ⟨trivial, ?_⟩
  rcases hdoc : (gateway env (.hydra (.getConsentRequest challenge)) c w').1 with e | document
  · rintro t ch consent h
    cases h
  · rintro t ch consent h
    cases h
    exact hskip document hdoc

/-- No call of a skipped acceptance writes authorization state. -/
theorem sat_acceptConsent_skipped (env : Env) (cfg : ConsentConfig) (ctx : RequestContext)
    (req : AcceptConsentRequest) (w : World) :
    (acceptConsent cfg ctx req).run.Sat (gateway env) (skippedConsent env) (fun _ _ => True) w := by
  have hread : ∀ op : GatewayOp, op.IsLookup → op.KeepsAuthorization :=
    fun _ h => h.isRead.keepsAuthorization
  unfold acceptConsent
  rw [Prog.sat_run_bind]
  refine (sat_fetchConsent_skipped env ctx req w).post fun r w hr => ?_
  rcases r with e | ⟨tenantId, challenge, consent⟩
  · trivial
  have hskip := hr tenantId challenge consent rfl
  refine sat_of_calls ?_ (fun _ _ => trivial) _
  refine Prog.calls_run_bind
    (calls_vetConsent hread (fun _ => Backend.noConfusion) (fun _ => trivial) ctx req) fun v => ?_
  refine calls_finishConsent hread (fun _ _ _ => trivial) (fun _ => trivial) (fun h => ?_) cfg req v.1
  rw [hskip] at h
  cases h

/-- Consents accepted one after another, whatever becomes of each. -/
def acceptAll (cfg : ConsentConfig) :
    List (RequestContext × AcceptConsentRequest) → Prog Gateway Unit
  | [] => return ()
  | (ctx, req) :: calls => do
      let _ ← (acceptConsent cfg ctx req).run
      acceptAll cfg calls

theorem sat_acceptAll_skipped (env : Env) (cfg : ConsentConfig)
    (calls : List (RequestContext × AcceptConsentRequest)) (w : World) :
    (acceptAll cfg calls).Sat (gateway env) (skippedConsent env) (fun _ _ => True) w := by
  induction calls generalizing w with
  | nil => trivial
  | cons call calls ih =>
      obtain ⟨ctx, req⟩ := call
      rw [acceptAll, Prog.sat_bind]
      exact (sat_acceptConsent_skipped env cfg ctx req w).post fun _ w _ => ih w

/-- **A remembered consent changes no authorization.** Whatever the faults and results of a
sequence of acceptances whose consent requests all say `skip = true`, the tuples of every tenant,
the `applications` rows and the Hydra mappings are afterwards what they were before, and every
user holds exactly what they held before. -/
theorem acceptAll_skipped_authorization (env : Env) (cfg : ConsentConfig)
    (calls : List (RequestContext × AcceptConsentRequest)) (o : ℕ → Choice) (w : World)
    (hskip : ∀ ev ∈ (acceptAll cfg calls).events (gateway env) o w,
      SkipAnswered env ev.op ev.choice ev.before) :
    ((acceptAll cfg calls).run (gateway env) o w).2.authorization = w.authorization ∧
      ∀ t app relation identity,
        Holds ((acceptAll cfg calls).run (gateway env) o w).2.tuples t entitlementNamespace app
            relation identity ↔
          Holds w.tuples t entitlementNamespace app relation identity := by
  have hsame : ((acceptAll cfg calls).run (gateway env) o w).2.authorization = w.authorization :=
    (sat_acceptAll_skipped env cfg calls w).run_invariant
      (I := fun w' => w'.authorization = w.authorization) (fun _ => rfl)
      (fun op c w' _ hop hw' => (authorization_gateway hop env c w').trans hw') hskip rfl
  refine ⟨hsame, fun t app relation identity => ?_⟩
  have htuples : ((acceptAll cfg calls).run (gateway env) o w).2.tuples = w.tuples :=
    congrArg Authorization.tuples hsame
  rw [htuples]

/-! ## When requests say `skip` -/

theorem consentRequests_gateway (env : Env) (op : GatewayOp) (c : Choice) (w : World) :
    (gateway env op c w).2.hydra.consentRequests = w.hydra.consentRequests := by
  have hstep := gateway_step env c w op
  generalize (gateway env op c w).2 = w' at hstep ⊢
  cases hstep with
  | @hydra o hop =>
      have hory : ∀ {α : Type} (r : Except OryClientError α × Hydra),
          r.2.consentRequests = w.hydra.consentRequests →
            (oryAnswer w.hydra c r).2.consentRequests = w.hydra.consentRequests := by
        intro α r hr
        rcases Fault.answer_snd (c.fault 0) with h | h
        · exact congrArg Hydra.consentRequests h
        · exact (congrArg Hydra.consentRequests h).trans hr
      cases o with
      | createOauth2Client payload | updateOauth2Client i payload | deleteOauth2Client i =>
          refine hory _ ?_
          split <;> rfl
      | _ => exact hory _ rfl
  | _ => rfl

/-- Every run fetches the consent requests of its first world. -/
theorem skipAnswered_of_requests {α : Type} (env : Env) (p : Prog Gateway α) (o : ℕ → Choice)
    (w : World) (hskip : ∀ challenge document,
      w.hydra.consentRequests.lookup challenge = some document →
        (oryConsentRequestToProto document).skip = true) :
    ∀ ev ∈ p.events (gateway env) o w, SkipAnswered env ev.op ev.choice ev.before := by
  induction p generalizing o w with
  | pure a => exact fun ev hev => absurd hev List.not_mem_nil
  | call op k ih =>
      intro ev hev
      rcases List.mem_cons.mp hev with rfl | hev
      · unfold SkipAnswered
        split
        · intro document hdoc
          exact hskip _ document (gateway_getConsentRequest_ok env _ _ hdoc)
        · trivial
      · exact ih _ _ _ (fun ch doc h => hskip ch doc (by rwa [consentRequests_gateway] at h)) ev hev

/-! ## A revoked user

A dynamically registered client of the tenant `acme` whose only user was revoked, and a consent of
that user that Hydra remembers. -/

/-- The tables: the client with its row, and the user; no tuple is left. -/
def revokedDb : Db where
  tenants := [⟨"system"⟩, ⟨"acme"⟩]
  idMappings := [⟨"acme", .hydra, "app", "client", 0⟩, ⟨"acme", .kratos, "alice", "ory-alice", 0⟩]
  applications := [⟨"acme", "app", false, .dcr⟩]
  agents := []
  mappingKeys := by decide
  mappingTenant := by decide
  applicationKey := by decide
  applicationMapping := by decide
  applicationTenant := by decide
  agentKey := Db.noAgents_key
  agentTenant := by decide

/-- The remembered consent request. -/
def rememberedRequest : Value :=
  .obj [("client", .obj [("client_id", .str "client")]), ("subject", .str "ory-alice"),
    ("skip", .bool true), ("requested_scope", .arr [.str "openid"])]

/-- The world of the revoked user. -/
def revokedWorld : World :=
  { World.empty [] with
    db := revokedDb
    hydra := ⟨[], [("challenge", rememberedRequest)], []⟩ }

/-- The tenant's admin, who runs the consent app. -/
def acmeAdmin : RequestContext :=
  ⟨some "acme", some ⟨"acme", "admin", .client, [scopeTenantAdmin]⟩⟩

/-- The acceptance of the remembered consent. -/
def rememberedAcceptance : AcceptConsentRequest := ⟨"challenge", ["openid"], [], true, 0, none⟩

theorem revokedWorld_skip : ∀ challenge document,
    revokedWorld.hydra.consentRequests.lookup challenge = some document →
      (oryConsentRequestToProto document).skip = true := by
  intro challenge document h
  have hdoc : document = rememberedRequest := by
    simp only [revokedWorld, List.lookup_cons, List.lookup_nil] at h
    split at h
    · exact (Option.some.inj h).symm
    · cases h
  rw [hdoc]
  decide

/-- Accepting the remembered consent twice brings nothing back. -/
theorem acceptAll_revoked_authorization :
    ((acceptAll ⟨[]⟩ [(acmeAdmin, rememberedAcceptance), (acmeAdmin, rememberedAcceptance)]).run
        (gateway .firstRow) (fun _ => .plain "ulid" 0) revokedWorld).2.authorization =
        revokedWorld.authorization ∧
      ∀ t app relation identity,
        Holds ((acceptAll ⟨[]⟩
            [(acmeAdmin, rememberedAcceptance), (acmeAdmin, rememberedAcceptance)]).run
            (gateway .firstRow) (fun _ => .plain "ulid" 0) revokedWorld).2.tuples t
            entitlementNamespace app relation identity ↔
          Holds revokedWorld.tuples t entitlementNamespace app relation identity :=
  acceptAll_skipped_authorization _ _ _ _ _ (skipAnswered_of_requests _ _ _ _ revokedWorld_skip)

end SsoGateway
