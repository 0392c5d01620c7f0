import SsoGateway.Federation
import SsoGateway.Lib.Precedence

/-!
# Calls of the federation service

Any number of requests at once: their store and provider calls are interleaved in any order, next to any
other programs of the gateway.

* `FederationRequest` — a request, and the program that answers it.
* `federationFor`, `federated` — the calls of a family of requests, and the family itself.
* `connections_step`, `domains_step`, `providers_step`, `loginStates_step` — what a call does to a table.

Source: `services/federation.rs`, `services/handlers/callback.rs`, `hrd.rs`.
-/

namespace SsoGateway

open Lib

/-! ## Requests -/

/-- A request, or any other program of the gateway. -/
inductive FederationRequest where
  | discover (email returnTo : String)
  | initiateOidc (tenant : Option String) (req : InitiateLoginRequest)
  | initiateOauth2 (tenant : Option String) (req : InitiateLoginRequest)
  | callback (code state connectionType : String)
  | other (p : Prog FederationSig Unit)

/-- What a request is answered with. -/
inductive FederationAnswer where
  | discovered (r : Except HrdError DiscoveryResult)
  | initiated (r : Except ServiceError InitiateLoginResponse)
  | redirected (r : Except CallbackError Response)
  | done

/-- A deployment of the service. -/
structure FederationSetup where
  env : FederationEnv
  lib : FederationLibraries
  cfg : FederationConfig
  callbacks : CallbackConfig

/-- The program that answers a request. -/
def FederationRequest.prog (setup : FederationSetup) :
    FederationRequest → Prog FederationSig FederationAnswer
  | .discover email returnTo =>
      .discovered <$> (SsoGateway.discover setup.lib setup.cfg.publicBaseUrl email returnTo).run
  | .initiateOidc tenant req => .initiated <$> (initiateOidcLogin setup.lib setup.cfg tenant req).run
  | .initiateOauth2 tenant req => .initiated <$> (initiateOauth2Login setup.lib setup.cfg tenant req).run
  | .callback code state connectionType =>
      .redirected <$> (handleOauthCallback setup.env setup.lib setup.callbacks code state connectionType).run
  | .other p => (fun _ => .done) <$> p

/-- A call, made by one of the requests. -/
def federationFor (κ : Type) (env : FederationEnv) :
    Handler FederationSig (κ × FederationChoice) FederationWorld :=
  fun op ic w => federation env op ic.2 w

/-- One call of a run. -/
abbrev FederationEvent (κ : Type) := Event FederationSig (κ × FederationChoice) FederationWorld

/-- The calls of a run. -/
abbrev FederationTrace (κ : Type) := List (FederationEvent κ)

/-- Requests that arrive at a world. -/
def federated {κ : Type} (setup : FederationSetup) (requests : κ → FederationRequest)
    (w : FederationWorld) : Pool FederationSig κ FederationAnswer FederationWorld where
  world := w
  threads k := (requests k).prog setup

/-- Whatever the environment decides, and with nothing said of the calls. -/
abbrev AnyAnswers : Contract FederationSig FederationChoice FederationWorld :=
  .alone (fun _ _ _ => True) fun _ _ _ => True

/-- A result that needs no call. -/
theorem onOk_settled {ε α : Type} {r : Except ε α} {env : FederationEnv}
    {K : Contract FederationSig FederationChoice FederationWorld} {w : FederationWorld} :
    (settled r).run.Sat (federation env) K (Prog.OnOk fun a w' => r = .ok a ∧ w' = w) w :=
  Prog.onOk_run_mk fun _ hr => ⟨hr, rfl⟩

/-- The deployment of the examples. -/
def FederationSetup.plain : FederationSetup := ⟨.plain, .plain, ⟨"https://sso.example", 600⟩, .plain⟩

/-! ## What a call does to a table -/

section steps

variable {env : FederationEnv} {c : FederationChoice} {w : FederationWorld}

/-- The connections change in three ways: a new one is enabled, and no key of the others; an update gives
a new configuration; and the flag of one is set. -/
theorem connections_step (env : FederationEnv) (c : FederationChoice) (w : FederationWorld)
    (op : FederationOp) :
    (federation env op c w).2.connections = w.connections ∨
    (∃ t type domain config, op = .insertConnection t type domain config ∧
      w.connections.insert? ⟨c.ulid.text, t, type, domain, encryptConfig env config, true⟩ =
        some (federation env op c w).2.connections) ∨
    (∃ t i config, op = .updateConfig t i config ∧ (federation env op c w).2.connections =
      w.connections.updateWhere (TenantConnectionRow.Named t i)
        (fun r => { r with config := encryptConfig env config }) (TenantConnectionRow.keepsKeys_config _)) ∨
    (∃ t i isEnabled, op = .setEnabled t i isEnabled ∧ (federation env op c w).2.connections =
      w.connections.updateWhere (TenantConnectionRow.Named t i)
        (fun r => { r with isEnabled := isEnabled }) (TenantConnectionRow.keepsKeys_enabled _)) := by
  cases op with
  | insertConnection t type domain config =>
      rcases insertRow_snd c.base w.connections (w.db.HasTenant t)
        ⟨c.ulid.text, t, type, domain, encryptConfig env config, true⟩ with h | ⟨-, h⟩
      · exact .inl h
      · exact .inr (.inl ⟨t, type, domain, config, rfl, h⟩)
  | updateConfig t i config =>
      rcases updateRow_snd c.base w.connections (TenantConnectionRow.Named t i)
        (TenantConnectionRow.keepsKeys_config (encryptConfig env config)) .connectionNotFound with h | h
      · exact .inl h
      · exact .inr (.inr (.inl ⟨t, i, config, rfl, h⟩))
  | setEnabled t i isEnabled =>
      rcases updateRow_snd c.base w.connections (TenantConnectionRow.Named t i)
        (TenantConnectionRow.keepsKeys_enabled isEnabled) .connectionNotFound with h | h
      · exact .inl h
      · exact .inr (.inr (.inr ⟨t, i, isEnabled, rfl, h⟩))
  | _ => exact .inl rfl

/-- A connection that a call answers with is one of the table, with its secret decrypted. -/
theorem map_decryptRow_ok {r : Except DbError TenantConnectionRow} {row : TenantConnectionRow}
    (h : r.map (decryptRow env) = .ok row) : ∃ stored, r = .ok stored ∧ row = decryptRow env stored := by
  cases r with
  | ok stored => exact ⟨stored, rfl, (Except.ok.inj h).symm⟩
  | error e => cases h

theorem getDomainOf_ok {t domain : String} {row : TenantDomainRow}
    (h : (federation env (.getDomainOf t domain) c w).1 = .ok (some row)) :
    row ∈ w.domains.rows ∧ row.tenantId = t ∧ row.domain = domain := by
  simp only [federation] at h
  exact Table.find?_eq_some (Except.ok.inj (Fault.answer_ok h).2)

theorem getConnectionByDomain_ok {domain : String} {row : TenantConnectionRow}
    (h : (federation env (.getConnectionByDomain domain) c w).1 = .ok row) :
    ∃ stored ∈ w.connections.rows, stored.domain = domain ∧ stored.isEnabled = true ∧
      row = decryptRow env stored := by
  obtain ⟨stored, hselect, rfl⟩ := map_decryptRow_ok h
  obtain ⟨hmem, hdomain, henabled⟩ := selectRow_ok hselect
  exact ⟨stored, hmem, hdomain, henabled, rfl⟩

theorem getConnection_ok {t i : String} {row : TenantConnectionRow}
    (h : (federation env (.getConnection t i) c w).1 = .ok row) :
    ∃ stored ∈ w.connections.rows, stored.Named t i ∧ row = decryptRow env stored := by
  obtain ⟨stored, hselect, rfl⟩ := map_decryptRow_ok h
  obtain ⟨hmem, hnamed⟩ := selectRow_ok hselect
  exact ⟨stored, hmem, hnamed, rfl⟩

theorem setEnabled_ok {t i : String} {isEnabled : Bool} {row : TenantConnectionRow}
    (h : (federation env (.setEnabled t i isEnabled) c w).1 = .ok row) :
    ∃ stored ∈ w.connections.rows, stored.Named t i ∧
      { stored with isEnabled := isEnabled } ∈
        (federation env (.setEnabled t i isEnabled) c w).2.connections.rows := by
  obtain ⟨_, hupdate, rfl⟩ := map_decryptRow_ok h
  obtain ⟨stored, hmem, hnamed, rfl, htable⟩ := updateRow_ok hupdate
  refine ⟨stored, hmem, hnamed, ?_⟩
  simp only [federation, htable]
  exact Table.mem_updateWhere.mpr ⟨stored, hmem, if_pos hnamed⟩

/-- The domains change in two ways: a new one is not verified, and one is marked as verified. -/
theorem domains_step (env : FederationEnv) (c : FederationChoice) (w : FederationWorld)
    (op : FederationOp) :
    (federation env op c w).2.domains = w.domains ∨
    (∃ t domain row, op = .createDomain t domain ∧ row.tenantId = t ∧ row.domain = domain ∧
      row.isVerified = false ∧ w.domains.insert? row = some (federation env op c w).2.domains) ∨
    (∃ t i, op = .markVerified t i ∧ (federation env op c w).2.domains =
      w.domains.updateWhere (fun r => r.tenantId = t ∧ r.id = i) (fun r => { r with isVerified := true })
        TenantDomainRow.keepsKeys_verified) := by
  cases op with
  | createDomain t domain =>
      rcases insertRow_snd c.base w.domains (w.db.HasTenant t)
        ⟨c.ulid.text, t, domain, hexEncode (List.ofFn fun i : Fin 32 => c.random i), false⟩ with h | ⟨-, h⟩
      · exact .inl h
      · exact .inr (.inl ⟨t, domain, _, rfl, rfl, rfl, rfl, h⟩)
  | markVerified t i =>
      rcases updateRow_snd c.base w.domains (fun r => r.tenantId = t ∧ r.id = i)
        TenantDomainRow.keepsKeys_verified .domainNotFound with h | h
      · exact .inl h
      · exact .inr (.inr ⟨t, i, rfl, h⟩)
  | _ => exact .inl rfl

/-- Providers are only added. -/
theorem providers_step (env : FederationEnv) (c : FederationChoice) (w : FederationWorld)
    (op : FederationOp) :
    (federation env op c w).2.providers = w.providers ∨
    ∃ row, op = .createProvider row ∧ w.providers.insert? { row with id := c.ulid.text } =
      some (federation env op c w).2.providers := by
  cases op with
  | createProvider row =>
      rcases insertRow_snd c.base w.providers (w.db.HasTenant row.tenantId) { row with id := c.ulid.text }
        with h | ⟨-, h⟩
      · exact .inl h
      · exact .inr ⟨row, rfl, h⟩
  | _ => exact .inl rfl

/-- Pending logins are added under a new token, and deleted by it. -/
theorem loginStates_step (env : FederationEnv) (c : FederationChoice) (w : FederationWorld)
    (op : FederationOp) :
    (federation env op c w).2.loginStates = w.loginStates ∨
    (∃ t connection type returnTo verifier nonce ttl,
      op = .createLoginState t connection type returnTo verifier nonce ttl ∧
      w.loginStates.insert? ⟨c.ulid, t, connection, type, returnTo, verifier, nonce, c.base.now + ttl⟩ =
        some (federation env op c w).2.loginStates) ∨
    (∃ token, op = .deleteLoginState token ∧ (federation env op c w).2.loginStates =
      w.loginStates.deleteWhere (·.stateToken.text = token)) := by
  cases op with
  | createLoginState t connection type returnTo verifier nonce ttl =>
      rcases insertRow_snd c.base w.loginStates True
        ⟨c.ulid, t, connection, type, returnTo, verifier, nonce, c.base.now + ttl⟩ with h | ⟨-, h⟩
      · exact .inl h
      · exact .inr (.inl ⟨t, connection, type, returnTo, verifier, nonce, ttl, rfl, h⟩)
  | deleteLoginState token =>
      rcases deleteRow_snd c.base w.loginStates (·.stateToken.text = token) .loginStateNotFound with h | h
      · exact .inl h
      · exact .inr (.inr ⟨token, rfl, h⟩)
  | _ => exact .inl rfl

end steps

end SsoGateway
