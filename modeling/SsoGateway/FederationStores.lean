import SsoGateway.AgentStores
import SsoGateway.ReplayCache
import SsoGateway.UpstreamOauth
import SsoGateway.Lib.Encoding

/-!
# The stores of federated logins

The tables a login through an upstream provider goes through, statement by statement: verified
domains, connections, SAML providers, pending logins and pending SAML requests, SAML identities and
browser sessions. They are next to the agent world, whose calls are calls here.

* `FederationWorld` — the tables, each with its keys.
* `FederationOp`, `federation` — the calls, and what they do.

What an upstream provider answers is left to the environment: a call to it is one step here, which
`exchangeCode`, `validateIdToken` and `fetchUserinfo` carry out.

Source: `db/domain.rs`, `db/connection.rs`, `db/login_state.rs`, `db/session_store.rs`,
`db/saml_provider.rs`, `db/saml_request.rs`, `db/saml_identity_mapping.rs`.
-/

namespace SsoGateway

open Lib

/-! ## Rows -/

/-- A ULID, by its text. Source: `ulid::Ulid`. -/
structure Ulid where
  text : String
  length_text : text.length = 26
deriving DecidableEq

/-- Source: `ConnectionType`. -/
inductive ConnectionType where
  | oidc
  | oauth2
  | saml
deriving DecidableEq, Repr

/-- Source: `ConnectionType::as_str`. -/
def ConnectionType.asStr : ConnectionType → String
  | .oidc => "oidc"
  | .oauth2 => "oauth2"
  | .saml => "saml"

/-- Source: `tenant_domains`. -/
structure TenantDomainRow where
  id : String
  tenantId : String
  domain : String
  verificationToken : String
  isVerified : Bool
deriving DecidableEq, Repr

/-- Source: `tenant_connections`. -/
structure TenantConnectionRow where
  id : String
  tenantId : String
  connectionType : ConnectionType
  domain : String
  config : Value
  isEnabled : Bool

/-- Source: `saml_providers`. -/
structure SamlProviderRow where
  id : String
  tenantId : String
  name : String
  idpEntityId : String
  idpSsoUrl : String
  idpCertificatePem : Option String
  spEntityId : String
  acsUrl : String
  nameIdFormat : Option String
  schemaId : String
  authnRequestsSigned : Bool
deriving DecidableEq, Repr

/-- Source: `login_state`. -/
structure LoginStateRow where
  stateToken : Ulid
  tenantId : String
  connectionId : String
  connectionType : String
  returnTo : String
  codeVerifier : Option String
  nonce : Option String
  expiresAt : ℤ
deriving DecidableEq

/-- Source: `gateway_sessions`. -/
structure GatewaySessionRow where
  sessionHash : String
  sub : String
  tenantId : String
  amr : String
  expiresAt : ℤ
  revokedAt : Option ℤ
deriving DecidableEq, Repr

/-- Source: `saml_requests`. -/
structure SamlRequestRow where
  id : String
  tenantId : String
  providerId : String
  relayState : String
  createdAt : ℤ
deriving DecidableEq, Repr

/-- Source: `saml_identity_mappings`. -/
structure SamlIdentityMappingRow where
  id : String
  tenantId : String
  providerId : String
  nameId : String
  identityPublicId : String
  oryGlobalId : String
deriving DecidableEq, Repr

/-! ### Keys -/

/-- `tenant_domains.id PRIMARY KEY`, and the unique index on the domain. -/
def TenantDomainRow.SameDomain (r r' : TenantDomainRow) : Prop := r.id = r'.id ∨ r.domain = r'.domain

/-- `tenant_connections.id PRIMARY KEY`, and the unique index on the domain. -/
def TenantConnectionRow.SameConnection (r r' : TenantConnectionRow) : Prop :=
  r.id = r'.id ∨ r.domain = r'.domain

/-- `saml_providers.id PRIMARY KEY`. -/
def SamlProviderRow.SameProvider (r r' : SamlProviderRow) : Prop := r.id = r'.id

/-- `login_state.state_token PRIMARY KEY`. -/
def LoginStateRow.SameToken (r r' : LoginStateRow) : Prop := r.stateToken = r'.stateToken

/-- `gateway_sessions.session_hash PRIMARY KEY`. -/
def GatewaySessionRow.SameHash (r r' : GatewaySessionRow) : Prop := r.sessionHash = r'.sessionHash

/-- `saml_requests.id PRIMARY KEY`. -/
def SamlRequestRow.SameRequest (r r' : SamlRequestRow) : Prop := r.id = r'.id

/-- `saml_identity_mappings.id PRIMARY KEY`, `identity_public_id UNIQUE` and
`UNIQUE (tenant_id, provider_id, name_id)`. -/
def SamlIdentityMappingRow.SameIdentity (r r' : SamlIdentityMappingRow) : Prop :=
  r.id = r'.id ∨ r.identityPublicId = r'.identityPublicId ∨
    r.tenantId = r'.tenantId ∧ r.providerId = r'.providerId ∧ r.nameId = r'.nameId

instance : DecidableRel TenantDomainRow.SameDomain := fun _ _ => inferInstanceAs (Decidable (_ ∨ _))

instance : DecidableRel TenantConnectionRow.SameConnection := fun _ _ =>
  inferInstanceAs (Decidable (_ ∨ _))

instance : DecidableRel SamlProviderRow.SameProvider := fun r r' =>
  inferInstanceAs (Decidable (r.id = r'.id))

instance : DecidableRel LoginStateRow.SameToken := fun r r' =>
  inferInstanceAs (Decidable (r.stateToken = r'.stateToken))

instance : DecidableRel GatewaySessionRow.SameHash := fun r r' =>
  inferInstanceAs (Decidable (r.sessionHash = r'.sessionHash))

instance : DecidableRel SamlRequestRow.SameRequest := fun r r' =>
  inferInstanceAs (Decidable (r.id = r'.id))

instance : DecidableRel SamlIdentityMappingRow.SameIdentity := fun _ _ =>
  inferInstanceAs (Decidable (_ ∨ _ ∨ _))

/-! ## The world -/

/-- The tables. -/
structure FederationWorld where
  agents : AgentWorld
  domains : Table TenantDomainRow TenantDomainRow.SameDomain
  connections : Table TenantConnectionRow TenantConnectionRow.SameConnection
  providers : Table SamlProviderRow SamlProviderRow.SameProvider
  loginStates : Table LoginStateRow LoginStateRow.SameToken
  sessions : Table GatewaySessionRow GatewaySessionRow.SameHash
  samlRequests : Table SamlRequestRow SamlRequestRow.SameRequest
  samlIdentities : Table SamlIdentityMappingRow SamlIdentityMappingRow.SameIdentity
  replays : AssertionIds

/-- No upstream provider is configured, and nobody is signed in. -/
def FederationWorld.start (agents : AgentWorld) : FederationWorld :=
  ⟨agents, .empty, .empty, .empty, .empty, .empty, .empty, .empty, .empty⟩

/-- The tables of the gateway. -/
abbrev FederationWorld.db (w : FederationWorld) : Db := w.agents.base.db

/-- Parameters of a run. -/
structure FederationEnv where
  /-- Those of the agent service's calls. -/
  agent : AgentEnv
  /-- `hash_session_id`: SHA-256. -/
  hashSessionId : String → String
  /-- `encrypt_secret`, where a key is configured. -/
  encryptSecret : String → Option String
  /-- `decrypt_secret`, where a key is configured. -/
  decryptSecret : String → Option String
  /-- `SessionTokenSigner::sign`. -/
  signSession : SessionClaims → String

/-- What the environment decides for one call. -/
structure FederationChoice where
  base : Choice
  /-- The ULID generated by the call. -/
  ulid : Ulid
  /-- The random bytes. -/
  random : ℕ → UInt8
  /-- What the provider's token endpoint leads to. -/
  exchange : Except UpstreamOAuthError UpstreamTokenResponse
  /-- What the check of an ID token leads to. -/
  idToken : Except UpstreamFailure Unit
  /-- What the provider's userinfo endpoint leads to. -/
  userinfo : Except UpstreamOAuthError Value

/-! ## The calls -/

/-- Every call of a federated login. -/
inductive FederationOp where
  | agent (op : AgentServiceOp)
  | createDomain (tenantId domain : String)
  | getDomain (domain : String)
  /-- The query of `require_verified_domain`. -/
  | getDomainOf (tenantId domain : String)
  | markVerified (tenantId id : String)
  | insertConnection (tenantId : String) (connectionType : ConnectionType) (domain : String)
      (config : Value)
  | getConnectionByDomain (domain : String)
  | getConnection (tenantId id : String)
  | updateConfig (tenantId id : String) (config : Value)
  | setEnabled (tenantId id : String) (isEnabled : Bool)
  /-- The id of the row is generated. -/
  | createProvider (row : SamlProviderRow)
  | getProvider (tenantId id : String)
  | getProviderById (id : String)
  | createLoginState (tenantId connectionId connectionType returnTo : String)
      (codeVerifier nonce : Option String) (ttl : ℤ)
  | getLoginState (stateToken : String)
  | deleteLoginState (stateToken : String)
  | createSession (sid sub tenantId amr : String) (expiresAt : ℤ)
  | sessionActive (sid : String)
  | createSamlRequest (tenantId requestId providerId relayState : String)
  | getSamlRequest (tenantId requestId : String)
  | getSamlRequestById (requestId : String)
  | deleteSamlRequest (tenantId requestId : String)
  | getSamlIdentity (tenantId providerId nameId : String)
  | createSamlIdentity (tenantId providerId nameId identityPublicId oryGlobalId : String)
  /-- `GamlastanReplayAdapter::check_and_insert`; the expiry is in nanoseconds. -/
  | checkReplay (assertionId : String) (expiry : ℤ)
  | randomBytes (n : ℕ)
  | now
  | exchangeCode (config : Value) (code redirectUri : String) (codeVerifier : Option String)
  | validateIdToken (idToken : String) (config : Value) (nonce : Option String)
  | fetchUserinfo (config : Value) (token : UpstreamTokenResponse)

/-- The answers. -/
@[reducible] def FederationOp.Res : FederationOp → Type
  | .agent op => op.Res
  | .createDomain _ _ => Except DbError TenantDomainRow
  | .getDomain _ => Except DbError TenantDomainRow
  | .getDomainOf _ _ => Except DbError (Option TenantDomainRow)
  | .markVerified _ _ => Except DbError TenantDomainRow
  | .insertConnection _ _ _ _ => Except DbError TenantConnectionRow
  | .getConnectionByDomain _ => Except DbError TenantConnectionRow
  | .getConnection _ _ => Except DbError TenantConnectionRow
  | .updateConfig _ _ _ => Except DbError TenantConnectionRow
  | .setEnabled _ _ _ => Except DbError TenantConnectionRow
  | .createProvider _ => Except DbError SamlProviderRow
  | .getProvider _ _ => Except DbError SamlProviderRow
  | .getProviderById _ => Except DbError SamlProviderRow
  | .createLoginState _ _ _ _ _ _ _ => Except DbError LoginStateRow
  | .getLoginState _ => Except DbError LoginStateRow
  | .deleteLoginState _ => Except DbError Unit
  | .createSession _ _ _ _ _ => Except DbError Unit
  | .sessionActive _ => Except DbError Bool
  | .createSamlRequest _ _ _ _ => Except DbError SamlRequestRow
  | .getSamlRequest _ _ => Except DbError SamlRequestRow
  | .getSamlRequestById _ => Except DbError SamlRequestRow
  | .deleteSamlRequest _ _ => Except DbError Unit
  | .getSamlIdentity _ _ _ => Except DbError SamlIdentityMappingRow
  | .createSamlIdentity _ _ _ _ _ => Except DbError SamlIdentityMappingRow
  | .checkReplay _ _ => Bool
  | .randomBytes n => { bytes : List UInt8 // bytes.length = n }
  | .now => ℤ
  | .exchangeCode _ _ _ _ => Except UpstreamOAuthError UpstreamTokenResponse
  | .validateIdToken _ _ _ => Except UpstreamFailure Unit
  | .fetchUserinfo _ _ => Except UpstreamOAuthError Value

/-- The signature. -/
@[reducible] def FederationSig : Sig := ⟨FederationOp, FederationOp.Res⟩

/-! ### Statements -/

section statements

variable {ρ : Type} {conflicts : ρ → ρ → Prop}

/-- `SELECT … WHERE p`, of at most one row. -/
def selectRow (c : Choice) (t : Table ρ conflicts) (p : ρ → Prop) [DecidablePred p] (err : DbError) :
    Except DbError ρ :=
  (Fault.answer Fault.sqlx () (orNotFound err id (t.find? p), ()) (c.fault 0)).1

/-- `INSERT … RETURNING …`, of a row with a tenant and whatever else it refers to. -/
def insertRow [DecidableRel conflicts] (c : Choice) (t : Table ρ conflicts) (refers : Prop)
    [Decidable refers] (row : ρ) : Except DbError ρ × Table ρ conflicts :=
  Fault.answer Fault.sqlx t
    (if refers then
      match t.insert? row with
      | some t' => (.ok row, t')
      | none => (.error Db.duplicateKey, t)
    else (.error Db.missingReference, t)) (c.fault 0)

/-- `UPDATE … WHERE p RETURNING …`, of at most one row. -/
def updateRow (c : Choice) (t : Table ρ conflicts) (p : ρ → Prop) [DecidablePred p] (f : ρ → ρ)
    (hf : Table.KeepsKeys conflicts f) (err : DbError) : Except DbError ρ × Table ρ conflicts :=
  Fault.answer Fault.sqlx t
    (match t.find? p with
      | some r => (.ok (f r), t.updateWhere p f hf)
      | none => (.error err, t)) (c.fault 0)

/-- `DELETE … WHERE p`, refused where it finds no row. -/
def deleteRow (c : Choice) (t : Table ρ conflicts) (p : ρ → Prop) [DecidablePred p] (err : DbError) :
    Except DbError Unit × Table ρ conflicts :=
  Fault.answer Fault.sqlx t
    (if t.Affects p then (.ok (), t.deleteWhere p) else (.error err, t)) (c.fault 0)

section lemmas

variable {c : Choice} {t : Table ρ conflicts} {p : ρ → Prop} [DecidablePred p] {err : DbError}

/-- A row that is read is one of the table. -/
theorem selectRow_ok {r : ρ} (h : selectRow c t p err = .ok r) : r ∈ t.rows ∧ p r := by
  have hfound := (Fault.answer_ok h).2
  rcases hfind : t.find? p with _ | r'
  · simp [orNotFound, hfind] at hfound
  · simp only [orNotFound, hfind, id, Except.ok.injEq] at hfound
    exact hfound ▸ Table.find?_eq_some hfind

/-- A row is inserted, or the table stays as it is. -/
theorem insertRow_snd [DecidableRel conflicts] (c : Choice) (t : Table ρ conflicts) (refers : Prop)
    [Decidable refers] (row : ρ) :
    (insertRow c t refers row).2 = t ∨ refers ∧ t.insert? row = some (insertRow c t refers row).2 := by
  unfold insertRow
  rcases @Fault.answer_snd _ _ _ Fault.sqlx t _ (c.fault 0) with h | h
  · exact .inl h
  · rw [h]
    by_cases hrefers : refers
    · rcases hinsert : t.insert? row with _ | t'
      · simp [hrefers]
      · simp [hrefers]
    · simp [hrefers]

theorem insertRow_ok [DecidableRel conflicts] {refers : Prop} [Decidable refers] {row r : ρ}
    (h : (insertRow c t refers row).1 = .ok r) :
    r = row ∧ refers ∧ t.insert? row = some (insertRow c t refers row).2 := by
  obtain ⟨hfault, hrow⟩ := Fault.answer_ok h
  by_cases hrefers : refers
  · rcases hinsert : t.insert? row with _ | t'
    · simp [hrefers, hinsert] at hrow
    · simp only [hrefers, hinsert, if_true, Except.ok.injEq] at hrow
      subst hrow
      simp [insertRow, hfault, hrefers, hinsert]
  · simp [hrefers] at hrow

/-- The rows are updated, or the table stays as it is. -/
theorem updateRow_snd (c : Choice) (t : Table ρ conflicts) (p : ρ → Prop) [DecidablePred p] {f : ρ → ρ}
    (hf : Table.KeepsKeys conflicts f) (err : DbError) :
    (updateRow c t p f hf err).2 = t ∨ (updateRow c t p f hf err).2 = t.updateWhere p f hf := by
  unfold updateRow
  rcases @Fault.answer_snd _ _ _ Fault.sqlx t _ (c.fault 0) with h | h
  · exact .inl h
  · rw [h]
    rcases t.find? p with _ | r
    · exact .inl rfl
    · exact .inr rfl

theorem updateRow_ok {f : ρ → ρ} {hf : Table.KeepsKeys conflicts f} {r : ρ}
    (h : (updateRow c t p f hf err).1 = .ok r) :
    ∃ r₀ ∈ t.rows, p r₀ ∧ r = f r₀ ∧ (updateRow c t p f hf err).2 = t.updateWhere p f hf := by
  obtain ⟨hfault, hrow⟩ := Fault.answer_ok h
  rcases hfind : t.find? p with _ | r₀
  · simp [hfind] at hrow
  · simp only [hfind, Except.ok.injEq] at hrow
    obtain ⟨hmem, hp⟩ := Table.find?_eq_some hfind
    exact ⟨r₀, hmem, hp, hrow.symm, by simp [updateRow, hfault, hfind]⟩

/-- The rows are deleted, or the table stays as it is. -/
theorem deleteRow_snd (c : Choice) (t : Table ρ conflicts) (p : ρ → Prop) [DecidablePred p] (err : DbError) :
    (deleteRow c t p err).2 = t ∨ (deleteRow c t p err).2 = t.deleteWhere p := by
  unfold deleteRow
  rcases @Fault.answer_snd _ _ _ Fault.sqlx t _ (c.fault 0) with h | h
  · exact .inl h
  · rw [h]
    by_cases haffects : t.Affects p
    · simp [haffects]
    · simp [haffects]

theorem deleteRow_ok (h : (deleteRow c t p err).1 = .ok ()) :
    t.Affects p ∧ (deleteRow c t p err).2 = t.deleteWhere p := by
  obtain ⟨hfault, hrow⟩ := Fault.answer_ok h
  by_cases haffects : t.Affects p
  · simp [deleteRow, hfault, haffects]
  · simp [haffects] at hrow

end lemmas

end statements

/-- `WHERE tenant_id = t AND id = i`. -/
def TenantConnectionRow.Named (tenantId id : String) (r : TenantConnectionRow) : Prop :=
  r.tenantId = tenantId ∧ r.id = id

instance (tenantId id : String) : DecidablePred (TenantConnectionRow.Named tenantId id) := fun _ =>
  inferInstanceAs (Decidable (_ ∧ _))

/-- Source: `encrypt_config`. -/
def encryptConfig (env : FederationEnv) (config : Value) : Value :=
  match ((config.get "client_secret").bind Value.asStr).bind env.encryptSecret with
  | some encrypted => config.setIndex "client_secret" (.str ("enc:" ++ encrypted))
  | none => config

/-- Source: `decrypt_config`. -/
def decryptConfig (env : FederationEnv) (config : Value) : Value :=
  match (((config.get "client_secret").bind Value.asStr).bind fun value =>
      stripStart value "enc:").bind env.decryptSecret with
  | some plain => config.setIndex "client_secret" (.str plain)
  | none => config

/-- Source: `decrypt_row`. -/
def decryptRow (env : FederationEnv) (row : TenantConnectionRow) : TenantConnectionRow :=
  { row with config := decryptConfig env row.config }

theorem TenantDomainRow.keepsKeys_verified :
    Table.KeepsKeys SameDomain fun r => { r with isVerified := true } :=
  ⟨fun _ _ => Iff.rfl, fun _ _ => Iff.rfl⟩

theorem TenantConnectionRow.keepsKeys_config (config : Value) :
    Table.KeepsKeys SameConnection fun r => { r with config := config } :=
  ⟨fun _ _ => Iff.rfl, fun _ _ => Iff.rfl⟩

theorem TenantConnectionRow.keepsKeys_enabled (isEnabled : Bool) :
    Table.KeepsKeys SameConnection fun r => { r with isEnabled := isEnabled } :=
  ⟨fun _ _ => Iff.rfl, fun _ _ => Iff.rfl⟩

/-- What every call does. -/
def federation (env : FederationEnv) : Handler FederationSig FederationChoice FederationWorld
  | .agent op, c, w =>
      let r := agentGateway env.agent op c.base w.agents
      (r.1, { w with agents := r.2 })
  | .createDomain t domain, c, w =>
      let token := hexEncode (List.ofFn fun i : Fin 32 => c.random i)
      let r := insertRow c.base w.domains (w.db.HasTenant t) ⟨c.ulid.text, t, domain, token, false⟩
      (r.1, { w with domains := r.2 })
  | .getDomain domain, c, w => (selectRow c.base w.domains (·.domain = domain) .domainNotFound, w)
  | .getDomainOf t domain, c, w =>
      ((Fault.answer Fault.sqlx ()
        (.ok (w.domains.find? fun r => r.tenantId = t ∧ r.domain = domain), ()) (c.base.fault 0)).1, w)
  | .markVerified t i, c, w =>
      let r := updateRow c.base w.domains (fun r => r.tenantId = t ∧ r.id = i)
        (fun r => { r with isVerified := true }) TenantDomainRow.keepsKeys_verified .domainNotFound
      (r.1, { w with domains := r.2 })
  | .insertConnection t type domain config, c, w =>
      let r := insertRow c.base w.connections (w.db.HasTenant t)
        ⟨c.ulid.text, t, type, domain, encryptConfig env config, true⟩
      (r.1.map (decryptRow env), { w with connections := r.2 })
  | .getConnectionByDomain domain, c, w =>
      ((selectRow c.base w.connections (fun r => r.domain = domain ∧ r.isEnabled = true)
        .connectionNotFound).map (decryptRow env), w)
  | .getConnection t i, c, w =>
      ((selectRow c.base w.connections (TenantConnectionRow.Named t i) .connectionNotFound).map
        (decryptRow env), w)
  | .updateConfig t i config, c, w =>
      let r := updateRow c.base w.connections (TenantConnectionRow.Named t i)
        (fun r => { r with config := encryptConfig env config })
        (TenantConnectionRow.keepsKeys_config _) .connectionNotFound
      (r.1.map (decryptRow env), { w with connections := r.2 })
  | .setEnabled t i isEnabled, c, w =>
      let r := updateRow c.base w.connections (TenantConnectionRow.Named t i)
        (fun r => { r with isEnabled := isEnabled }) (TenantConnectionRow.keepsKeys_enabled _)
        .connectionNotFound
      (r.1.map (decryptRow env), { w with connections := r.2 })
  | .createProvider row, c, w =>
      let r := insertRow c.base w.providers (w.db.HasTenant row.tenantId) { row with id := c.ulid.text }
      (r.1, { w with providers := r.2 })
  | .getProvider t i, c, w =>
      (selectRow c.base w.providers (fun r => r.tenantId = t ∧ r.id = i) .samlProviderNotFound, w)
  | .getProviderById i, c, w => (selectRow c.base w.providers (·.id = i) .samlProviderNotFound, w)
  | .createLoginState t connection type returnTo verifier nonce ttl, c, w =>
      let r := insertRow c.base w.loginStates True
        ⟨c.ulid, t, connection, type, returnTo, verifier, nonce, c.base.now + ttl⟩
      (r.1, { w with loginStates := r.2 })
  | .getLoginState token, c, w =>
      (selectRow c.base w.loginStates (fun r => r.stateToken.text = token ∧ c.base.now < r.expiresAt)
        .loginStateNotFound, w)
  | .deleteLoginState token, c, w =>
      let r := deleteRow c.base w.loginStates (·.stateToken.text = token) .loginStateNotFound
      (r.1, { w with loginStates := r.2 })
  | .createSession sid sub t amr expiresAt, c, w =>
      let r := Fault.answer Fault.sqlx w.sessions
        (.ok (), (w.sessions.insertNew ⟨env.hashSessionId sid, sub, t, amr, expiresAt, none⟩).1)
        (c.base.fault 0)
      (r.1, { w with sessions := r.2 })
  | .sessionActive sid, c, w =>
      ((Fault.answer Fault.sqlx ()
        (.ok (decide (w.sessions.Affects fun r => r.sessionHash = env.hashSessionId sid ∧
          c.base.now < r.expiresAt ∧ r.revokedAt = none)), ()) (c.base.fault 0)).1, w)
  | .createSamlRequest t requestId providerId relayState, c, w =>
      let r := insertRow c.base w.samlRequests
        (w.db.HasTenant t ∧ w.providers.Affects fun r => r.id = providerId)
        ⟨requestId, t, providerId, relayState, c.base.now⟩
      (r.1, { w with samlRequests := r.2 })
  | .getSamlRequest t requestId, c, w =>
      (selectRow c.base w.samlRequests (fun r => r.tenantId = t ∧ r.id = requestId)
        .samlRequestNotFound, w)
  | .getSamlRequestById requestId, c, w =>
      (selectRow c.base w.samlRequests (·.id = requestId) .samlRequestNotFound, w)
  | .deleteSamlRequest t requestId, c, w =>
      let r := deleteRow c.base w.samlRequests (fun r => r.tenantId = t ∧ r.id = requestId)
        .samlRequestNotFound
      (r.1, { w with samlRequests := r.2 })
  | .getSamlIdentity t providerId nameId, c, w =>
      (selectRow c.base w.samlIdentities
        (fun r => r.tenantId = t ∧ r.providerId = providerId ∧ r.nameId = nameId)
        .samlIdentityMappingNotFound, w)
  | .createSamlIdentity t providerId nameId publicId oryId, c, w =>
      let r := insertRow c.base w.samlIdentities
        (w.db.HasTenant t ∧ w.providers.Affects fun r => r.id = providerId)
        ⟨c.ulid.text, t, providerId, nameId, publicId, oryId⟩
      (r.1, { w with samlIdentities := r.2 })
  | .checkReplay assertionId expiry, c, w =>
      let r := checkAndInsert (c.base.fault 0) (c.base.now * nanosPerSecond) assertionId expiry w.replays
      (r.1, { w with replays := r.2 })
  | .randomBytes n, c, w => (⟨List.ofFn fun i : Fin n => c.random i, List.length_ofFn⟩, w)
  | .now, c, w => (c.base.now, w)
  | .exchangeCode _ _ _ _, c, w => (c.exchange, w)
  | .validateIdToken _ _ _, c, w => (c.idToken, w)
  | .fetchUserinfo _ _, c, w => (c.userinfo, w)

/-- One call. -/
abbrev federationCall (op : FederationOp) : Prog FederationSig op.Res :=
  Prog.perform (S := FederationSig) op

end SsoGateway
