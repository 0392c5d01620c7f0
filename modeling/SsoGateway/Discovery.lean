import SsoGateway.FederationCalls
import SsoGateway.Lib.History
import SsoGateway.Lib.Straight

/-!
# Home realm discovery

Where discovery leads an email, in every state that the administration of domains, connections and
providers reaches. A connection is created for a domain its tenant has verified, and that is never undone;
so a connection belongs to the owner of its domain. Its configuration may change to anything, and discovery
asks for the provider that it names without asking whose provider it is; and a domain is one by its letters,
upper or lower case as they are.

* `RealmRequest` — what is done to domains, connections and providers.
* `Owned` — every connection is one of the tenant that verified its domain (`owned_run`).
* `RedirectOf`, `NamesOwnProvider` — the redirect of a connection, and a configuration that names no provider
  of another tenant.
* `SameAnswer` — two answers that differ in the email they repeat only.
* `discovery_routes_to_owner` — discovery in a state that is reached.
* `discovery_misroutes` — a redirect to another tenant's provider, and an email in upper case.

Source: `hrd.rs`, `db/connection.rs`, `db/domain.rs`, `db/saml_provider.rs`.
-/

namespace SsoGateway

open Lib

/-! ## Administration -/

/-- What is done to domains, connections and providers. -/
inductive RealmRequest where
  | createDomain (tenantId domain : String)
  | markVerified (tenantId id : String)
  | createConnection (tenantId : String) (connectionType : ConnectionType) (domain : String)
      (config : Value)
  | updateConfig (tenantId id : String) (config : Value)
  | setEnabled (tenantId id : String) (isEnabled : Bool)
  | createProvider (row : SamlProviderRow)

/-- The calls of each. -/
def RealmRequest.prog : RealmRequest → Prog FederationSig Unit
  | .createDomain t domain => (fun _ => ()) <$> federationCall (.createDomain t domain)
  | .markVerified t i => (fun _ => ()) <$> federationCall (.markVerified t i)
  | .createConnection t type domain config =>
      (fun _ => ()) <$> (PgTenantConnectionStore.create t type domain config).run
  | .updateConfig t i config => (fun _ => ()) <$> federationCall (.updateConfig t i config)
  | .setEnabled t i isEnabled => (fun _ => ()) <$> federationCall (.setEnabled t i isEnabled)
  | .createProvider row => (fun _ => ()) <$> federationCall (.createProvider row)

/-- Any number of them at once. -/
def administered {κ : Type} (requests : κ → RealmRequest) (w : FederationWorld) :
    Pool FederationSig κ Unit FederationWorld where
  world := w
  threads k := (requests k).prog

/-! ## Ownership -/

/-- The tenant has verified the domain. -/
def VerifiedBy (tenantId domain : String) (w : FederationWorld) : Prop :=
  ∃ row ∈ w.domains.rows, row.tenantId = tenantId ∧ row.domain = domain ∧ row.isVerified = true

/-- Every connection is one of the tenant that has verified its domain. -/
def Owned (w : FederationWorld) : Prop :=
  ∀ connection ∈ w.connections.rows, VerifiedBy connection.tenantId connection.domain w

section ownership

variable {env : FederationEnv} {c : FederationChoice} {w : FederationWorld} {tenantId domain : String}

/-- A domain is verified by one tenant. -/
theorem VerifiedBy.unique {tenantId' : String} (h : VerifiedBy tenantId domain w)
    (h' : VerifiedBy tenantId' domain w) : tenantId = tenantId' := by
  obtain ⟨row, hrow, rfl, hdomain, -⟩ := h
  obtain ⟨row', hrow', rfl, hdomain', -⟩ := h'
  have hsymm : ∀ r r' : TenantDomainRow, r.SameDomain r' → r'.SameDomain r := by
    rintro r r' (h | h)
    · exact .inl h.symm
    · exact .inr h.symm
  rw [Table.eq_of_conflicts hsymm hrow hrow' (.inr (hdomain.trans hdomain'.symm))]

/-- A verified domain stays verified. -/
theorem verifiedBy_step (op : FederationOp) (h : VerifiedBy tenantId domain w) :
    VerifiedBy tenantId domain (federation env op c w).2 := by
  obtain ⟨row, hrow, ht, hd, hverified⟩ := h
  unfold VerifiedBy
  rcases domains_step env c w op with heq | ⟨t, d, new, -, -, -, -, hinsert⟩ | ⟨t, i, -, hupdate⟩
  · rw [heq]
    exact ⟨row, hrow, ht, hd, hverified⟩
  · rw [(Table.insert?_eq_some hinsert).1]
    exact ⟨row, List.mem_cons_of_mem _ hrow, ht, hd, hverified⟩
  · rw [hupdate]
    refine ⟨_, Table.mem_updateWhere.mpr ⟨row, hrow, rfl⟩, ?_⟩
    by_cases hti : row.tenantId = t ∧ row.id = i
    · rw [if_pos hti]
      exact ⟨ht, hd, rfl⟩
    · rw [if_neg hti]
      exact ⟨ht, hd, hverified⟩

/-- Every call keeps ownership, as long as a connection is inserted for a verified domain only. -/
theorem owned_step (op : FederationOp) (h : Owned w)
    (hinsert : ∀ t type d config, op = .insertConnection t type d config → VerifiedBy t d w) :
    Owned (federation env op c w).2 := by
  have hkept : ∀ row ∈ w.connections.rows, VerifiedBy row.tenantId row.domain (federation env op c w).2 :=
    fun row hrow => verifiedBy_step op (h row hrow)
  intro row hrow
  rcases connections_step env c w op with heq | ⟨t, type, d, config, hop, htable⟩ | ⟨t, i, config, -, htable⟩ |
    ⟨t, i, isEnabled, -, htable⟩
  · rw [heq] at hrow
    exact hkept row hrow
  · rw [(Table.insert?_eq_some htable).1] at hrow
    rcases List.mem_cons.mp hrow with rfl | hold
    · exact verifiedBy_step op (hinsert t type d config hop)
    · exact hkept row hold
  · rw [htable] at hrow
    obtain ⟨old, hold, rfl⟩ := Table.mem_updateWhere.mp hrow
    have hverified := hkept old hold
    split
    · exact hverified
    · exact hverified
  · rw [htable] at hrow
    obtain ⟨old, hold, rfl⟩ := Table.mem_updateWhere.mp hrow
    have hverified := hkept old hold
    split
    · exact hverified
    · exact hverified

end ownership

/-! ### Along a run -/

/-- Others may verify domains; a connection is inserted for a verified domain. -/
abbrev RealmContract (κ : Type) : Contract FederationSig (κ × FederationChoice) FederationWorld where
  rely w w' := ∀ t d, VerifiedBy t d w → VerifiedBy t d w'
  assume _ _ _ := True
  guar op _ w := ∀ t type d config, op = .insertConnection t type d config → VerifiedBy t d w

section run

variable {κ : Type} {env : FederationEnv} {w : FederationWorld}

/-- A call that inserts no connection. -/
theorem realm_call {α : Type} {op : FederationOp} {f : op.Res → α}
    (hop : ∀ t type d config, op ≠ .insertConnection t type d config) :
    (f <$> federationCall op).Sat (federationFor κ env) (RealmContract κ) (fun _ _ => True) w := by
  apply Prog.sat_map.mpr
  intro w' _ c _
  exact ⟨fun t type d config h => absurd h (hop t type d config), trivial⟩

/-- The check of a domain succeeds where the tenant has verified it. -/
theorem requireVerifiedDomain_verified {t domain : String} :
    (requireVerifiedDomain t domain).run.Sat (federationFor κ env) (RealmContract κ)
      (Prog.OnOk fun _ => VerifiedBy t domain) w := by
  refine Prog.onOk_run_bind (P := fun row w' => ∀ found, row = some found → found ∈ w'.domains.rows ∧
    found.tenantId = t ∧ found.domain = domain) (Prog.onOk_run_orThrow ?_) ?_
  · intro w' _ c _
    refine ⟨fun t type d config h => ?_, Prog.onOk_iff.mpr ?_⟩
    · cases h
    · rintro _ hanswer found rfl
      exact getDomainOf_ok hanswer
  · intro row w' hrow
    cases row with
    | none => trivial
    | some found =>
        obtain ⟨hmem, ht, hd⟩ := hrow found rfl
        by_cases hverified : found.isVerified = true
        · simp only [hverified, if_true]
          exact ⟨found, hmem, ht, hd, hverified⟩
        · simp only [hverified]
          trivial

/-- A connection is inserted once its tenant is seen to have verified the domain. -/
theorem create_verified {t domain : String} {type : ConnectionType} {config : Value} :
    (PgTenantConnectionStore.create t type domain config).run.Sat (federationFor κ env) (RealmContract κ)
      (Prog.OnOk fun _ _ => True) w := by
  apply Prog.onOk_run_bind requireVerifiedDomain_verified
  intro _ w₁ hverified
  apply Prog.onOk_run_orThrow
  intro w₂ hrely c _
  refine ⟨fun t' type' d' config' h => ?_, Prog.onOk_iff.mpr fun _ _ => trivial⟩
  cases h
  exact hrely _ _ hverified

theorem realmRequest_verified (request : RealmRequest) :
    request.prog.Sat (federationFor κ env) (RealmContract κ) (fun _ _ => True) w := by
  cases request with
  | createConnection t type domain config =>
      exact Prog.sat_map.mpr (create_verified.post fun _ _ _ => trivial)
  | createDomain t domain => exact realm_call fun _ _ _ _ h => by cases h
  | markVerified t i => exact realm_call fun _ _ _ _ h => by cases h
  | updateConfig t i config => exact realm_call fun _ _ _ _ h => by cases h
  | setEnabled t i isEnabled => exact realm_call fun _ _ _ _ h => by cases h
  | createProvider row => exact realm_call fun _ _ _ _ h => by cases h

variable [DecidableEq κ]

/-- **Ownership along a run.** However the requests are interleaved, every connection is one of the tenant
that verified its domain. -/
theorem owned_run (env : FederationEnv) (requests : κ → RealmRequest) (hw : Owned w)
    (sched : List (κ × FederationChoice)) :
    Owned ((administered requests w).run (federationFor κ env) sched).world := by
  have hguar := (Pool.sat_run (h := federationFor κ env) (K := fun _ : κ => RealmContract κ)
    (Q := fun _ _ _ => True) (P := administered requests w) (fun _ _ _ _ h => h)
    (fun _ a b c hab hbc t d h => hbc t d (hab t d h)) (fun _ _ _ _ _ _ => trivial)
    (fun _ _ _ op c w _ _ t d h => verifiedBy_step op h) sched
    (fun k => realmRequest_verified (requests k)) fun _ _ => trivial).2
  have hchain := Pool.chained_events (federationFor κ env) (administered requests w) sched
  apply (hchain.invariant hw ?_).1
  intro ev hev howned
  exact owned_step ev.op howned (hguar ev hev)

end run

/-! ## Where an email leads -/

/-- An authorization URL of a configuration. -/
def DiscoveryUrl (key : String) (endpoint : String → String) (config : Value) (url : String) : Prop :=
  ∃ base clientId redirectUri scopes state, hrdConfig config key = .ok base ∧
    hrdConfig config "client_id" = .ok clientId ∧ hrdConfig config "redirect_uri" = .ok redirectUri ∧
    hrdScopes config = .ok scopes ∧ url = endpoint base ++ discoveryQuery clientId scopes redirectUri state

/-- The redirect is one of the connection, by its type and its configuration. -/
def RedirectOf (w : FederationWorld) (connection : TenantConnectionRow) : DiscoveryResult → Prop
  | .oidc url => connection.connectionType = .oidc ∧ DiscoveryUrl "issuer"
      (fun issuer => normalizeIssuerUrl issuer ++ "/oauth2/authorize") connection.config url
  | .oauth2 url => connection.connectionType = .oauth2 ∧
      DiscoveryUrl "authorization_url" id connection.config url
  | .saml ssoUrl _ _ => connection.connectionType = .saml ∧
      ∃ provider ∈ w.providers.rows, hrdConfig connection.config "provider_id" = .ok provider.id ∧
        ssoUrl = provider.idpSsoUrl
  | .selectTenant _ => False

/-- A SAML redirect points at a provider of the tenant. -/
def DiscoveryResult.PointsWithin (w : FederationWorld) (tenantId : String) : DiscoveryResult → Prop
  | .saml ssoUrl _ _ => ∃ provider ∈ w.providers.rows, provider.tenantId = tenantId ∧
      ssoUrl = provider.idpSsoUrl
  | _ => True

/-- The provider that the configuration names, if it is there, is one of the connection's tenant. -/
def NamesOwnProvider (w : FederationWorld) (connection : TenantConnectionRow) : Prop :=
  ∀ provider ∈ w.providers.rows, hrdConfig connection.config "provider_id" = .ok provider.id →
    provider.tenantId = connection.tenantId

/-- An enabled connection has the domain. -/
def LeadsOn (domain : String) (w : FederationWorld) : Prop :=
  ∃ connection ∈ w.connections.rows, connection.domain = domain ∧ connection.isEnabled = true

/-- The redirect of a domain, if there is one. -/
def findRedirect (domain returnTo : String) : Federated HrdError (Option DiscoveryResult) := do
  if !(← isVerifiedDomain domain) then return none
  else
    match ← Prog.attempt (federationCall (.getConnectionByDomain domain)) with
    | .ok connection => some <$> discoverConnection connection returnTo
    | .error .connectionNotFound => return none
    | .error err => throw (.database err)

/-- Discovery looks for the redirect of the email's domain, and falls back on the choice of a tenant. -/
theorem discover_eq (lib : FederationLibraries) (publicBaseUrl email returnTo : String) :
    discover lib publicBaseUrl email returnTo = (do
      settled (validateEmail email)
      settled (validateDiscoveryReturnTo lib returnTo)
      (fun found => found.getD (.selectTenant (buildSelectTenantUrl publicBaseUrl email returnTo))) <$>
        findRedirect (emailDomain email) returnTo) := by
  unfold discover findRedirect
  simp only [map_bind]
  congr 1; funext _; congr 1; funext _; congr 1; funext verified
  split
  · rfl
  · simp only [map_bind]
    congr 1; funext found
    cases found with
    | ok connection => simp
    | error err => cases err <;> rfl

section discovery

variable {env : FederationEnv} {w : FederationWorld}

/-- Both kinds of URL are those of the configuration. -/
theorem buildDiscoveryUrl_url {key : String} {endpoint : String → String} {config : Value} :
    (buildDiscoveryUrl key endpoint config).run.Sat (federation env) AnyAnswers
      (Prog.OnOk fun url _ => DiscoveryUrl key endpoint config url) w := by
  unfold buildDiscoveryUrl
  apply Prog.onOk_run_bind onOk_settled
  rintro base w₁ ⟨hbase, -⟩
  apply Prog.onOk_run_bind onOk_settled
  rintro clientId w₂ ⟨hclientId, -⟩
  apply Prog.onOk_run_bind onOk_settled
  rintro redirectUri w₃ ⟨hredirectUri, -⟩
  apply Prog.onOk_run_bind onOk_settled
  rintro scopes w₄ ⟨hscopes, -⟩
  apply Prog.onOk_run_bind (Prog.onOk_true fun _ _ _ => trivial)
  intro state w₅ _
  exact ⟨base, clientId, redirectUri, scopes, state, hbase, hclientId, hredirectUri, hscopes, rfl⟩

/-- A SAML redirect is to the provider that the configuration names. -/
theorem buildSamlRedirect_provider {connection : TenantConnectionRow} {returnTo : String}
    (htype : connection.connectionType = .saml) :
    (buildSamlRedirect connection.tenantId connection.config returnTo).run.Sat (federation env) AnyAnswers
      (Prog.OnOk fun found _ => RedirectOf w connection found) w := by
  unfold buildSamlRedirect
  apply Prog.onOk_run_bind onOk_settled
  rintro providerId w ⟨hprovider, rfl⟩
  refine Prog.onOk_run_bind (P := fun provider _ => provider ∈ w.providers.rows ∧ provider.id = providerId)
    (Prog.onOk_run_orThrow ?_) ?_
  · rintro _ rfl c -
    exact ⟨trivial, Prog.onOk_iff.mpr fun provider hanswer => selectRow_ok hanswer⟩
  · rintro provider w₂ ⟨hmem, rfl⟩
    exact ⟨htype, provider, hmem, hprovider, rfl⟩

/-- The redirect that is built for a connection is one of it. -/
theorem discoverConnection_redirect {connection : TenantConnectionRow} {returnTo : String} :
    (discoverConnection connection returnTo).run.Sat (federation env) AnyAnswers
      (Prog.OnOk fun found _ => RedirectOf w connection found) w := by
  unfold discoverConnection
  split
  · rename_i htype
    refine Prog.onOk_run_map (buildDiscoveryUrl_url.post fun r w' hr => hr.mono fun url w' hurl => ?_)
    exact ⟨htype, hurl⟩
  · rename_i htype
    refine Prog.onOk_run_map (buildDiscoveryUrl_url.post fun r w' hr => hr.mono fun url w' hurl => ?_)
    exact ⟨htype, hurl⟩
  · rename_i htype
    exact buildSamlRedirect_provider htype

/-- A redirect that is found is one of an enabled connection with the domain. -/
theorem findRedirect_redirect {domain returnTo : String} :
    (findRedirect domain returnTo).run.Sat (federation env) AnyAnswers
      (Prog.OnOk fun found _ => ∀ redirect, found = some redirect → ∃ connection ∈ w.connections.rows,
        connection.domain = domain ∧ connection.isEnabled = true ∧
        RedirectOf w (decryptRow env connection) redirect) w := by
  unfold findRedirect
  refine Prog.onOk_run_bind (P := fun _ w' => w' = w) ?_ ?_
  · unfold isVerifiedDomain
    refine Prog.onOk_run_bind (P := fun _ w' => w' = w) (Prog.onOk_run_attempt ?_) ?_
    · rintro _ rfl c -
      exact ⟨trivial, rfl⟩
    · rintro answer w rfl
      split
      · exact Prog.onOk_run_pure rfl
      · exact Prog.onOk_run_pure rfl
      · trivial
  rintro verified w rfl
  split
  · apply Prog.onOk_run_pure
    rintro redirect ⟨⟩
  refine Prog.onOk_run_bind (P := fun answer w' => w' = w ∧ ∀ row, answer = .ok row →
    ∃ connection ∈ w.connections.rows, connection.domain = domain ∧ connection.isEnabled = true ∧
      row = decryptRow env connection) (Prog.onOk_run_attempt ?_) ?_
  · rintro _ rfl c -
    exact ⟨trivial, rfl, fun row hanswer => getConnectionByDomain_ok hanswer⟩
  · rintro answer w ⟨rfl, hanswer⟩
    split
    · rename_i row
      obtain ⟨connection, hmem, hdomain, henabled, rfl⟩ := hanswer row rfl
      refine Prog.onOk_run_map (discoverConnection_redirect.post fun r w' hr => hr.mono ?_)
      rintro redirect w' hredirect _ ⟨⟩
      exact ⟨connection, hmem, hdomain, henabled, hredirect⟩
    · apply Prog.onOk_run_pure
      rintro redirect ⟨⟩
    · trivial

/-- Discovery ends in the redirect of the email's domain, or in the choice of a tenant. -/
theorem discover_run {lib : FederationLibraries} {publicBaseUrl email returnTo : String}
    {o : ℕ → FederationChoice} {found : DiscoveryResult}
    (h : ((discover lib publicBaseUrl email returnTo).run.run (federation env) o w).1 = .ok found) :
    ∃ redirect, ((findRedirect (emailDomain email) returnTo).run.run (federation env) o w).1 =
        .ok redirect ∧
      found = redirect.getD (.selectTenant (buildSelectTenantUrl publicBaseUrl email returnTo)) := by
  rw [discover_eq] at h
  rcases hemail : validateEmail email with e | _
  · rw [hemail] at h
    cases h
  rcases hreturnTo : validateDiscoveryReturnTo lib returnTo with e | _
  · rw [hemail, hreturnTo] at h
    cases h
  rw [hemail, hreturnTo] at h
  have hmap : (((fun found : Option DiscoveryResult => found.getD
      (.selectTenant (buildSelectTenantUrl publicBaseUrl email returnTo))) <$>
      findRedirect (emailDomain email) returnTo).run.run (federation env) o w).1 = .ok found := h
  rw [ExceptT.run_map, Prog.run_map] at hmap
  rcases hrun : ((findRedirect (emailDomain email) returnTo).run.run (federation env) o w).1 with e | redirect
  · rw [hrun] at hmap
    cases hmap
  · rw [hrun] at hmap
    exact ⟨redirect, rfl, (Except.ok.inj hmap).symm⟩

/-- What a lookup in a fixed state ends in. -/
theorem findRedirect_run {domain returnTo : String} {o : ℕ → FederationChoice}
    {redirect : Option DiscoveryResult}
    (h : ((findRedirect domain returnTo).run.run (federation env) o w).1 = .ok redirect) :
    ∀ found, redirect = some found → ∃ connection ∈ w.connections.rows,
      connection.domain = domain ∧ connection.isEnabled = true ∧
      RedirectOf w (decryptRow env connection) found := by
  have hpost : Prog.OnOk (fun found _ => ∀ redirect, found = some redirect →
      ∃ connection ∈ w.connections.rows, connection.domain = domain ∧ connection.isEnabled = true ∧
        RedirectOf w (decryptRow env connection) redirect)
      ((findRedirect domain returnTo).run.run (federation env) o w).1
      ((findRedirect domain returnTo).run.run (federation env) o w).2 :=
    findRedirect_redirect.run_of_choices fun _ _ _ => trivial
  rw [h] at hpost
  exact hpost

end discovery

/-! ## Discovery in a state that is reached -/

/-- Two answers that are the same, but for the email that the choice of a tenant repeats. -/
def SameAnswer (publicBaseUrl returnTo email email' : String) (found found' : DiscoveryResult) : Prop :=
  found = found' ∨
    found = .selectTenant (buildSelectTenantUrl publicBaseUrl email returnTo) ∧
      found' = .selectTenant (buildSelectTenantUrl publicBaseUrl email' returnTo)

/-- The state that a schedule of requests leads to, from one without domains and connections. -/
def realmAt {κ : Type} [DecidableEq κ] (env : FederationEnv) (requests : κ → RealmRequest)
    (agents : AgentWorld) (sched : List (κ × FederationChoice)) : FederationWorld :=
  ((administered requests (.start agents)).run (federationFor κ env) sched).world

section routing

variable {κ : Type} [DecidableEq κ] {env : FederationEnv} {requests : κ → RealmRequest}
  {agents : AgentWorld} {sched : List (κ × FederationChoice)}

theorem owned_realmAt : Owned (realmAt env requests agents sched) := by
  apply owned_run
  rintro connection ⟨⟩

/-- A SAML redirect of a connection whose configuration names no provider of another tenant. -/
theorem pointsWithin_of_namesOwnProvider {w : FederationWorld} {connection : TenantConnectionRow}
    {found : DiscoveryResult} (hfound : RedirectOf w connection found) (hown : NamesOwnProvider w connection) :
    found.PointsWithin w connection.tenantId := by
  cases found with
  | saml ssoUrl samlRequest relayState =>
      obtain ⟨-, provider, hmem, hid, hurl⟩ := hfound
      exact ⟨provider, hmem, hown provider hmem hid, hurl⟩
  | _ => trivial

/-- **Discovery routes to the owner of the domain.** In every state that is reached, a federated redirect is
one of an enabled connection, and the tenant of that connection is the one that has verified the email's
domain. It points at that tenant's provider, unless the configuration names another's; and another email
has the same answer if its domain is spelled the same, or no connection has either spelling. -/
theorem discovery_routes_to_owner {lib : FederationLibraries} {publicBaseUrl email returnTo : String}
    {o : ℕ → FederationChoice} {found : DiscoveryResult}
    (hfound : ((discover lib publicBaseUrl email returnTo).run.run (federation env) o
      (realmAt env requests agents sched)).1 = .ok found) :
    ((∀ url, found ≠ .selectTenant url) →
      ∃ connection ∈ (realmAt env requests agents sched).connections.rows, connection.isEnabled = true ∧
        connection.domain = emailDomain email ∧
        (∀ tenantId, VerifiedBy tenantId (emailDomain email) (realmAt env requests agents sched) ↔
          tenantId = connection.tenantId) ∧
        RedirectOf (realmAt env requests agents sched) (decryptRow env connection) found ∧
        (NamesOwnProvider (realmAt env requests agents sched) (decryptRow env connection) →
          found.PointsWithin (realmAt env requests agents sched) connection.tenantId)) ∧
    ∀ email' found', ((discover lib publicBaseUrl email' returnTo).run.run (federation env) o
        (realmAt env requests agents sched)).1 = .ok found' →
      (emailDomain email' = emailDomain email ∨
        ¬ LeadsOn (emailDomain email) (realmAt env requests agents sched) ∧
          ¬ LeadsOn (emailDomain email') (realmAt env requests agents sched)) →
      SameAnswer publicBaseUrl returnTo email email' found found' := by
  obtain ⟨redirect, hrun, hanswer⟩ := discover_run hfound
  have hredirect := findRedirect_run hrun
  constructor
  · intro hfederated
    cases redirect with
    | none => exact absurd hanswer (hfederated _)
    | some found₀ =>
        obtain rfl : found = found₀ := hanswer
        obtain ⟨connection, hmem, hdomain, henabled, hof⟩ := hredirect found rfl
        refine ⟨connection, hmem, henabled, hdomain, fun tenantId => ?_, hof, fun hown => ?_⟩
        · have hverified := owned_realmAt connection hmem
          rw [hdomain] at hverified
          constructor
          · intro h
            exact h.unique hverified
          · rintro rfl
            exact hverified
        · have hpoints := pointsWithin_of_namesOwnProvider hof hown
          exact hpoints
  · intro email' found' hfound' hspelling
    obtain ⟨redirect', hrun', hanswer'⟩ := discover_run hfound'
    rcases hspelling with hsame | ⟨hnone, hnone'⟩
    · rw [hsame, hrun] at hrun'
      obtain rfl := Except.ok.inj hrun'
      cases redirect with
      | none => exact .inr ⟨hanswer, hanswer'⟩
      | some found₀ =>
          rw [Option.getD_some] at hanswer hanswer'
          exact .inl (hanswer.trans hanswer'.symm)
    · have hnothing : redirect = none := by
        by_contra hsome
        obtain ⟨found₀, rfl⟩ := Option.ne_none_iff_exists'.mp hsome
        obtain ⟨connection, hmem, hdomain, henabled, -⟩ := hredirect found₀ rfl
        exact hnone ⟨connection, hmem, hdomain, henabled⟩
      have hnothing' : redirect' = none := by
        by_contra hsome
        obtain ⟨found₀, rfl⟩ := Option.ne_none_iff_exists'.mp hsome
        obtain ⟨connection, hmem, hdomain, henabled, -⟩ := findRedirect_run hrun' found₀ rfl
        exact hnone' ⟨connection, hmem, hdomain, henabled⟩
      subst hnothing hnothing'
      exact .inr ⟨hanswer, hanswer'⟩

end routing

/-! ### Another tenant's provider -/

/-- The tenant `acme` verifies its domain; `beta` has a SAML provider; and a connection of `acme`'s names
it. -/
def betaRealm : ℕ → RealmRequest
  | 0 => .createDomain "acme" "acme.example"
  | 1 => .markVerified "acme" (Ulid.repeating 'A').text
  | 2 => .createProvider ⟨"", "beta", "beta", "beta-idp", "https://idp.beta.example/sso", none, "sp", "acs",
      none, "default", false⟩
  | _ => .createConnection "acme" .saml "acme.example"
      (.obj [("provider_id", .str (Ulid.repeating 'B').text)])

/-- Both tenants are there. -/
def acmeAndBeta : AgentWorld := .start (World.empty [⟨"acme"⟩, ⟨"beta"⟩]) []

/-- One request after the other. -/
def betaSchedule : List (ℕ × FederationChoice) :=
  [(0, .plain 'A' 0), (1, .plain 'A' 0), (2, .plain 'B' 0), (3, .plain 'C' 0), (3, .plain 'C' 0)]

/-- The state they lead to. -/
abbrev betaWorld : FederationWorld := realmAt .plain betaRealm acmeAndBeta betaSchedule

/-- Discovery leads Ada of `acme`. -/
theorem ada_discovers_beta :
    ((discover .plain "https://sso.example" "ada@acme.example" "https://app.example/").run.run
      (federation .plain) (fun _ => .plain 'D' 0) betaWorld).1 =
    .ok (.saml "https://idp.beta.example/sso" "" "") := by
  decide +kernel

/-- Her redirect is one of `acme`'s connection, and `acme` has verified her domain. -/
theorem ada_routes_to_acme :
    ∃ connection ∈ betaWorld.connections.rows, connection.isEnabled = true ∧
      connection.domain = emailDomain "ada@acme.example" ∧
      (∀ tenantId, VerifiedBy tenantId (emailDomain "ada@acme.example") betaWorld ↔
        tenantId = connection.tenantId) ∧
      RedirectOf betaWorld (decryptRow .plain connection) (.saml "https://idp.beta.example/sso" "" "") ∧
      (NamesOwnProvider betaWorld (decryptRow .plain connection) →
        DiscoveryResult.PointsWithin betaWorld connection.tenantId
          (.saml "https://idp.beta.example/sso" "" "")) :=
  (discovery_routes_to_owner ada_discovers_beta).1 fun url h => by cases h

/-- The connection is `acme`'s and every provider is `beta`'s, and Ada is led to one; and written in upper
case, her domain leads nowhere. -/
theorem discovery_misroutes :
    betaWorld.connections.rows.map (fun c => c.tenantId) = ["acme"] ∧
    betaWorld.providers.rows.map (fun p => p.tenantId) = ["beta"] ∧
    ((discover .plain "https://sso.example" "ada@acme.example" "https://app.example/").run.run
      (federation .plain) (fun _ => .plain 'D' 0) betaWorld).1 =
      .ok (.saml "https://idp.beta.example/sso" "" "") ∧
    ((discover .plain "https://sso.example" "ada@ACME.example" "https://app.example/").run.run
      (federation .plain) (fun _ => .plain 'D' 0) betaWorld).1 =
      .ok (.selectTenant (buildSelectTenantUrl "https://sso.example" "ada@ACME.example"
        "https://app.example/")) ∧
    eqIgnoreAsciiCase (emailDomain "ada@acme.example") (emailDomain "ada@ACME.example") = true := by
  refine ⟨?_, ?_, ada_discovers_beta, ?_, ?_⟩
  · decide +kernel
  · decide +kernel
  · decide +kernel
  · decide +kernel

end SsoGateway
