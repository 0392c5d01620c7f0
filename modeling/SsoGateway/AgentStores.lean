import SsoGateway.Auth
import SsoGateway.Gateway
import SsoGateway.Lib.Cache

/-!
# The stores of the agents

The tables of delegations and act-tokens under that of agents, the two caches of the token authority
of one replica, and every call the agent service and the authentication middleware make.

* `AgentWorld` — the state: the gateway's world, the two tables with the constraints of the
  migration, the states of memberships, the caches.
* `AgentSig`, `agentGateway` — the signature and its handler.

A row of `agents` that goes takes its delegations and their act-tokens with it
(`AgentWorld.cascade`).

Source: `db/agent.rs`, `db/agent_delegation.rs`, `db/agent_act_token.rs`, `agent_tokens.rs`,
`20260715180000_agents.sql`.
-/

namespace SsoGateway

open Lib

/-! ## Rows -/

/-- Source: `db/agent_delegation.rs` `AgentDelegationRow`. Instants are seconds. -/
structure AgentDelegationRow where
  id : String
  tenantId : String
  agentId : String
  userIdentityId : String
  scopes : List String
  expiresAt : ℤ
  revokedAt : Option ℤ
deriving DecidableEq, Repr

/-- Source: `db/agent_act_token.rs` `AgentActTokenRow`. -/
structure AgentActTokenRow where
  tokenHash : String
  delegationId : String
  tenantId : String
  agentId : String
  userIdentityId : String
  scopes : List String
  expiresAt : ℤ
deriving DecidableEq, Repr

/-- Source: `agent_tokens.rs` `ActTokenResolution`. -/
structure ActTokenResolution where
  tenantId : String
  userIdentityId : String
  agentId : String
  delegationId : String
  scopes : List String
  expiresAt : ℤ
deriving DecidableEq, Repr

/-- Source: `agent_tokens.rs` `InvalidationMessage`. -/
inductive InvalidationMessage where
  | delegation (id : String)
  | agent (id : String)
deriving DecidableEq, Repr

/-- The resolutions a message is about: those of the delegation, or of the agent. -/
def InvalidationMessage.Covers : InvalidationMessage → ActTokenResolution → Prop
  | .delegation id, res => res.delegationId = id
  | .agent id, res => res.agentId = id

/-- A cached resolution a message is about; a negative entry is about no grant. -/
def InvalidationMessage.CoversEntry (m : InvalidationMessage) (entry : Option ActTokenResolution) :
    Prop := ∃ res, entry = some res ∧ m.Covers res

instance (m : InvalidationMessage) (res : ActTokenResolution) : Decidable (m.Covers res) := by
  unfold InvalidationMessage.Covers
  split
  · exact inferInstance
  · exact inferInstance

instance (m : InvalidationMessage) : DecidablePred m.CoversEntry
  | none => .isFalse fun ⟨_, h, _⟩ => by cases h
  | some res => decidable_of_iff (m.Covers res)
      ⟨fun h => ⟨res, rfl, h⟩, fun ⟨_, h, hc⟩ => by cases h; exact hc⟩

/-! ## Statements on agents -/

/-- The row as `UPDATE agents SET … WHERE tenant_id = t AND id = i` leaves it. -/
def amendAgent (f : AgentRow → AgentRow) (tenantId id : String) (a : AgentRow) : AgentRow :=
  if a.tenantId = tenantId ∧ a.id = id then { f a with id := a.id, tenantId := a.tenantId } else a

@[simp] theorem amendAgent_id (f : AgentRow → AgentRow) (t i : String) (a : AgentRow) :
    (amendAgent f t i a).id = a.id := by
  unfold amendAgent
  split <;> rfl

@[simp] theorem amendAgent_tenantId (f : AgentRow → AgentRow) (t i : String) (a : AgentRow) :
    (amendAgent f t i a).tenantId = a.tenantId := by
  unfold amendAgent
  split <;> rfl

/-- `UPDATE agents SET … WHERE tenant_id = t AND id = i`. -/
def Db.updateAgent (db : Db) (f : AgentRow → AgentRow) (tenantId id : String) : Db :=
  { db with
    agents := db.agents.map (amendAgent f tenantId id)
    agentKey := by
      rw [List.pairwise_map]
      exact db.agentKey.imp fun h => by simpa using h
    agentTenant := fun a ha => by
      obtain ⟨a', ha', rfl⟩ := List.mem_map.mp ha
      rw [amendAgent_tenantId]
      exact db.agentTenant a' ha' }

/-- `SELECT … FROM agents WHERE tenant_id = t AND id = i`. -/
def Db.findAgentOf (db : Db) (tenantId id : String) : Option AgentRow :=
  db.agents.find? fun a => a.tenantId = tenantId ∧ a.id = id

/-! ## The world -/

/-- Source: `db/tenant_membership.rs` `TenantMembershipRow`, with the column that grants are checked
against. -/
structure MembershipState where
  tenantId : String
  identityId : String
  state : String
deriving DecidableEq, Repr

/-- The gateway's world with the tables of the grants, and the caches of one replica. -/
structure AgentWorld where
  base : World
  delegations : List AgentDelegationRow
  actTokens : List AgentActTokenRow
  membershipStates : List MembershipState
  /-- Token hash to resolution; `none` is a token that is no act-token. -/
  actCache : Cache String (Option ActTokenResolution)
  /-- Agent id to status; `none` is an id that is no agent. -/
  statusCache : Cache String (Option String)
  /-- `agent_delegations.id PRIMARY KEY`. -/
  delegationKey : delegations.Pairwise fun d d' => d.id ≠ d'.id
  /-- `agent_delegations.agent_id REFERENCES agents(id)`. -/
  delegationAgent : ∀ d ∈ delegations, ∃ a ∈ base.db.agents, a.id = d.agentId
  /-- `agent_act_tokens.token_hash PRIMARY KEY`. -/
  tokenKey : actTokens.Pairwise fun r r' => r.tokenHash ≠ r'.tokenHash
  /-- `agent_act_tokens.delegation_id REFERENCES agent_delegations(id)`. -/
  tokenDelegation : ∀ r ∈ actTokens, ∃ d ∈ delegations, d.id = r.delegationId

namespace AgentWorld

theorem noDelegations_key : ([] : List AgentDelegationRow).Pairwise fun d d' => d.id ≠ d'.id := .nil

theorem noTokens_key : ([] : List AgentActTokenRow).Pairwise
    fun r r' => r.tokenHash ≠ r'.tokenHash := .nil

/-- A replica that has just started, on a world without grants. -/
def start (base : World) (membershipStates : List MembershipState) : AgentWorld where
  base := base
  delegations := []
  actTokens := []
  membershipStates := membershipStates
  actCache := .empty
  statusCache := .empty
  delegationKey := noDelegations_key
  delegationAgent := by simp
  tokenKey := noTokens_key
  tokenDelegation := by simp

/-- The delegations whose agent is still there. -/
def delegationsOf (w : AgentWorld) (db : Db) : List AgentDelegationRow :=
  w.delegations.filter fun d => ∃ a ∈ db.agents, a.id = d.agentId

/-- The gateway's world changes: what no longer has an agent goes (`ON DELETE CASCADE`). -/
def cascade (w : AgentWorld) (base : World) : AgentWorld :=
  { w with
    base := base
    delegations := w.delegationsOf base.db
    actTokens := w.actTokens.filter fun r => ∃ d ∈ w.delegationsOf base.db, d.id = r.delegationId
    delegationKey := w.delegationKey.filter _
    delegationAgent := fun d hd => by simpa using (List.mem_filter.mp hd).2
    tokenKey := w.tokenKey.filter _
    tokenDelegation := fun r hr => by simpa using (List.mem_filter.mp hr).2 }

/-- `UPDATE agents`. -/
def updateAgent (w : AgentWorld) (f : AgentRow → AgentRow) (tenantId id : String) : AgentWorld :=
  { w with
    base := { w.base with db := w.base.db.updateAgent f tenantId id }
    delegationAgent := fun d hd => by
      obtain ⟨a, ha, hid⟩ := w.delegationAgent d hd
      exact ⟨_, List.mem_map_of_mem ha, (amendAgent_id f tenantId id a).trans hid⟩ }

/-- `INSERT INTO agent_delegations`. -/
def insertDelegation (w : AgentWorld) (d : AgentDelegationRow) : Except DbError AgentWorld :=
  if hkey : (d :: w.delegations).Pairwise fun d d' => d.id ≠ d'.id then
    if hagent : ∃ a ∈ w.base.db.agents, a.id = d.agentId then
      .ok { w with
        delegations := d :: w.delegations
        delegationKey := hkey
        delegationAgent := fun d' hd' => by
          rcases List.mem_cons.mp hd' with rfl | hd'
          · exact hagent
          · exact w.delegationAgent d' hd'
        tokenDelegation := fun r hr => by
          obtain ⟨d', hd', hid⟩ := w.tokenDelegation r hr
          exact ⟨d', List.mem_cons_of_mem d hd', hid⟩ }
    else .error Db.missingReference
  else .error Db.duplicateKey

/-- The row as `UPDATE agent_delegations SET revoked_at = COALESCE(revoked_at, NOW()) WHERE
tenant_id = t AND id = i` leaves it. -/
def markRevoked (tenantId id : String) (now : ℤ) (d : AgentDelegationRow) : AgentDelegationRow :=
  if d.tenantId = tenantId ∧ d.id = id then { d with revokedAt := some (d.revokedAt.getD now) } else d

@[simp] theorem markRevoked_id (t i : String) (now : ℤ) (d : AgentDelegationRow) :
    (markRevoked t i now d).id = d.id := by
  unfold markRevoked
  split <;> rfl

@[simp] theorem markRevoked_agentId (t i : String) (now : ℤ) (d : AgentDelegationRow) :
    (markRevoked t i now d).agentId = d.agentId := by
  unfold markRevoked
  split <;> rfl

/-- `UPDATE agent_delegations SET revoked_at = COALESCE(revoked_at, NOW())`. -/
def revokeDelegation (w : AgentWorld) (tenantId id : String) (now : ℤ) : AgentWorld :=
  { w with
    delegations := w.delegations.map (markRevoked tenantId id now)
    delegationKey := by
      rw [List.pairwise_map]
      exact w.delegationKey.imp fun h => by simpa using h
    delegationAgent := fun d hd => by
      obtain ⟨d', hd', rfl⟩ := List.mem_map.mp hd
      rw [markRevoked_agentId]
      exact w.delegationAgent d' hd'
    tokenDelegation := fun r hr => by
      obtain ⟨d, hd, hid⟩ := w.tokenDelegation r hr
      exact ⟨_, List.mem_map_of_mem hd, (markRevoked_id tenantId id now d).trans hid⟩ }

/-- `INSERT INTO agent_act_tokens`. -/
def insertActToken (w : AgentWorld) (r : AgentActTokenRow) : Except DbError AgentWorld :=
  if hkey : (r :: w.actTokens).Pairwise fun r r' => r.tokenHash ≠ r'.tokenHash then
    if hdelegation : ∃ d ∈ w.delegations, d.id = r.delegationId then
      .ok { w with
        actTokens := r :: w.actTokens
        tokenKey := hkey
        tokenDelegation := fun r' hr' => by
          rcases List.mem_cons.mp hr' with rfl | hr'
          · exact hdelegation
          · exact w.tokenDelegation r' hr' }
    else .error Db.missingReference
  else .error Db.duplicateKey

end AgentWorld

/-! ## Callers -/

/-- Source: `auth.rs` `ActorContext`. -/
structure ActorContext where
  agentId : String
  delegationId : String
deriving DecidableEq, Repr

/-- Source: `auth.rs` `AuthContext`, with the fields the modelled services do not read. -/
structure FullAuthContext extends AuthContext where
  actor : Option ActorContext
  tokenHash : String
  authenticationMethods : List String
deriving DecidableEq, Repr

/-- Source: `auth.rs` `IntrospectionResult`; nothing reads its expiry. -/
structure IntrospectionResult where
  active : Bool
  sub : Option String
  scope : List String
  authenticationMethods : List String
deriving DecidableEq, Repr

/-- Source: `auth.rs` `AuthError`, the variants that authentication tells apart. -/
inductive AuthError where
  | introspectionFailed
  | database
  | unknownSubject
deriving DecidableEq, Repr

/-- Source: `session_token.rs`, the claims of a session cookie that are read. -/
structure SessionClaims where
  tenantId : String
  sub : String
  sid : String
deriving DecidableEq, Repr

/-! ## The calls -/

/-- Parameters of a run. -/
structure AgentEnv where
  /-- Those of the gateway's calls. -/
  gateway : Env
  /-- `hash_token`: SHA-256. -/
  hashToken : String → String
  /-- `SessionTokenSigner::verify`. -/
  verifySession : String → Option SessionClaims
  /-- `Ulid::from_string` accepts the text. -/
  isUlid : String → Bool
  /-- The `Debug` text of a string. -/
  debugText : String → String
  /-- How long the caches keep an entry, in seconds. -/
  cacheTtl : ℤ
  /-- The lifetime of an act-token, in seconds. -/
  actTokenTtl : ℤ

/-- Every call of the agent service, the token authority and the middleware. -/
inductive AgentServiceOp where
  | gateway (op : GatewayOp)
  | getAgent (tenantId id : String)
  | setAgentName (tenantId id name : String)
  | setAgentStatus (tenantId id status : String)
  | getMembership (tenantId identityId : String)
  | createDelegation (tenantId agentId userIdentityId : String) (scopes : List String)
      (expiresAt : ℤ)
  | getDelegation (tenantId id : String)
  | getDelegationById (id : String)
  | revokeDelegation (tenantId id : String)
  | insertActToken (row : AgentActTokenRow)
  | getActToken (tokenHash : String)
  /-- `OsRng.fill_bytes` and `hex::encode`. -/
  | randomHex
  | actCacheGet (tokenHash : String)
  | actCacheInsert (tokenHash : String) (entry : Option ActTokenResolution)
  /-- `invalidate_entries_if` with `run_pending_tasks`. -/
  | actCacheInvalidateIf (message : InvalidationMessage)
  | statusCacheGet (agentId : String)
  | statusCacheInsert (agentId : String) (entry : Option String)
  | statusCacheInvalidate (agentId : String)
  /-- `TokenIntrospector::introspect`. -/
  | introspect (token : String)
  /-- `SessionStore::is_active`. -/
  | sessionActive (sid : String)
  /-- `request.extensions_mut().insert(…)` of the target tenant and the context. -/
  | attachContext (tenantId : String) (ctx : FullAuthContext)

/-- The answers. -/
@[reducible] def AgentServiceOp.Res : AgentServiceOp → Type
  | .gateway op => op.Res
  | .getAgent _ _ => Except DbError AgentRow
  | .setAgentName _ _ _ => Except DbError AgentRow
  | .setAgentStatus _ _ _ => Except DbError AgentRow
  | .getMembership _ _ => Except DbError MembershipState
  | .createDelegation _ _ _ _ _ => Except DbError AgentDelegationRow
  | .getDelegation _ _ => Except DbError AgentDelegationRow
  | .getDelegationById _ => Except DbError AgentDelegationRow
  | .revokeDelegation _ _ => Except DbError AgentDelegationRow
  | .insertActToken _ => Except DbError Unit
  | .getActToken _ => Except DbError (Option AgentActTokenRow)
  | .randomHex => String
  | .actCacheGet _ => Option (Option ActTokenResolution)
  | .actCacheInsert _ _ => Unit
  | .actCacheInvalidateIf _ => Unit
  | .statusCacheGet _ => Option (Option String)
  | .statusCacheInsert _ _ => Unit
  | .statusCacheInvalidate _ => Unit
  | .introspect _ => Except AuthError IntrospectionResult
  | .sessionActive _ => Except DbError Bool
  | .attachContext _ _ => Unit

/-- The signature of the agent service. -/
@[reducible] def AgentSig : Sig := ⟨AgentServiceOp, AgentServiceOp.Res⟩

/-- Source: `auth.rs` `parse_authentication_methods`. -/
def parseAuthenticationMethods (v : Value) : List String :=
  let amr := match (v.get "ext").bind fun ext => ext.get "authentication_methods" with
    | some methods => some methods
    | none => v.get "authentication_methods"
  ((amr.bind Value.asArray).getD []).filterMap fun entry =>
    match (entry.get "method").bind Value.asStr with
    | some method => some method
    | none => entry.asStr

/-- Source: `auth.rs` `IntrospectionResult::from_hydra`. -/
def IntrospectionResult.fromHydra (v : Value) : IntrospectionResult where
  active := (v.index "active").asBool = some true
  sub := (v.index "sub").asStr
  scope := match (v.index "scope").asStr with
    | some scope => splitAt scope ' '
    | none => []
  authenticationMethods := parseAuthenticationMethods v

namespace AgentWorld

/-- A reading statement. -/
def read {α : Type} (w : AgentWorld) (c : Choice) (r : Except DbError α) :
    Except DbError α × AgentWorld :=
  Fault.answer Fault.sqlx w (r, w) (c.fault 0)

/-- `INSERT …`: the new world, or the error and no change. -/
def write {α : Type} (w : AgentWorld) (c : Choice) (r : Except DbError AgentWorld) (a : α) :
    Except DbError α × AgentWorld :=
  Fault.answer Fault.sqlx w
    (match r with
      | .ok w' => (.ok a, w')
      | .error e => (.error e, w)) (c.fault 0)

/-- `UPDATE … RETURNING …` followed by `ok_or(err)`. -/
def update {α : Type} (w : AgentWorld) (c : Choice) (err : DbError) (row : Option α)
    (w' : AgentWorld) : Except DbError α × AgentWorld :=
  Fault.answer Fault.sqlx w
    (match row with
      | some a => (.ok a, w')
      | none => (.error err, w)) (c.fault 0)

end AgentWorld

/-- What every call does. The caches answer from memory and do not fail; what Hydra says of a token,
and whether a session is active, is left to the environment. -/
def agentGateway (env : AgentEnv) : Handler AgentSig Choice AgentWorld
  | .gateway op, c, w =>
      let r := gateway env.gateway op c w.base
      (r.1, w.cascade r.2)
  | .getAgent t i, c, w => w.read c (orNotFound .agentNotFound id (w.base.db.findAgentOf t i))
  | .setAgentName t i name, c, w =>
      w.update c .agentNotFound
        ((w.base.db.findAgentOf t i).map (amendAgent (fun a => { a with name := name }) t i))
        (w.updateAgent (fun a => { a with name := name }) t i)
  | .setAgentStatus t i status, c, w =>
      w.update c .agentNotFound
        ((w.base.db.findAgentOf t i).map (amendAgent (fun a => { a with status := status }) t i))
        (w.updateAgent (fun a => { a with status := status }) t i)
  | .getMembership t i, c, w =>
      w.read c (orNotFound .membershipNotFound id
        (w.membershipStates.find? fun m => m.tenantId = t ∧ m.identityId = i))
  | .createDelegation t a u scopes expiresAt, c, w =>
      let d : AgentDelegationRow := ⟨c.ulid, t, a, u, scopes, expiresAt, none⟩
      w.write c (w.insertDelegation d) d
  | .getDelegation t i, c, w =>
      w.read c (orNotFound .agentDelegationNotFound id
        (w.delegations.find? fun d => d.tenantId = t ∧ d.id = i))
  | .getDelegationById i, c, w =>
      w.read c (orNotFound .agentDelegationNotFound id (w.delegations.find? fun d => d.id = i))
  | .revokeDelegation t i, c, w =>
      w.update c .agentDelegationNotFound
        ((w.delegations.find? fun d => d.tenantId = t ∧ d.id = i).map
          (AgentWorld.markRevoked t i c.now))
        (w.revokeDelegation t i c.now)
  | .insertActToken row, c, w => w.write c (w.insertActToken row) ()
  | .getActToken h, c, w => w.read c (.ok (w.actTokens.find? fun r => r.tokenHash = h))
  | .randomHex, c, w => (c.ulid, w)
  | .actCacheGet h, c, w => (w.actCache.get env.cacheTtl c.now h, w)
  | .actCacheInsert h entry, c, w => ((), { w with actCache := w.actCache.insert c.now h entry })
  | .actCacheInvalidateIf m, _, w =>
      ((), { w with actCache := w.actCache.invalidateIf m.CoversEntry })
  | .statusCacheGet i, c, w => (w.statusCache.get env.cacheTtl c.now i, w)
  | .statusCacheInsert i entry, c, w =>
      ((), { w with statusCache := w.statusCache.insert c.now i entry })
  | .statusCacheInvalidate i, _, w => ((), { w with statusCache := w.statusCache.invalidate i })
  | .introspect _, c, w =>
      (match c.fault 0 with
        | some _ => .error .introspectionFailed
        | none => .ok (.fromHydra c.doc), w)
  | .sessionActive _, c, w => w.read c (.ok (c.doc.asBool = some true))
  | .attachContext _ _, _, w => ((), w)

end SsoGateway
