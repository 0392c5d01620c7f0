import SsoGateway.Lib.Clock
import SsoGateway.Lib.Machine
import SsoGateway.Revocation

/-!
# The act-token cache against the tables

A resolve answers from the cache where it can, for as long as the entry lives. What it should answer is
what the tables say at that moment: the row of the token, its delegation and the status of its agent.

* `AgentWorld.resolveHash` — what the tables say.
* `CacheSound` — what every entry of the cache says of the tables; each call keeps it, apart from those
  between a write and the eviction that follows it.
* `act_token_cache_transparent` — calls one after another: each resolve answers what the tables say, as
  long as no agent is made active, and no token issued, while a refusal of the token is cached.
* `enabled_agent_refused` — a refusal that was cached while the agent was disabled.

Source: `agent_tokens.rs` `resolve_act_token`, `evict_delegation`, `evict_agent`; `services/agent.rs`
`update_agent`.
-/

namespace SsoGateway

open Lib

/-- The row a search finds where only one row matches. -/
theorem find?_of_unique {α : Type} {l : List α} {P : α → Prop} [DecidablePred P] {a : α} (ha : a ∈ l)
    (hP : P a) (huniq : ∀ b ∈ l, P b → b = a) : l.find? (fun x => P x) = some a := by
  cases hfind : l.find? (fun x => P x) with
  | none => exact absurd hP (by simpa using List.find?_eq_none.mp hfind a ha)
  | some b =>
      have hb : P b := by simpa using List.find?_some hfind
      exact congrArg some (huniq b (List.mem_of_find?_eq_some hfind) hb)

/-! ## What the tables say -/

namespace AgentWorld

/-- A token by the tables alone: its row has not expired, its delegation is there, neither revoked nor
expired, and its agent is active. -/
def resolveHash (w : AgentWorld) (now : ℤ) (hash : String) : Option ActTokenResolution := do
  let row ← w.actTokens.find? fun r => r.tokenHash = hash
  let d ← w.delegations.find? fun d => d.id = row.delegationId
  let a ← w.base.db.findAgent row.agentId
  if now < row.expiresAt ∧ d.revokedAt = none ∧ now < d.expiresAt ∧ a.status = agentStatusActive then
    some row.resolution
  else none

/-- An agent has the status. -/
def HasStatus (w : AgentWorld) (id status : String) : Prop :=
  ∃ a ∈ w.base.db.agents, a.id = id ∧ a.status = status

/-- What a valid token rests on, but for the time: its row, a delegation that is not revoked, and an
active agent. -/
structure Grounds (w : AgentWorld) (hash : String) (row : AgentActTokenRow) (d : AgentDelegationRow) :
    Prop where
  row_mem : row ∈ w.actTokens
  row_hash : row.tokenHash = hash
  delegation_mem : d ∈ w.delegations
  delegation_id : d.id = row.delegationId
  unrevoked : d.revokedAt = none
  active : w.HasStatus row.agentId agentStatusActive

variable {w w' : AgentWorld} {hash : String} {row : AgentActTokenRow} {d : AgentDelegationRow} {now : ℤ}

/-- The grounds are read from the tables only. -/
@[simp] theorem grounds_withCache {cache : Cache String (Option ActTokenResolution)} :
    AgentWorld.Grounds { w with actCache := cache } hash row d ↔ w.Grounds hash row d :=
  ⟨fun h => ⟨h.1, h.2, h.3, h.4, h.5, h.6⟩, fun h => ⟨h.1, h.2, h.3, h.4, h.5, h.6⟩⟩

/-- Two act-tokens of one hash are the same row. -/
theorem token_unique {r r' : AgentActTokenRow} (hr : r ∈ w.actTokens) (hr' : r' ∈ w.actTokens)
    (h : r.tokenHash = r'.tokenHash) : r = r' := by
  have hsymm : Std.Symm fun r r' : AgentActTokenRow => r.tokenHash ≠ r'.tokenHash :=
    ⟨fun _ _ => Ne.symm⟩
  by_contra hne
  exact w.tokenKey.forall hr hr' hne h

/-- What the tables resolve has grounds. -/
theorem resolveHash_eq_some {res : ActTokenResolution} (h : w.resolveHash now hash = some res) :
    ∃ row d, w.Grounds hash row d ∧ now < row.expiresAt ∧ now < d.expiresAt ∧ res = row.resolution := by
  obtain ⟨row, hrow, h⟩ := Option.bind_eq_some_iff.mp h
  obtain ⟨d, hd, h⟩ := Option.bind_eq_some_iff.mp h
  obtain ⟨a, ha, h⟩ := Option.bind_eq_some_iff.mp h
  obtain ⟨⟨hnow, hrevoked, hlive, hactive⟩, hres⟩ := Option.ite_none_right_eq_some.mp h
  refine ⟨row, d, ?_, hnow, hlive, (Option.some.inj hres).symm⟩
  have hid : a.id = row.agentId := by simpa using List.find?_some ha
  exact ⟨List.mem_of_find?_eq_some hrow, by simpa using List.find?_some hrow,
    List.mem_of_find?_eq_some hd, by simpa using List.find?_some hd, hrevoked,
    a, List.mem_of_find?_eq_some ha, hid, hactive⟩

/-- A token whose grounds have all expired, or that has none, is resolved to nothing. -/
theorem resolveHash_eq_none (h : ∀ row d, w.Grounds hash row d → row.expiresAt ≤ now ∨ d.expiresAt ≤ now) :
    w.resolveHash now hash = none := by
  cases hres : w.resolveHash now hash with
  | none => rfl
  | some res =>
      obtain ⟨row, d, hgrounds, hrow, hd, -⟩ := resolveHash_eq_some hres
      rcases h row d hgrounds with hexpired | hexpired
      · omega
      · omega

/-- A token with grounds is resolved until it expires. -/
theorem Grounds.resolveHash (h : w.Grounds hash row d) (hissued : row.expiresAt ≤ d.expiresAt) (now : ℤ) :
    w.resolveHash now hash = (some row.resolution).filter fun res => now < res.expiresAt := by
  by_cases hnow : now < row.expiresAt
  · obtain ⟨a, ha, haid, hactive⟩ := h.active
    have hrow : w.actTokens.find? (fun r => r.tokenHash = hash) = some row :=
      find?_of_unique h.row_mem h.row_hash fun r hr hhash =>
        token_unique hr h.row_mem (hhash.trans h.row_hash.symm)
    have hd : w.delegations.find? (fun d => d.id = row.delegationId) = some d :=
      find?_of_unique h.delegation_mem h.delegation_id fun d' hd' hid =>
        delegation_unique hd' h.delegation_mem (hid.trans h.delegation_id.symm)
    have hagent : w.base.db.findAgent row.agentId = some a :=
      find?_of_unique ha haid fun a' ha' hid => agent_unique ha' ha (hid.trans haid.symm)
    have hlive : now < d.expiresAt := by omega
    have hres : (some row.resolution).filter (fun res => decide (now < res.expiresAt)) =
        some row.resolution := by simp [AgentActTokenRow.resolution, hnow]
    unfold AgentWorld.resolveHash
    simp only [hres, hrow, hd, hagent, Option.bind_eq_bind, Option.bind_some]
    exact if_pos ⟨hnow, h.unrevoked, hlive, hactive⟩
  · have hnone : (some row.resolution).filter (fun res => decide (now < res.expiresAt)) = none := by
      have hexpired : row.expiresAt ≤ now := by omega
      simp [AgentActTokenRow.resolution, hexpired]
    rw [hnone]
    refine resolveHash_eq_none fun row' d' h' => .inl ?_
    rw [token_unique h'.row_mem h.row_mem (h'.row_hash.trans h.row_hash.symm)]
    omega

end AgentWorld

/-! ## What the cache says of the tables -/

/-- Every token was issued for the agent of its delegation, and not beyond it. -/
def AgentWorld.Issued (w : AgentWorld) : Prop :=
  ∀ row ∈ w.actTokens, ∀ d ∈ w.delegations, d.id = row.delegationId →
    row.expiresAt ≤ d.expiresAt ∧ row.agentId = d.agentId

/-- Every resolution in the cache has grounds in the tables, but for those that are `pending`: still to
be evicted. Of a token whose refusal is cached, the row has expired if it has grounds. -/
structure CacheSound (ttl : ℤ) (pending : ActTokenResolution → Prop) (s : AgentWorld × ℤ) : Prop where
  keyed : s.1.actCache.Keyed
  issued : s.1.Issued
  backed : ∀ hash res t₀, (hash, some res, t₀) ∈ s.1.actCache.entries → ¬ pending res →
    ∃ row d, s.1.Grounds hash row d ∧ row.resolution = res
  refused : ∀ hash t₀, (hash, none, t₀) ∈ s.1.actCache.entries → s.2 < t₀ + ttl →
    ∀ row d, s.1.Grounds hash row d → row.expiresAt ≤ s.2

/-- Nothing is still to be evicted. -/
def nonePending : ActTokenResolution → Prop := fun _ => False

namespace CacheSound

variable {ttl T T' : ℤ} {pending pending' : ActTokenResolution → Prop} {w w' : AgentWorld}

/-- **A change of the tables.** The cache stays sound if the grounds of the tokens whose refusal is
cached do not grow, and the grounds of the others stay. -/
theorem change (h : CacheSound ttl pending (w, T)) (hT : T ≤ T') (hkeyed : w'.actCache.Keyed)
    (hcache : ∀ e ∈ w'.actCache.entries, e ∈ w.actCache.entries) (hissued : w'.Issued)
    (hfewer : ∀ hash t₀, (hash, none, t₀) ∈ w.actCache.entries → T' < t₀ + ttl → ∀ row d,
      w'.Grounds hash row d → w.Grounds hash row d)
    (hpending : ∀ res, ¬ pending' res → ¬ pending res)
    (hkept : ∀ hash row d, w.Grounds hash row d → ¬ pending' row.resolution → w'.Grounds hash row d) :
    CacheSound ttl pending' (w', T') where
  keyed := hkeyed
  issued := hissued
  backed := by
    intro hash res t₀ he hres
    obtain ⟨row, d, hgrounds, rfl⟩ := h.backed hash res t₀ (hcache _ he) (hpending res hres)
    exact ⟨row, d, hkept hash row d hgrounds hres, rfl⟩
  refused := by
    intro hash t₀ he hlive row d hgrounds
    simp only at hlive ⊢
    have hrow := h.refused hash t₀ (hcache _ he) (by simp only; omega) row d
      (hfewer hash t₀ (hcache _ he) hlive row d hgrounds)
    simp only at hrow
    omega

/-- The clock goes on. -/
theorem later (h : CacheSound ttl pending (w, T)) (hT : T ≤ T') : CacheSound ttl pending (w, T') :=
  h.change hT h.keyed (fun _ he => he) h.issued (fun _ _ _ _ _ _ hg => hg) (fun _ hres => hres)
    fun _ _ _ hg _ => hg

/-- An answer of the tables is cached. -/
theorem insert (h : CacheSound ttl nonePending (w, T)) {hash : String} {entry : Option ActTokenResolution}
    {now : ℤ} (hbacked : ∀ res, entry = some res → ∃ row d, w.Grounds hash row d ∧ row.resolution = res)
    (hrefused : entry = none → ∀ row d, w.Grounds hash row d → row.expiresAt ≤ T) :
    CacheSound ttl nonePending ({ w with actCache := w.actCache.insert now hash entry }, T) where
  keyed := Cache.Keyed.insert h.keyed now hash entry
  issued := h.issued
  backed := by
    intro hash' res t₀ he hres
    rcases Cache.mem_insert.mp he with heq | ⟨hold, -⟩
    · obtain ⟨rfl, rfl, -⟩ : hash' = hash ∧ some res = entry ∧ t₀ = now := by simpa using heq
      simpa using hbacked res rfl
    · simpa using h.backed hash' res t₀ hold hres
  refused := by
    intro hash' t₀ he hlive row d hgrounds
    rw [AgentWorld.grounds_withCache] at hgrounds
    rcases Cache.mem_insert.mp he with heq | ⟨hold, -⟩
    · cases heq
      exact hrefused rfl row d hgrounds
    · exact h.refused hash' t₀ hold hlive row d hgrounds

/-- The pending resolutions are evicted. -/
theorem evict {m : InvalidationMessage} (h : CacheSound ttl m.Covers (w, T)) :
    CacheSound ttl nonePending ({ w with actCache := w.actCache.invalidateIf m.CoversEntry }, T) where
  keyed := Cache.Keyed.invalidateIf h.keyed _
  issued := h.issued
  backed := by
    intro hash res t₀ he _
    obtain ⟨hold, hcovers⟩ := Cache.mem_invalidateIf.mp he
    simpa using h.backed hash res t₀ hold fun hres => hcovers ⟨res, rfl, hres⟩
  refused := by
    intro hash t₀ he hlive row d hgrounds
    rw [AgentWorld.grounds_withCache] at hgrounds
    exact h.refused hash t₀ (Cache.mem_invalidateIf.mp he).1 hlive row d hgrounds

/-- What is found in a sound cache is what the tables say. -/
theorem get_some (h : CacheSound ttl nonePending (w, T)) {hash : String} {res : ActTokenResolution}
    (hget : w.actCache.get ttl T hash = some (some res)) (now : ℤ) :
    (some res).filter (fun res => now < res.expiresAt) = w.resolveHash now hash := by
  obtain ⟨t₀, he, -⟩ := (Cache.get_eq_some h.keyed).mp hget
  obtain ⟨row, d, hgrounds, rfl⟩ := h.backed hash res t₀ he id
  have hissued := h.issued row hgrounds.row_mem d hgrounds.delegation_mem hgrounds.delegation_id
  exact (hgrounds.resolveHash hissued.1 now).symm

theorem get_none (h : CacheSound ttl nonePending (w, T)) {hash : String}
    (hget : w.actCache.get ttl T hash = some none) : w.resolveHash T hash = none := by
  obtain ⟨t₀, he, hlive⟩ := (Cache.get_eq_some h.keyed).mp hget
  exact AgentWorld.resolveHash_eq_none fun row d hgrounds =>
    .inl (h.refused hash t₀ he hlive row d hgrounds)

end CacheSound

/-! ## What one call does to the tables -/

section calls

variable {env : AgentEnv} {c : Choice} {w : AgentWorld}

/-- A statement that updates a row: its row is found and written, or it fails and, where no effect is
lost, changes nothing. -/
theorem AgentWorld.update_cases {α : Type} {err : DbError} {row : Option α} {w' : AgentWorld}
    (hc : ∀ f ∈ c.fault 0, f.applied = false) :
    (∃ a, row = some a ∧ w.update c err row w' = (.ok a, w')) ∨
      ∃ e, w.update c err row w' = (.error e, w) := by
  unfold AgentWorld.update Fault.answer
  cases hfault : c.fault 0 with
  | some f => exact .inr ⟨.sqlx f.error.toText, by simp [hc f hfault, Fault.sqlx]⟩
  | none =>
      cases row with
      | some a => exact .inl ⟨a, rfl, rfl⟩
      | none => exact .inr ⟨err, rfl⟩

/-- A statement that inserts a row. -/
theorem AgentWorld.write_cases {α : Type} {r : Except DbError AgentWorld} {a : α}
    (hc : ∀ f ∈ c.fault 0, f.applied = false) :
    (∃ w', r = .ok w' ∧ w.write c r a = (.ok a, w')) ∨ ∃ e, w.write c r a = (.error e, w) := by
  unfold AgentWorld.write Fault.answer
  cases hfault : c.fault 0 with
  | some f => exact .inr ⟨.sqlx f.error.toText, by simp [hc f hfault, Fault.sqlx]⟩
  | none =>
      cases r with
      | ok w' => exact .inl ⟨w', rfl, rfl⟩
      | error e => exact .inr ⟨e, rfl⟩

/-- A statement that fails has changed nothing. -/
theorem Db.write_error {α : Type} {db : Db} {r : Except DbError Db} {a : α} {e : DbError}
    (hc : ∀ f ∈ c.fault 0, f.applied = false) (h : (db.write c r a).1 = .error e) :
    (db.write c r a).2 = db := by
  unfold Db.write Fault.answer at h ⊢
  cases hfault : c.fault 0 with
  | some f => simp [hc f hfault]
  | none =>
      rw [hfault] at h
      cases r with
      | ok db' => cases h
      | error e => rfl

/-- The gateway's world changes and every agent is still there: the grants stay. -/
theorem AgentWorld.cascade_tables {base : World}
    (h : ∀ a ∈ w.base.db.agents, ∃ a' ∈ base.db.agents, a'.id = a.id) :
    (w.cascade base).delegations = w.delegations ∧ (w.cascade base).actTokens = w.actTokens := by
  have hdelegations : w.delegationsOf base.db = w.delegations := by
    refine List.filter_eq_self.mpr fun d hd => ?_
    obtain ⟨a, ha, hid⟩ := w.delegationAgent d hd
    obtain ⟨a', ha', hid'⟩ := h a ha
    exact decide_eq_true ⟨a', ha', hid'.trans hid⟩
  refine ⟨hdelegations, ?_⟩
  refine List.filter_eq_self.mpr fun r hr => ?_
  rw [hdelegations]
  exact decide_eq_true (w.tokenDelegation r hr)

/-- The agents after a call of the gateway that deletes none: those before, and perhaps a new one. -/
theorem gateway_agents {op : GatewayOp} (hop : ∀ t i, op ≠ .agent (.delete t i)) (env : Env) (c : Choice)
    (w : World) : (gateway env op c w).2.db.agents = w.db.agents ∨
      ∃ a, (gateway env op c w).2.db.agents = a :: w.db.agents := by
  have hstep := gateway_step env c w op
  generalize (gateway env op c w).2 = w' at hstep ⊢
  cases hstep with
  | same | directory | tuples | hydra | kratos => exact .inl rfl
  | insertMapping _ h => exact .inl (Db.insertMapping_ok h).2.2.1
  | deleteMapping _ h => exact .inl (Db.deleteMapping_ok h).2.2.2.1
  | updateTenant _ h => exact .inl (Db.updateTenant_ok h).2.2.2.1
  | insertApplication _ h => exact .inl (Db.insertApplication_ok h).2.2.1
  | deleteApplication _ h => exact .inl (Db.deleteApplication_ok h).2.2.1
  | insertAgent _ h => exact .inr ⟨_, (Db.insertAgent_ok h).1⟩
  | deleteAgent h => exact absurd h (hop _ _)

/-- What a neutral call leaves of the grants: the tables as they are, and the status of every agent. -/
structure SameGrants (w w' : AgentWorld) : Prop where
  delegations : w'.delegations = w.delegations
  actTokens : w'.actTokens = w.actTokens
  keyed : w.actCache.Keyed → w'.actCache.Keyed
  cache : ∀ e ∈ w'.actCache.entries, e ∈ w.actCache.entries
  status : ∀ a ∈ w.base.db.agents, ∀ status, w'.HasStatus a.id status ↔ w.HasStatus a.id status

theorem SameGrants.refl (w : AgentWorld) : SameGrants w w :=
  ⟨rfl, rfl, id, fun _ he => he, fun _ _ _ => .rfl⟩

/-- A read changes nothing. -/
theorem AgentWorld.read_snd {α : Type} (r : Except DbError α) : (w.read c r).2 = w :=
  (Fault.answer_snd (c.fault 0)).elim id id

/-- The gateway's world changes, and its agents are as before, but perhaps for a new one. -/
theorem sameGrants_cascade {base : World} (hagents : base.db.agents = w.base.db.agents ∨
    ∃ a, base.db.agents = a :: w.base.db.agents) : SameGrants w (w.cascade base) := by
  have hthere : ∀ a ∈ w.base.db.agents, a ∈ base.db.agents := by
    intro a ha
    rcases hagents with h | ⟨a', h⟩
    · exact h ▸ ha
    · exact h ▸ List.mem_cons_of_mem a' ha
  obtain ⟨hdelegations, htokens⟩ := AgentWorld.cascade_tables fun a ha => ⟨a, hthere a ha, rfl⟩
  refine ⟨hdelegations, htokens, id, fun _ he => he, fun a ha status => ⟨?_, ?_⟩⟩
  · rintro ⟨a', ha', hid, hstatus⟩
    rw [AgentWorld.agent_unique ha' (hthere a ha) hid] at hstatus
    exact ⟨a, ha, rfl, hstatus⟩
  · rintro ⟨a', ha', hid, hstatus⟩
    exact ⟨a', hthere a' ha', hid, hstatus⟩

/-- An update of agents that leaves their statuses alone. -/
theorem sameGrants_updateAgent {f : AgentRow → AgentRow} (hf : ∀ a, (f a).status = a.status) (t i : String) :
    SameGrants w (w.updateAgent f t i) := by
  have hstatus : ∀ a, (amendAgent f t i a).status = a.status := by
    intro a
    unfold amendAgent
    split
    · exact hf a
    · rfl
  refine ⟨rfl, rfl, id, fun _ he => he, fun a _ status => ⟨?_, ?_⟩⟩
  · rintro ⟨a', ha', hid, hs⟩
    obtain ⟨a₀, ha₀, rfl⟩ := List.mem_map.mp ha'
    exact ⟨a₀, ha₀, by simpa using hid, by rw [← hs, hstatus]⟩
  · rintro ⟨a₀, ha₀, hid, hs⟩
    exact ⟨_, List.mem_map_of_mem ha₀, by simpa using hid, by rw [hstatus, hs]⟩

/-- **A neutral call** leaves the grants alone. -/
theorem sameGrants_of_neutral {op : AgentServiceOp} (hop : op.IsNeutral) :
    SameGrants w (agentGateway env op c w).2 := by
  cases op with
  | gateway op =>
      refine sameGrants_cascade (gateway_agents (fun t i heq => ?_) env.gateway c w.base)
      rw [heq] at hop
      exact hop
  | getAgent | getMembership | getDelegation | getDelegationById | getActToken | sessionActive =>
      simp only [agentGateway, AgentWorld.read_snd]
      exact .refl w
  | setAgentName t i name =>
      rcases Fault.answer_snd (c.fault 0) with h | h
      · exact h ▸ .refl w
      · simp only [agentGateway, AgentWorld.update, h]
        split
        · exact sameGrants_updateAgent (f := fun a => { a with name := name }) (fun _ => rfl) t i
        · exact .refl w
  | randomHex | actCacheGet | statusCacheGet | introspect => exact .refl w
  | statusCacheInsert | statusCacheInvalidate => exact ⟨rfl, rfl, id, fun _ he => he, fun _ _ _ => .rfl⟩
  | actCacheInvalidateIf m =>
      exact ⟨rfl, rfl, fun h => Cache.Keyed.invalidateIf h _,
        fun e he => (Cache.mem_invalidateIf.mp he).1, fun _ _ _ => .rfl⟩
  | setAgentStatus | createDelegation | revokeDelegation | insertActToken | actCacheInsert | attachContext =>
      exact absurd hop id

end calls

/-! ## What a call leaves of a sound cache -/

namespace CacheSound

variable {ttl T T' : ℤ} {pending : ActTokenResolution → Prop} {w w' : AgentWorld}

/-- A token that rests on a delegation is for an agent that exists. -/
theorem agent_exists (h : CacheSound ttl pending (w, T)) {row : AgentActTokenRow} {d : AgentDelegationRow}
    (hrow : row ∈ w.actTokens) (hd : d ∈ w.delegations) (hid : d.id = row.delegationId) :
    ∃ a ∈ w.base.db.agents, a.id = row.agentId := by
  obtain ⟨a, ha, haid⟩ := w.delegationAgent d hd
  exact ⟨a, ha, haid.trans (h.issued row hrow d hd hid).2.symm⟩

/-- A call that leaves the grants alone. -/
theorem same (h : CacheSound ttl pending (w, T)) (hw : SameGrants w w') (hT : T ≤ T') :
    CacheSound ttl pending (w', T') := by
  have hissued : w'.Issued := by
    intro row hrow d hd hid
    rw [hw.actTokens] at hrow
    rw [hw.delegations] at hd
    exact h.issued row hrow d hd hid
  refine h.change hT (hw.keyed h.keyed) hw.cache hissued ?_ (fun _ hres => hres) ?_
  · intro hash t₀ he hlive row d hgrounds
    have hrow : row ∈ w.actTokens := hw.actTokens ▸ hgrounds.row_mem
    have hd : d ∈ w.delegations := hw.delegations ▸ hgrounds.delegation_mem
    obtain ⟨a, ha, haid⟩ := h.agent_exists hrow hd hgrounds.delegation_id
    have hactive := hgrounds.active
    rw [← haid] at hactive
    exact ⟨hrow, hgrounds.row_hash, hd, hgrounds.delegation_id, hgrounds.unrevoked,
      haid ▸ (hw.status a ha _).mp hactive⟩
  · intro hash row d hgrounds _
    obtain ⟨a, ha, haid⟩ := h.agent_exists hgrounds.row_mem hgrounds.delegation_mem hgrounds.delegation_id
    have hactive := hgrounds.active
    rw [← haid] at hactive
    exact ⟨hw.actTokens ▸ hgrounds.row_mem, hgrounds.row_hash, hw.delegations ▸ hgrounds.delegation_mem,
      hgrounds.delegation_id, hgrounds.unrevoked, haid ▸ (hw.status a ha _).mpr hactive⟩

/-- A new delegation is the ground of no token yet. -/
theorem insertDelegation (h : CacheSound ttl pending (w, T)) (hT : T ≤ T') {d : AgentDelegationRow}
    (hd : w.insertDelegation d = .ok w') : CacheSound ttl pending (w', T') := by
  have hkey := w'.delegationKey
  obtain ⟨hdelegations, htokens, hcache, hbase⟩ := AgentWorld.insertDelegation_ok hd
  rw [hdelegations] at hkey
  -- a token's delegation is one of the old ones
  have hold : ∀ row ∈ w.actTokens, ∀ d' ∈ w'.delegations, d'.id = row.delegationId → d' ∈ w.delegations := by
    intro row hrow d' hd' hid
    rw [hdelegations] at hd'
    rcases List.mem_cons.mp hd' with rfl | hd'
    · obtain ⟨d₀, hd₀, hid₀⟩ := w.tokenDelegation row hrow
      exact absurd (hid.trans hid₀.symm) ((List.pairwise_cons.mp hkey).1 d₀ hd₀)
    · exact hd'
  have hissued : w'.Issued := by
    intro row hrow d' hd' hid
    rw [htokens] at hrow
    exact h.issued row hrow d' (hold row hrow d' hd' hid) hid
  refine h.change hT (hcache ▸ h.keyed) (fun e he => hcache ▸ he) hissued ?_ (fun _ hres => hres) ?_
  · intro hash t₀ _ _ row d' hg
    have hrow : row ∈ w.actTokens := htokens ▸ hg.row_mem
    exact ⟨hrow, hg.row_hash, hold row hrow d' hg.delegation_mem hg.delegation_id, hg.delegation_id,
      hg.unrevoked, by simpa only [AgentWorld.HasStatus, hbase] using hg.active⟩
  · intro hash row d' hg _
    exact ⟨htokens ▸ hg.row_mem, hg.row_hash, hdelegations ▸ List.mem_cons_of_mem d hg.delegation_mem,
      hg.delegation_id, hg.unrevoked, by simpa only [AgentWorld.HasStatus, hbase] using hg.active⟩

/-- A token is issued within its delegation, and no refusal of it is cached. -/
theorem insertActToken (h : CacheSound ttl pending (w, T)) (hT : T ≤ T') {row : AgentActTokenRow}
    (hrow : w.insertActToken row = .ok w') {d : AgentDelegationRow} (hd : d ∈ w.delegations)
    (hid : d.id = row.delegationId) (hwithin : row.expiresAt ≤ d.expiresAt ∧ row.agentId = d.agentId)
    (hfresh : ∀ t₀, (row.tokenHash, none, t₀) ∈ w.actCache.entries → t₀ + ttl ≤ T') :
    CacheSound ttl pending (w', T') := by
  obtain ⟨htokens, hdelegations, hcache, hbase⟩ := AgentWorld.insertActToken_ok hrow
  have hissued : w'.Issued := by
    intro row' hrow' d' hd' hid'
    rw [htokens] at hrow'
    rw [hdelegations] at hd'
    rcases List.mem_cons.mp hrow' with rfl | hrow'
    · rw [AgentWorld.delegation_unique hd' hd (hid'.trans hid.symm)]
      exact hwithin
    · exact h.issued row' hrow' d' hd' hid'
  refine h.change hT (hcache ▸ h.keyed) (fun e he => hcache ▸ he) hissued ?_ (fun _ hres => hres) ?_
  · intro hash t₀ he hlive row' d' hg
    have hmem := hg.row_mem
    rw [htokens] at hmem
    rcases List.mem_cons.mp hmem with rfl | hmem
    · -- the refusal of the new token has expired
      have hexpired := hfresh t₀ (hg.row_hash ▸ he)
      omega
    · exact ⟨hmem, hg.row_hash, hdelegations ▸ hg.delegation_mem, hg.delegation_id, hg.unrevoked,
        by simpa only [AgentWorld.HasStatus, hbase] using hg.active⟩
  · intro hash row' d' hg _
    exact ⟨htokens ▸ List.mem_cons_of_mem row hg.row_mem, hg.row_hash, hdelegations ▸ hg.delegation_mem,
      hg.delegation_id, hg.unrevoked, by simpa only [AgentWorld.HasStatus, hbase] using hg.active⟩

/-- A delegation is revoked: its tokens are to be evicted. -/
theorem revokeDelegation (h : CacheSound ttl nonePending (w, T)) (hT : T ≤ T') (t i : String) (now : ℤ) :
    CacheSound ttl (InvalidationMessage.delegation i).Covers (w.revokeDelegation t i now, T') := by
  -- a delegation that is not revoked afterwards is as it was
  have hsame : ∀ d, (AgentWorld.markRevoked t i now d).revokedAt = none →
      AgentWorld.markRevoked t i now d = d := by
    intro d hd
    by_cases hmatch : d.tenantId = t ∧ d.id = i
    · simp [AgentWorld.markRevoked, hmatch] at hd
    · simp [AgentWorld.markRevoked, hmatch]
  have hissued : (w.revokeDelegation t i now).Issued := by
    intro row hrow d' hd' hid
    obtain ⟨d, hd, rfl⟩ := List.mem_map.mp hd'
    have hexpiry : (AgentWorld.markRevoked t i now d).expiresAt = d.expiresAt := by
      unfold AgentWorld.markRevoked
      split <;> rfl
    rw [hexpiry, AgentWorld.markRevoked_agentId]
    exact h.issued row hrow d hd (by simpa using hid)
  refine h.change hT h.keyed (fun _ he => he) hissued ?_ (fun _ _ => id) ?_
  · intro hash t₀ _ _ row d' hg
    obtain ⟨d, hd, hmark⟩ := List.mem_map.mp hg.delegation_mem
    have hd' : d' = d := hmark ▸ hsame d (hmark ▸ hg.unrevoked)
    exact ⟨hg.row_mem, hg.row_hash, hd' ▸ hd, hg.delegation_id, hg.unrevoked, hg.active⟩
  · intro hash row d hg hother
    have hne : d.id ≠ i := fun heq => hother (hg.delegation_id.symm.trans heq)
    have hmark : AgentWorld.markRevoked t i now d = d := by simp [AgentWorld.markRevoked, hne]
    have hmem : d ∈ w.delegations.map (AgentWorld.markRevoked t i now) :=
      List.mem_map.mpr ⟨d, hg.delegation_mem, hmark⟩
    exact ⟨hg.row_mem, hg.row_hash, hmem, hg.delegation_id, hg.unrevoked, hg.active⟩

/-- An agent's status is set: its tokens are to be evicted. If it becomes active, no refusal of one of
its tokens is cached. -/
theorem setStatus (h : CacheSound ttl nonePending (w, T)) (hT : T ≤ T') (t i status : String)
    (henabled : status = agentStatusActive → ∀ row ∈ w.actTokens, row.agentId = i →
      ∀ t₀, (row.tokenHash, none, t₀) ∈ w.actCache.entries → t₀ + ttl ≤ T') :
    CacheSound ttl (InvalidationMessage.agent i).Covers
      (w.updateAgent (fun a => { a with status := status }) t i, T') := by
  have hother : ∀ a : AgentRow, a.id ≠ i → amendAgent (fun a => { a with status := status }) t i a = a := by
    intro a ha
    simp [amendAgent, ha]
  refine h.change hT h.keyed (fun _ he => he) h.issued ?_ (fun _ _ => id) ?_
  · intro hash t₀ he hlive row d hg
    obtain ⟨a', ha', hid, hactive⟩ := hg.active
    obtain ⟨a, ha, rfl⟩ := List.mem_map.mp ha'
    rw [amendAgent_id] at hid
    by_cases hrow : row.agentId = i
    · -- the agent of the token is the one that is set: to `active`, or it stays as it is
      by_cases hstatus : status = agentStatusActive
      · have hexpired := henabled hstatus row hg.row_mem hrow t₀ (hg.row_hash ▸ he)
        omega
      · have hkept : a.status = agentStatusActive := by
          by_cases hmatch : a.tenantId = t ∧ a.id = i
          · simp only [amendAgent, hmatch, and_self, if_true] at hactive
            exact absurd hactive hstatus
          · simpa only [amendAgent, hmatch, if_false] using hactive
        exact ⟨hg.row_mem, hg.row_hash, hg.delegation_mem, hg.delegation_id, hg.unrevoked,
          a, ha, hid, hkept⟩
    · rw [hother a (hid ▸ hrow)] at hactive
      exact ⟨hg.row_mem, hg.row_hash, hg.delegation_mem, hg.delegation_id, hg.unrevoked,
        a, ha, hid, hactive⟩
  · intro hash row d hg hne
    obtain ⟨a, ha, hid, hactive⟩ := hg.active
    have hamend := hother a fun heq => hne (hid.symm.trans heq)
    have hmem : a ∈ w.base.db.agents.map (amendAgent (fun a => { a with status := status }) t i) :=
      List.mem_map.mpr ⟨a, ha, hamend⟩
    exact ⟨hg.row_mem, hg.row_hash, hg.delegation_mem, hg.delegation_id, hg.unrevoked,
      a, hmem, hid, hactive⟩

/-- An agent is deleted, with its delegations and their tokens: these are to be evicted. -/
theorem deleteAgent (h : CacheSound ttl nonePending (w, T)) (hT : T ≤ T') {i : String} {base : World}
    (hagents : base.db.agents = w.base.db.agents.filter fun a => a.id ≠ i) :
    CacheSound ttl (InvalidationMessage.agent i).Covers (w.cascade base, T') := by
  have hrows : ∀ row ∈ (w.cascade base).actTokens, row ∈ w.actTokens :=
    fun row hrow => List.mem_of_mem_filter hrow
  have hdelegations : ∀ d ∈ (w.cascade base).delegations, d ∈ w.delegations :=
    fun d hd => List.mem_of_mem_filter hd
  have hagent : ∀ a, a ∈ base.db.agents ↔ a ∈ w.base.db.agents ∧ a.id ≠ i := by
    intro a
    simp [hagents]
  refine h.change hT h.keyed (fun _ he => he) ?_ ?_ (fun _ _ => id) ?_
  · intro row hrow d hd hid
    exact h.issued row (hrows row hrow) d (hdelegations d hd) hid
  · intro hash t₀ _ _ row d hg
    obtain ⟨a, ha, hid, hactive⟩ := hg.active
    exact ⟨hrows row hg.row_mem, hg.row_hash, hdelegations d hg.delegation_mem, hg.delegation_id,
      hg.unrevoked, a, ((hagent a).mp ha).1, hid, hactive⟩
  · intro hash row d hg hother
    obtain ⟨a, ha, hid, hactive⟩ := hg.active
    have hne : a.id ≠ i := fun heq => hother (hid.symm.trans heq)
    have ha' : a ∈ base.db.agents := (hagent a).mpr ⟨ha, hne⟩
    -- the delegation is of the same agent, so it stays, and the token with it
    have hissued := h.issued row hg.row_mem d hg.delegation_mem hg.delegation_id
    have hd : d ∈ w.delegationsOf base.db :=
      List.mem_filter.mpr ⟨hg.delegation_mem, decide_eq_true ⟨a, ha', hid.trans hissued.2⟩⟩
    have hrow : row ∈ (w.cascade base).actTokens :=
      List.mem_filter.mpr ⟨hg.row_mem, decide_eq_true ⟨d, hd, hg.delegation_id⟩⟩
    exact ⟨hrow, hg.row_hash, hd, hg.delegation_id, hg.unrevoked, a, ha', hid, hactive⟩

/-- What is not found as a refusal has expired, if it was one. -/
theorem expired (h : CacheSound ttl pending (w, T)) {hash : String} {now : ℤ}
    (hget : w.actCache.get ttl now hash ≠ some none) {t₀ : ℤ}
    (he : (hash, none, t₀) ∈ w.actCache.entries) : t₀ + ttl ≤ now := by
  by_contra hlive
  exact hget ((Cache.get_eq_some h.keyed).mpr ⟨t₀, he, by omega⟩)

end CacheSound

/-! ## The calls of the service -/

/-- The agent stores, with the instant of the last call. -/
def clockedAgents (env : AgentEnv) : Handler AgentSig Choice (AgentWorld × ℤ) :=
  (agentGateway env).clocked (·.now)

/-- The tokens that a call makes valid: those of the agent that becomes active, and the one that is about
to be issued. -/
def AgentServiceOp.validates (env : AgentEnv) (c : Choice) (w : AgentWorld) : AgentServiceOp → List String
  | .setAgentStatus _ i status =>
      if status = agentStatusActive then (w.actTokens.filter fun row => row.agentId = i).map (·.tokenHash)
      else []
  | .randomHex => [env.hashToken ("sat_" ++ c.ulid)]
  | _ => []

/-- No refusal is cached of a token that the call makes valid. -/
def NoRefusal (env : AgentEnv) (c : Choice) (w : AgentWorld) (op : AgentServiceOp) : Prop :=
  ∀ hash ∈ op.validates env c w, w.actCache.get env.cacheTtl c.now hash ≠ some none

instance (env : AgentEnv) (c : Choice) (w : AgentWorld) (op : AgentServiceOp) :
    Decidable (NoRefusal env c w op) := inferInstanceAs (Decidable (∀ hash ∈ _, _))

/-- The clock does not go back, a statement that fails has no effect, and no refusal is cached of a token
that the call makes valid. -/
def CallInOrder (env : AgentEnv) (op : AgentServiceOp) (c : Choice) (s : AgentWorld × ℤ) : Prop :=
  s.2 ≤ c.now ∧ (∀ f ∈ c.fault 0, f.applied = false) ∧ NoRefusal env c s.1 op

instance (env : AgentEnv) (op : AgentServiceOp) (c : Choice) (s : AgentWorld × ℤ) :
    Decidable (CallInOrder env op c s) := inferInstanceAs (Decidable (_ ∧ _ ∧ _))

/-- Calls in order, one after another. -/
def inOrder (env : AgentEnv) : Contract AgentSig Choice (AgentWorld × ℤ) :=
  .alone (CallInOrder env) fun _ _ _ => True

section programs

variable {env : AgentEnv} {pending : ActTokenResolution → Prop} {w : AgentWorld} {T : ℤ}
  {s : AgentWorld × ℤ}

/-- One call, made in order. -/
theorem inOrder_ask {op : AgentServiceOp} {Q : op.Res → AgentWorld × ℤ → Prop}
    (h : ∀ c, CallInOrder env op c s →
      Q (agentGateway env op c s.1).1 ((agentGateway env op c s.1).2, c.now)) :
    (ask op).Sat (clockedAgents env) (inOrder env) Q s := by
  rintro _ rfl c hc
  exact ⟨trivial, h c hc⟩

/-- A program of neutral calls keeps what the same grants keep at a later time. -/
theorem inOrder_neutral_of {α : Type} {I : AgentWorld × ℤ → Prop}
    (hI : ∀ s w' T', I s → SameGrants s.1 w' → s.2 ≤ T' → I (w', T')) {p : Prog AgentSig α}
    (hp : p.Calls AgentServiceOp.IsNeutral) (hs : I s) :
    p.Sat (clockedAgents env) (inOrder env) (fun _ => I) s := by
  refine hp.sat ?_ ?_ hs
  · rintro s₀ _ h rfl
    exact h
  · intro op c s₀ hop h hc
    exact ⟨trivial, hI s₀ _ _ h (sameGrants_of_neutral hop) hc.1⟩

/-- A program of neutral calls keeps the cache sound. -/
theorem inOrder_neutral {α : Type} {p : Prog AgentSig α} (hp : p.Calls AgentServiceOp.IsNeutral)
    (hs : CacheSound env.cacheTtl pending s) :
    p.Sat (clockedAgents env) (inOrder env) (fun _ s' => CacheSound env.cacheTtl pending s') s :=
  inOrder_neutral_of (fun _ _ _ h hsame hT => h.same hsame hT) hp hs

/-- Two parts in a row keep an invariant if each does. -/
theorem inOrder_bind {ε α β : Type} {I : AgentWorld × ℤ → Prop}
    {x : ExceptT ε (Prog AgentSig) α} {f : α → ExceptT ε (Prog AgentSig) β}
    (hx : x.run.Sat (clockedAgents env) (inOrder env) (fun _ => I) s)
    (hf : ∀ a s', I s' → (f a).run.Sat (clockedAgents env) (inOrder env) (fun _ => I) s') :
    (x >>= f).run.Sat (clockedAgents env) (inOrder env) (fun _ => I) s := by
  refine Prog.sat_run_bind.mpr (hx.post fun r s' hs' => ?_)
  cases r with
  | ok a => exact hf a s' hs'
  | error e => exact hs'

/-- The eviction that ends a withdrawal. -/
theorem inOrder_evict {m : InvalidationMessage} (hs : CacheSound env.cacheTtl m.Covers s) :
    (ask (.actCacheInvalidateIf m)).Sat (clockedAgents env) (inOrder env)
      (fun _ s' => CacheSound env.cacheTtl nonePending s') s :=
  inOrder_ask fun _ hc => hs.evict.later hc.1

theorem inOrder_invalidateAgent {i : String}
    (hs : CacheSound env.cacheTtl (InvalidationMessage.agent i).Covers s) :
    (invalidateAgent i).Sat (clockedAgents env) (inOrder env)
      (fun _ s' => CacheSound env.cacheTtl nonePending s') s := by
  refine Prog.sat_bind.mpr ?_
  have hstatus : (ask (.statusCacheInvalidate i)).Calls AgentServiceOp.IsNeutral :=
    Prog.calls_perform trivial
  exact (inOrder_neutral hstatus hs).post fun _ s' hs' => inOrder_evict hs'

variable (hs : CacheSound env.cacheTtl nonePending s)

include hs

theorem inOrder_agentCheck {α : Type} (r : Except ServiceError α) :
    (AgentMethod.check r).run.Sat (clockedAgents env) (inOrder env)
      (fun _ s' => CacheSound env.cacheTtl nonePending s') s := hs

/-- **Setting a status** and evicting the agent's tokens. -/
theorem inOrder_changeAgentStatus (t : String) (req : UpdateAgentRequest) (agent : AgentRow) :
    (changeAgentStatus t req agent).run.Sat (clockedAgents env) (inOrder env)
      (fun _ s' => CacheSound env.cacheTtl nonePending s') s := by
  unfold changeAgentStatus
  split
  · refine Prog.sat_run_bind.mpr (Prog.sat_run_orThrow.mpr (inOrder_ask fun c hc => ?_))
    obtain ⟨hnow, hlossless, hnorefusal⟩ := hc
    have hcases : (∃ a, _ = some a ∧ agentGateway env (.setAgentStatus t req.id req.status) c s.1 = (.ok a, _)) ∨
        ∃ e, agentGateway env (.setAgentStatus t req.id req.status) c s.1 = (.error e, s.1) :=
      AgentWorld.update_cases hlossless
    rcases hcases with ⟨a, -, heq⟩ | ⟨e, heq⟩
    · rw [heq]
      refine Prog.sat_run_bind.mpr (Prog.sat_run_attempt.mpr ?_)
      refine (inOrder_invalidateAgent ?_).post fun _ s' hs' => hs'
      refine hs.setStatus hnow t req.id req.status fun hactive row hrow hid t₀ he => ?_
      refine hs.expired (hnorefusal row.tokenHash ?_) he
      simp only [AgentServiceOp.validates, hactive, if_true]
      exact List.mem_map_of_mem (List.mem_filter.mpr ⟨hrow, decide_eq_true hid⟩)
    · rw [heq]
      exact hs.later hnow
  · exact hs

theorem inOrder_updateAgent (ctx : RequestContext) (req : UpdateAgentRequest) :
    (updateAgent ctx req).run.Sat (clockedAgents env) (inOrder env)
      (fun _ s' => CacheSound env.cacheTtl nonePending s') s := by
  refine inOrder_bind (inOrder_agentCheck hs _) fun t s₁ h₁ => ?_
  refine inOrder_bind ?_ fun agent s₂ h₂ => ?_
  · exact inOrder_neutral (Prog.calls_run_orThrow (Prog.calls_perform trivial)) h₁
  refine inOrder_bind (inOrder_agentCheck h₂ _) fun _ s₃ h₃ => ?_
  refine inOrder_bind ?_ fun agent s₄ h₄ => ?_
  · exact inOrder_neutral (calls_renameAgent (fun _ hop => hop) t req agent) h₃
  exact inOrder_changeAgentStatus h₄ t req agent

/-- **Revoking a delegation** and evicting its tokens. -/
theorem inOrder_revokeAgentDelegation (ctx : RequestContext) (id : String) :
    (revokeAgentDelegation ctx id).run.Sat (clockedAgents env) (inOrder env)
      (fun _ s' => CacheSound env.cacheTtl nonePending s') s := by
  refine inOrder_bind (inOrder_agentCheck hs _) fun t s₁ h₁ => ?_
  refine inOrder_bind (inOrder_agentCheck h₁ _) fun auth s₂ h₂ => ?_
  refine inOrder_bind ?_ fun delegation s₃ h₃ => ?_
  · exact inOrder_neutral (Prog.calls_run_orThrow (Prog.calls_perform trivial)) h₂
  refine inOrder_bind (inOrder_agentCheck h₃ _) fun _ s₄ h₄ => ?_
  refine Prog.sat_run_bind.mpr (Prog.sat_run_orThrow.mpr (inOrder_ask fun c hc => ?_))
  obtain ⟨hnow, hlossless, -⟩ := hc
  have hcases : (∃ a, _ = some a ∧ agentGateway env (.revokeDelegation t id) c s₄.1 = (.ok a, _)) ∨
      ∃ e, agentGateway env (.revokeDelegation t id) c s₄.1 = (.error e, s₄.1) :=
    AgentWorld.update_cases hlossless
  rcases hcases with ⟨a, -, heq⟩ | ⟨e, heq⟩
  · rw [heq]
    refine Prog.sat_run_bind.mpr (Prog.sat_run_attempt.mpr ?_)
    exact (inOrder_evict (h₄.revokeDelegation hnow t id c.now)).post fun _ s' hs' => hs'
  · rw [heq]
    exact h₄.later hnow

/-- **Deleting an agent** and evicting its tokens. -/
theorem inOrder_deleteAgent (ctx : RequestContext) (id : String) :
    (deleteAgent ctx id).run.Sat (clockedAgents env) (inOrder env)
      (fun _ s' => CacheSound env.cacheTtl nonePending s') s := by
  refine inOrder_bind (inOrder_agentCheck hs _) fun t s₁ h₁ => ?_
  refine Prog.sat_run_bind.mpr (Prog.sat_run_orThrow.mpr (inOrder_ask fun c hc => ?_))
  obtain ⟨hnow, hlossless, -⟩ := hc
  have hanswer : agentGateway env (.gateway (.agent (.delete t id))) c s₁.1 =
      ((s₁.1.base.db.write c (s₁.1.base.db.deleteAgent t id) ()).1, s₁.1.cascade { s₁.1.base with
        db := (s₁.1.base.db.write c (s₁.1.base.db.deleteAgent t id) ()).2 }) := rfl
  rw [hanswer]
  cases hr : (s₁.1.base.db.write c (s₁.1.base.db.deleteAgent t id) ()).1 with
  | error e =>
      have hsnd := Db.write_error hlossless hr
      rw [hsnd]
      exact h₁.same (sameGrants_cascade (.inl rfl)) hnow
  | ok u =>
      obtain ⟨-, db', hdb', hsnd⟩ := Db.write_ok hr
      rw [hsnd]
      have hdeleted : CacheSound env.cacheTtl (InvalidationMessage.agent id).Covers
          (s₁.1.cascade { s₁.1.base with db := db' }, c.now) :=
        h₁.deleteAgent hnow (Db.deleteAgent_ok hdb').1
      refine Prog.sat_run_bind.mpr (Prog.sat_run_attempt.mpr ?_)
      refine (inOrder_neutral (calls_dropAgentClient (fun _ hop => hop) t id) hdeleted).post fun _ s₂ h₂ => ?_
      exact Prog.sat_run_attempt.mpr (inOrder_invalidateAgent h₂)

/-- **Creating a delegation.** -/
theorem inOrder_createAgentDelegation (ctx : RequestContext) (req : CreateAgentDelegationRequest) :
    (createAgentDelegation env ctx req).run.Sat (clockedAgents env) (inOrder env)
      (fun _ s' => CacheSound env.cacheTtl nonePending s') s := by
  have hread : ∀ {op : AgentServiceOp}, op.IsNeutral → (ask op).Calls AgentServiceOp.IsNeutral :=
    fun hop => Prog.calls_perform hop
  refine inOrder_bind (inOrder_agentCheck hs _) fun t s₁ h₁ => ?_
  refine inOrder_bind (inOrder_agentCheck h₁ _) fun _ s₂ h₂ => ?_
  refine inOrder_bind (inOrder_agentCheck h₂ _) fun auth s₃ h₃ => ?_
  refine inOrder_bind (inOrder_neutral (Prog.calls_run_orThrow (hread trivial)) h₃) fun agent s₄ h₄ => ?_
  refine inOrder_bind (inOrder_agentCheck h₄ _) fun _ s₅ h₅ => ?_
  refine inOrder_bind (inOrder_neutral
    (calls_requireActiveMember (fun _ hop => hop) t auth.subject) h₅) fun _ s₆ h₆ => ?_
  refine inOrder_bind (inOrder_agentCheck h₆ _) fun _ s₇ h₇ => ?_
  refine inOrder_bind (inOrder_agentCheck h₇ _) fun x s₈ h₈ => ?_
  refine inOrder_bind (inOrder_neutral (Prog.calls_run_attempt (hread trivial)) h₈) fun now s₉ h₉ => ?_
  refine inOrder_bind (inOrder_agentCheck h₉ _) fun _ s' h' => ?_
  refine Prog.sat_run_orThrow.mpr (inOrder_ask fun c hc => ?_)
  obtain ⟨hnow, hlossless, -⟩ := hc
  have hcases : (∃ w', s'.1.insertDelegation
        ⟨c.ulid, t, agent.id, auth.subject, req.scope, x, none⟩ = .ok w' ∧
      agentGateway env (.createDelegation t agent.id auth.subject req.scope x) c s'.1 = (.ok _, w')) ∨
      ∃ e, agentGateway env (.createDelegation t agent.id auth.subject req.scope x) c s'.1 =
        (.error e, s'.1) := AgentWorld.write_cases hlossless
  rcases hcases with ⟨w', hw', heq⟩ | ⟨e, heq⟩
  · rw [heq]
    exact h'.insertDelegation hnow hw'
  · rw [heq]
    exact h'.later hnow

omit hs

/-- The cache is sound, and the delegation is there. -/
def SoundWith (env : AgentEnv) (d : AgentDelegationRow) (s : AgentWorld × ℤ) : Prop :=
  CacheSound env.cacheTtl nonePending s ∧ d ∈ s.1.delegations

theorem SoundWith.same {d : AgentDelegationRow} {w' : AgentWorld} (h : SoundWith env d s)
    (hsame : SameGrants s.1 w') (hT : s.2 ≤ T) : SoundWith env d (w', T) :=
  ⟨h.1.same hsame hT, hsame.delegations.symm ▸ h.2⟩

/-- The row of a token is inserted. -/
theorem inOrder_insertActToken {row : AgentActTokenRow} {d : AgentDelegationRow} (hs : SoundWith env d s)
    (hid : d.id = row.delegationId) (hwithin : row.expiresAt ≤ d.expiresAt ∧ row.agentId = d.agentId)
    (hfresh : ∀ t₀, (row.tokenHash, none, t₀) ∈ s.1.actCache.entries → t₀ + env.cacheTtl ≤ s.2) :
    (ask (.insertActToken row)).Sat (clockedAgents env) (inOrder env)
      (fun _ s' => CacheSound env.cacheTtl nonePending s') s := by
  refine inOrder_ask fun c hc => ?_
  obtain ⟨hnow, hlossless, -⟩ := hc
  have hcases : (∃ w', s.1.insertActToken row = .ok w' ∧
      agentGateway env (.insertActToken row) c s.1 = (.ok (), w')) ∨
      ∃ e, agentGateway env (.insertActToken row) c s.1 = (.error e, s.1) :=
    AgentWorld.write_cases hlossless
  rcases hcases with ⟨w', hw', heq⟩ | ⟨e, heq⟩
  · rw [heq]
    refine hs.1.insertActToken hnow hw' hs.2 hid hwithin fun t₀ he => ?_
    have hexpired := hfresh t₀ he
    omega
  · rw [heq]
    exact hs.1.later hnow

/-- **Issuing a token** of a delegation that is there. -/
theorem inOrder_mint {d : AgentDelegationRow} (hs : SoundWith env d s) :
    (mint env d).run.Sat (clockedAgents env) (inOrder env)
      (fun _ s' => CacheSound env.cacheTtl nonePending s') s := by
  refine Prog.sat_run_bind.mpr (Prog.sat_run_attempt.mpr (inOrder_ask fun c hc => ?_))
  obtain ⟨hnow, -, hrefusal⟩ := hc
  refine Prog.sat_run_bind.mpr (Prog.sat_run_attempt.mpr (inOrder_ask fun c₁ hc₁ => ?_))
  have hnext := hc₁.1
  simp only at hnext
  have hsame : SameGrants s.1 (agentGateway env (.gateway .nowUtc) c₁ s.1).2 :=
    sameGrants_of_neutral trivial
  have hfresh : ∀ t₀, (env.hashToken ("sat_" ++ c.ulid), none, t₀) ∈
      (agentGateway env (.gateway .nowUtc) c₁ s.1).2.actCache.entries → t₀ + env.cacheTtl ≤ c₁.now :=
    fun t₀ he => (hs.1.expired (hrefusal _ List.mem_cons_self) (hsame.cache _ he)).trans hnext
  refine Prog.sat_run_bind.mpr (Prog.sat_run_orThrow.mpr ?_)
  refine (inOrder_insertActToken (hs.same hsame (hnow.trans hnext)) rfl ⟨min_le_right _ _, rfl⟩ hfresh).post
    fun r s' hs' => ?_
  cases r with
  | ok u => exact hs'
  | error e => exact hs'

theorem inOrder_mintAgentActToken (hs : CacheSound env.cacheTtl nonePending s) (ctx : RequestContext) (id : String) :
    (mintAgentActToken env ctx id).run.Sat (clockedAgents env) (inOrder env)
      (fun _ s' => CacheSound env.cacheTtl nonePending s') s := by
  have hread : ∀ {op : AgentServiceOp}, op.IsNeutral → (ask op).Calls AgentServiceOp.IsNeutral :=
    fun hop => Prog.calls_perform hop
  refine inOrder_bind (inOrder_agentCheck hs _) fun t s₁ h₁ => ?_
  refine inOrder_bind (inOrder_agentCheck h₁ _) fun _ s₂ h₂ => ?_
  refine inOrder_bind (inOrder_agentCheck h₂ _) fun _ s₃ h₃ => ?_
  refine inOrder_bind (inOrder_agentCheck h₃ _) fun auth s₄ h₄ => ?_
  refine inOrder_bind (inOrder_neutral (Prog.calls_run_orThrow (hread trivial)) h₄) fun agent s₅ h₅ => ?_
  refine inOrder_bind (inOrder_agentCheck h₅ _) fun _ s₆ h₆ => ?_
  refine Prog.sat_run_bind.mpr (Prog.sat_run_orThrow.mpr (inOrder_ask fun c hc => ?_))
  have hsame : SameGrants s₆.1 (agentGateway env (.getDelegation t id) c s₆.1).2 :=
    sameGrants_of_neutral trivial
  cases hd : (agentGateway env (.getDelegation t id) c s₆.1).1 with
  | error e => exact h₆.same hsame hc.1
  | ok d =>
      have hwith : SoundWith env d ((agentGateway env (.getDelegation t id) c s₆.1).2, c.now) :=
        ⟨h₆.same hsame hc.1, hsame.delegations.symm ▸ (agentGateway_getDelegation_ok hd).1⟩
      -- what is read and checked before the token is made leaves the delegation there
      have hkeep : ∀ {α : Type} {x : AgentMethod α} {s'}, x.run.Calls AgentServiceOp.IsNeutral →
          SoundWith env d s' → x.run.Sat (clockedAgents env) (inOrder env)
            (fun _ s' => SoundWith env d s') s' :=
        fun hx h' => inOrder_neutral_of (fun _ _ _ h hsame hT => h.same hsame hT) hx h'
      have hnow : (Prog.attempt (ask (.gateway .nowUtc)) : AgentMethod ℤ).run.Calls
          AgentServiceOp.IsNeutral := Prog.calls_run_attempt (hread trivial)
      refine Prog.sat_run_bind.mpr ((hkeep hnow hwith).post fun r s₇ h₇ => ?_)
      rcases r with e | now
      · exact h₇.1
      refine Prog.sat_run_bind.mpr ?_
      cases hcheck : mayMint auth now d with
      | error e => exact h₇.1
      | ok _ =>
          refine Prog.sat_run_bind.mpr ((hkeep
            (calls_requireActiveMember (fun _ hop => hop) t d.userIdentityId) h₇).post fun r s₈ h₈ => ?_)
          rcases r with e | _
          · exact h₈.1
          refine Prog.sat_run_orThrow.mpr ((inOrder_mint h₈).post fun r s' hs' => ?_)
          cases r with
          | ok a => exact hs'
          | error e => exact hs'

end programs

/-! ## A resolve -/

section resolve

variable {env : AgentEnv} {c : Choice} {w : AgentWorld} {T : ℤ}

/-- A call of the gateway that changes nothing there changes nothing here. -/
theorem AgentWorld.cascade_self (w : AgentWorld) : w.cascade w.base = w := by
  obtain ⟨hdelegations, htokens⟩ := AgentWorld.cascade_tables (w := w) fun a ha => ⟨a, ha, rfl⟩
  cases w
  simp only [AgentWorld.cascade] at hdelegations htokens ⊢
  congr

/-- A lookup in the tables of the grants. -/
theorem AgentWorld.read_find {α β : Type} (notFound : DbError) (f : α → β) (rows : List α) (P : α → Prop)
    [DecidablePred P] : Looks c rows P f notFound w
      (w.read c (orNotFound notFound f (rows.find? fun x => P x))) := by
  have hread : Fault.answer Fault.sqlx w (orNotFound notFound f (rows.find? fun x => P x), w) (c.fault 0) =
      _ ∨ _ := Fault.answer_read _
  rcases hread with h | ⟨e, hf, h⟩
  · cases hx : rows.find? fun x => P x with
    | none =>
        rw [hx] at h
        exact .inr (.inl ⟨fun x hx' => by simpa using List.find?_eq_none.mp hx x hx', h⟩)
    | some x =>
        rw [hx] at h
        exact .inl ⟨x, List.mem_of_find?_eq_some hx, by simpa using List.find?_some hx, h⟩
  · exact .inr (.inr ⟨e.toText, hf, h⟩)

theorem agentGateway_getDelegationById (env : AgentEnv) (c : Choice) (w : AgentWorld) (i : String) :
    Looks c w.delegations (fun d => d.id = i) id .agentDelegationNotFound w
      (agentGateway env (.getDelegationById i) c w) := AgentWorld.read_find _ _ _ _

theorem agentGateway_getStatus (env : AgentEnv) (c : Choice) (w : AgentWorld) (i : String) :
    Looks c w.base.db.agents (fun a => a.id = i) (·.status) .agentNotFound w
      (agentGateway env (.gateway (.agent (.getStatus i))) c w) := by
  have hanswer : agentGateway env (.gateway (.agent (.getStatus i))) c w =
      ((gateway env.gateway (.agent (.getStatus i)) c w.base).1,
        w.cascade (gateway env.gateway (.agent (.getStatus i)) c w.base).2) := rfl
  rw [hanswer]
  rcases gateway_getStatus env.gateway c w.base i with ⟨a, ha, hid, h⟩ | ⟨hnone, h⟩ | ⟨e, hf, h⟩
  · exact .inl ⟨a, ha, hid, by rw [h, AgentWorld.cascade_self]⟩
  · exact .inr (.inl ⟨hnone, by rw [h, AgentWorld.cascade_self]⟩)
  · exact .inr (.inr ⟨e, hf, by rw [h, AgentWorld.cascade_self]⟩)

/-- What the validation of a row answers: what the tables say at an instant, and that for good. -/
structure Validated (w : AgentWorld) (row : AgentActTokenRow) (now : ℤ) (entry : Option ActTokenResolution) :
    Prop where
  tables : entry = w.resolveHash now row.tokenHash
  backed : ∀ res, entry = some res → ∃ d, w.Grounds row.tokenHash row d ∧ row.resolution = res
  refused : entry = none → ∀ d, w.Grounds row.tokenHash row d → row.expiresAt ≤ now

/-- A refusal: where the row has grounds, it has expired. -/
theorem Validated.none {row : AgentActTokenRow} {now : ℤ} (hrow : row ∈ w.actTokens)
    (h : ∀ d, w.Grounds row.tokenHash row d → row.expiresAt ≤ now) : Validated w row now none where
  tables := by
    refine (AgentWorld.resolveHash_eq_none fun row' d hg => .inl ?_).symm
    obtain rfl := AgentWorld.token_unique hg.row_mem hrow hg.row_hash
    exact h d hg
  backed := fun _ hres => by cases hres
  refused := fun _ => h

/-- A resolution: the row has grounds, and has not expired. -/
theorem Validated.some {row : AgentActTokenRow} {d : AgentDelegationRow} {now : ℤ}
    (hg : w.Grounds row.tokenHash row d) (hissued : row.expiresAt ≤ d.expiresAt) (hnow : now < row.expiresAt) :
    Validated w row now (some row.resolution) where
  tables := by
    rw [hg.resolveHash hissued now, Option.filter_some]
    simp [AgentActTokenRow.resolution, hnow]
  backed := fun res hres => ⟨d, hg, Option.some.inj hres⟩
  refused := fun h => by cases h

/-- **The validation of a row.** -/
theorem inOrder_validateActTokenRow {pending : ActTokenResolution → Prop}
    (hs : CacheSound env.cacheTtl pending (w, T)) {row : AgentActTokenRow} (hrow : row ∈ w.actTokens) :
    (validateActTokenRow row).run.Sat (clockedAgents env) (inOrder env) (fun r s' => s'.1 = w ∧ T ≤ s'.2 ∧
      ∀ entry, r = .ok entry → ∃ now, T ≤ now ∧ now ≤ s'.2 ∧ Validated w row now entry) (w, T) := by
  unfold validateActTokenRow
  refine Prog.sat_run_bind.mpr (Prog.sat_run_attempt.mpr (inOrder_ask fun c hc => ?_))
  have hT : T ≤ c.now := hc.1
  rw [show agentGateway env (.gateway .nowUtc) c w = (c.now, w.cascade w.base) from rfl,
    AgentWorld.cascade_self]
  dsimp only
  split
  · rename_i hexpired
    refine ⟨rfl, hT, fun entry hentry => ?_⟩
    cases hentry
    exact ⟨c.now, hT, le_rfl, .none hrow fun _ _ => hexpired⟩
  rename_i hlive
  refine Prog.sat_run_bind.mpr (Prog.sat_run_attempt.mpr (inOrder_ask fun c₁ hc₁ => ?_))
  have hT₁ : c.now ≤ c₁.now := hc₁.1
  have hnone : ∀ {T' : ℤ}, c.now ≤ T' → (∀ d, w.Grounds row.tokenHash row d → row.expiresAt ≤ c.now) →
      ∀ entry, (Except.ok none : Except DbError (Option ActTokenResolution)) = .ok entry →
        ∃ now, T ≤ now ∧ now ≤ T' ∧ Validated w row now entry := by
    intro T' hT' h entry hentry
    cases hentry
    exact ⟨c.now, hT, hT', .none hrow h⟩
  rcases agentGateway_getDelegationById env c₁ w row.delegationId with
    ⟨d, hd, hid, heq⟩ | ⟨hgone, heq⟩ | ⟨e, -, heq⟩
  · rw [heq]
    dsimp only [id]
    split
    · -- revoked, or expired
      rename_i hover
      refine ⟨rfl, hT.trans hT₁, hnone hT₁ fun d' hg => ?_⟩
      obtain rfl := AgentWorld.delegation_unique hg.delegation_mem hd (hg.delegation_id.trans hid.symm)
      have hissued := hs.issued row hrow d' hd hid
      rcases hover with hrevoked | hexpired
      · exact absurd hg.unrevoked hrevoked
      · omega
    rename_i hvalid
    refine Prog.sat_run_bind.mpr (Prog.sat_run_attempt.mpr (inOrder_ask fun c₂ hc₂ => ?_))
    have hT₂ : c₁.now ≤ c₂.now := hc₂.1
    rcases agentGateway_getStatus env c₂ w row.agentId with
      ⟨a, ha, haid, heq⟩ | ⟨hgone, heq⟩ | ⟨e, -, heq⟩
    · rw [heq]
      dsimp only
      split
      · rename_i hstatus
        refine ⟨rfl, hT.trans (hT₁.trans hT₂), hnone (hT₁.trans hT₂) fun d' hg => ?_⟩
        obtain ⟨a', ha', haid', hactive⟩ := hg.active
        obtain rfl := AgentWorld.agent_unique ha' ha (haid'.trans haid.symm)
        exact absurd hactive hstatus
      · rename_i hstatus
        refine ⟨rfl, hT.trans (hT₁.trans hT₂), fun entry hentry => ?_⟩
        cases hentry
        have hunrevoked : d.revokedAt = none := not_not.mp fun h => hvalid (.inl h)
        have hgrounds : w.Grounds row.tokenHash row d :=
          ⟨hrow, rfl, hd, hid, hunrevoked, a, ha, haid, not_not.mp hstatus⟩
        refine ⟨c.now, hT, hT₁.trans hT₂, .some hgrounds (hs.issued row hrow d hd hid).1 ?_⟩
        omega
    · rw [heq]
      refine ⟨rfl, hT.trans (hT₁.trans hT₂), hnone (hT₁.trans hT₂) fun d' hg => ?_⟩
      obtain ⟨a', ha', haid', -⟩ := hg.active
      exact absurd haid' (hgone a' ha')
    · rw [heq]
      exact ⟨rfl, hT.trans (hT₁.trans hT₂), fun entry hentry => by cases hentry⟩
  · rw [heq]
    refine ⟨rfl, hT.trans hT₁, hnone hT₁ fun d' hg => ?_⟩
    exact absurd hg.delegation_id (hgone d' hg.delegation_mem)
  · rw [heq]
    exact ⟨rfl, hT.trans hT₁, fun entry hentry => by cases hentry⟩

/-- An act-token that is looked up: the row of that hash, if there is one. -/
theorem agentGateway_getActToken (env : AgentEnv) (c : Choice) (w : AgentWorld) (hash : String) :
    agentGateway env (.getActToken hash) c w = (.ok (w.actTokens.find? fun r => r.tokenHash = hash), w) ∨
      ∃ e, (c.fault 0).isSome ∧ agentGateway env (.getActToken hash) c w = (.error e, w) := by
  have hread : Fault.answer Fault.sqlx w (.ok (w.actTokens.find? fun r => r.tokenHash = hash), w) (c.fault 0) =
      _ ∨ _ := Fault.answer_read _
  rcases hread with h | ⟨e, hf, h⟩
  · exact .inl h
  · exact .inr ⟨_, hf, h⟩

/-- **A resolve** answers what the tables say at an instant of it, and leaves the cache sound. -/
theorem inOrder_resolveActToken (hs : CacheSound env.cacheTtl nonePending (w, T)) (token : String) :
    (resolveActToken env token).run.Sat (clockedAgents env) (inOrder env) (fun r s' =>
      CacheSound env.cacheTtl nonePending s' ∧ ∀ entry, r = .ok entry → ∃ now, T ≤ now ∧ now ≤ s'.2 ∧
        entry = w.resolveHash now (env.hashToken token)) (w, T) := by
  unfold resolveActToken
  refine Prog.sat_run_bind.mpr (Prog.sat_run_attempt.mpr (inOrder_ask fun c hc => ?_))
  have hT : T ≤ c.now := hc.1
  rw [show agentGateway env (.actCacheGet (env.hashToken token)) c w =
    (w.actCache.get env.cacheTtl c.now (env.hashToken token), w) from rfl]
  dsimp only
  have hlater := hs.later hT
  cases hget : w.actCache.get env.cacheTtl c.now (env.hashToken token) with
  | some entry =>
      refine Prog.sat_run_bind.mpr (Prog.sat_run_attempt.mpr (inOrder_ask fun c₁ hc₁ => ?_))
      have hT₁ : c.now ≤ c₁.now := hc₁.1
      rw [show agentGateway env (.gateway .nowUtc) c₁ w = (c₁.now, w.cascade w.base) from rfl,
        AgentWorld.cascade_self]
      refine ⟨hlater.later hT₁, fun entry' hentry => ?_⟩
      cases hentry
      cases entry with
      | none => exact ⟨c.now, hT, hT₁, (hlater.get_none hget).symm⟩
      | some res => exact ⟨c₁.now, hT.trans hT₁, le_rfl, hlater.get_some hget c₁.now⟩
  | none =>
      refine Prog.sat_run_bind.mpr (Prog.sat_run_orThrow.mpr (inOrder_ask fun c₁ hc₁ => ?_))
      have hT₁ : c.now ≤ c₁.now := hc₁.1
      rcases agentGateway_getActToken env c₁ w (env.hashToken token) with
        heq | ⟨e, -, heq⟩
      · rw [heq]
        dsimp only [Except.mapError]
        cases hfind : w.actTokens.find? fun r => r.tokenHash = env.hashToken token with
        | none =>
            have hnone : ∀ row d, ¬ w.Grounds (env.hashToken token) row d := by
              intro row d hg
              have hrow := List.find?_eq_none.mp hfind row hg.row_mem
              exact absurd hg.row_hash (by simpa using hrow)
            refine Prog.sat_run_bind.mpr (Prog.sat_run_attempt.mpr (inOrder_ask fun c₂ hc₂ => ?_))
            have hT₂ : c₁.now ≤ c₂.now := hc₂.1
            have hend := hlater.later (hT₁.trans hT₂)
            refine ⟨hend.insert (fun res hres => by cases hres) fun _ row d hg => absurd hg (hnone row d), ?_⟩
            intro entry hentry
            cases hentry
            refine ⟨c₂.now, hT.trans (hT₁.trans hT₂), le_rfl, ?_⟩
            exact (AgentWorld.resolveHash_eq_none fun row d hg => absurd hg (hnone row d)).symm
        | some row =>
            have hrow := List.mem_of_find?_eq_some hfind
            have hhash : row.tokenHash = env.hashToken token := by simpa using List.find?_some hfind
            have hvalidate := inOrder_validateActTokenRow (hlater.later hT₁) hrow
            refine Prog.sat_run_bind.mpr (hvalidate.post fun r s₂ h => ?_)
            obtain ⟨w₂, T₂⟩ := s₂
            obtain ⟨rfl, hT₂, hvalid⟩ := h
            have hT₂ : c₁.now ≤ T₂ := hT₂
            cases r with
            | error e => exact ⟨(hlater.later hT₁).later hT₂, fun entry hentry => by cases hentry⟩
            | ok entry =>
                obtain ⟨now, hnow, hnow', hval⟩ := hvalid entry rfl
                have hnow' : now ≤ T₂ := hnow'
                rw [← hhash]
                refine Prog.sat_run_bind.mpr (Prog.sat_run_attempt.mpr (inOrder_ask fun c₃ hc₃ => ?_))
                have hT₃ : T₂ ≤ c₃.now := hc₃.1
                have hend := hlater.later (hT₁.trans (hT₂.trans hT₃))
                refine ⟨hend.insert ?_ ?_, ?_⟩
                · intro res hres
                  obtain ⟨d, hg, hrow⟩ := hval.backed res hres
                  exact ⟨row, d, hg, hrow⟩
                · intro hnone row' d hg
                  obtain rfl := AgentWorld.token_unique hg.row_mem hrow hg.row_hash
                  have hexpired := hval.refused hnone d hg
                  omega
                · intro entry' hentry
                  cases hentry
                  exact ⟨now, hT.trans (hT₁.trans hnow), hnow'.trans hT₃, hval.tables⟩
      · rw [heq]
        exact ⟨hlater.later hT₁, fun entry hentry => by cases hentry⟩

/-- **An introspection** shows the caller's tenant what the tables say. -/
theorem inOrder_introspectAgentActToken (hs : CacheSound env.cacheTtl nonePending (w, T)) (ctx : RequestContext)
    (token : String) :
    (introspectAgentActToken env ctx token).run.Sat (clockedAgents env) (inOrder env) (fun r s' =>
      CacheSound env.cacheTtl nonePending s' ∧ ∀ entry, r = .ok entry → ∃ t now,
        requireTenant ctx = .ok t ∧ T ≤ now ∧ now ≤ s'.2 ∧
          entry = (w.resolveHash now (env.hashToken token)).filter fun res => res.tenantId = t) (w, T) := by
  refine Prog.sat_run_bind.mpr ?_
  cases htenant : requireTenant ctx with
  | error e => exact ⟨hs, fun entry hentry => by cases hentry⟩
  | ok t =>
      have hresolve := inOrder_resolveActToken hs token
      refine Prog.sat_run_bind.mpr (Prog.sat_run_orThrow.mpr (hresolve.post fun r s' h => ?_))
      obtain ⟨hs', hr⟩ := h
      cases r with
      | error e => exact ⟨hs', fun entry hentry => by cases hentry⟩
      | ok res =>
          refine ⟨hs', fun entry hentry => ?_⟩
          cases hentry
          obtain ⟨now, hT, hnow, heq⟩ := hr res rfl
          exact ⟨t, now, rfl, hT, hnow, by rw [heq]⟩

end resolve

/-! ## A resolve without faults -/

section faultFree

variable {env : AgentEnv} {w : AgentWorld}

/-- No call of a program that runs alone meets a fault. -/
def withoutFault : Contract AgentSig Choice AgentWorld :=
  .alone (fun _ c _ => c.FaultFree) fun _ _ _ => True

theorem faultFree_ask {op : AgentServiceOp} {Q : op.Res → AgentWorld → Prop}
    (h : ∀ c : Choice, c.fault 0 = none → Q (agentGateway env op c w).1 (agentGateway env op c w).2) :
    (ask op).Sat (agentGateway env) withoutFault Q w := by
  rintro _ rfl c hc
  exact ⟨trivial, h c (hc 0)⟩

theorem faultFree_validateActTokenRow (row : AgentActTokenRow) :
    (validateActTokenRow row).run.Sat (agentGateway env) withoutFault
      (fun r _ => ∃ entry, r = .ok entry) w := by
  unfold validateActTokenRow
  refine Prog.sat_run_bind.mpr (Prog.sat_run_attempt.mpr (faultFree_ask fun c _ => ?_))
  dsimp only
  split
  · exact ⟨none, rfl⟩
  refine Prog.sat_run_bind.mpr (Prog.sat_run_attempt.mpr (faultFree_ask fun c₁ hc₁ => ?_))
  rcases agentGateway_getDelegationById env c₁ _ row.delegationId with
    ⟨d, -, -, heq⟩ | ⟨-, heq⟩ | ⟨e, hf, -⟩
  · rw [heq]
    dsimp only [id]
    split
    · exact ⟨none, rfl⟩
    refine Prog.sat_run_bind.mpr (Prog.sat_run_attempt.mpr (faultFree_ask fun c₂ hc₂ => ?_))
    rcases agentGateway_getStatus env c₂ _ row.agentId with
      ⟨a, -, -, heq⟩ | ⟨-, heq⟩ | ⟨e, hf, -⟩
    · rw [heq]
      dsimp only
      split
      · exact ⟨none, rfl⟩
      · exact ⟨some row.resolution, rfl⟩
    · rw [heq]
      exact ⟨none, rfl⟩
    · simp [hc₂] at hf
  · rw [heq]
    exact ⟨none, rfl⟩
  · simp [hc₁] at hf

/-- A resolve that meets no fault answers. -/
theorem faultFree_resolveActToken (token : String) :
    (resolveActToken env token).run.Sat (agentGateway env) withoutFault
      (fun r _ => ∃ entry, r = .ok entry) w := by
  unfold resolveActToken
  refine Prog.sat_run_bind.mpr (Prog.sat_run_attempt.mpr (faultFree_ask fun c _ => ?_))
  have hinsert : ∀ (entry : Option ActTokenResolution) w,
      (do Prog.attempt (ask (.actCacheInsert (env.hashToken token) entry))
          return entry : ExceptT DbError (Prog AgentSig) (Option ActTokenResolution)).run.Sat
        (agentGateway env) withoutFault (fun r _ => ∃ entry, r = .ok entry) w := fun entry w =>
    Prog.sat_run_bind.mpr (Prog.sat_run_attempt.mpr (faultFree_ask fun _ _ => ⟨entry, rfl⟩))
  cases (agentGateway env (.actCacheGet (env.hashToken token)) c w).1 with
  | some entry =>
      exact Prog.sat_run_bind.mpr (Prog.sat_run_attempt.mpr (faultFree_ask fun _ _ => ⟨_, rfl⟩))
  | none =>
      refine Prog.sat_run_bind.mpr (Prog.sat_run_orThrow.mpr (faultFree_ask fun c₁ hc₁ => ?_))
      rcases agentGateway_getActToken env c₁ _ (env.hashToken token) with heq | ⟨e, hf, -⟩
      · rw [heq]
        dsimp only [Except.mapError]
        split
        · exact hinsert none _
        · rename_i row _
          refine Prog.sat_run_bind.mpr ((faultFree_validateActTokenRow row).post fun r w₂ hr => ?_)
          obtain ⟨entry, rfl⟩ := hr
          exact hinsert entry w₂
      · simp [hc₁] at hf

end faultFree

/-! ## Calls one after another -/

/-- One call to the replica, with what the environment decides for it. -/
structure TokenStep where
  call : AgentCall
  choices : ℕ → Choice

namespace TokenStep

variable (env : AgentEnv)

/-- The state the call starts in: its clock shows the instant of the first request. -/
def start (s : AgentWorld × ℤ) (step : TokenStep) : AgentWorld × ℤ := (s.1, (step.choices 0).now)

/-- The state after the call, with the instant of its last request. -/
def finish (s : AgentWorld × ℤ) (step : TokenStep) : AgentWorld × ℤ :=
  ((step.call.prog env).run (clockedAgents env) step.choices (step.start s)).2

/-- What the call ends with. -/
def outcome (s : AgentWorld × ℤ) (step : TokenStep) : AgentOutcome :=
  ((step.call.prog env).run (agentGateway env) step.choices s.1).1

/-- Every request of the call is made in order. -/
def Orderly (s : AgentWorld × ℤ) (step : TokenStep) : Prop :=
  s.2 ≤ (step.choices 0).now ∧
    ∀ ev ∈ (step.call.prog env).events (clockedAgents env) step.choices (step.start s),
      CallInOrder env ev.op ev.choice ev.before

instance (s : AgentWorld × ℤ) (step : TokenStep) : Decidable (step.Orderly env s) :=
  inferInstanceAs (Decidable (_ ∧ ∀ ev ∈ _, _))

/-- An instant of the call. -/
def Spans (s : AgentWorld × ℤ) (step : TokenStep) (now : ℤ) : Prop :=
  (step.choices 0).now ≤ now ∧ now ≤ (step.finish env s).2

/-- A resolve answers what the tables say at an instant of it, and it does answer unless a fault
prevents it; an introspection shows the caller's tenant what the tables say. -/
structure Transparent (s : AgentWorld × ℤ) (step : TokenStep) : Prop where
  resolves : ∀ token entry, step.call = .resolve token → step.outcome env s = .resolved (.ok entry) →
    ∃ now, step.Spans env s now ∧ entry = s.1.resolveHash now (env.hashToken token)
  answers : ∀ token, step.call = .resolve token → (∀ n, (step.choices n).FaultFree) →
    ∃ entry, step.outcome env s = .resolved (.ok entry)
  introspects : ∀ ctx token entry, step.call = .operation ctx (.introspect token) →
    step.outcome env s = .replied (.ok (.introspection entry)) →
      ∃ t now, requireTenant ctx = .ok t ∧ step.Spans env s now ∧
        entry = (s.1.resolveHash now (env.hashToken token)).filter fun res => res.tenantId = t

end TokenStep

section steps

variable {env : AgentEnv} {s : AgentWorld × ℤ}

/-- The reply of a method. -/
theorem inOrder_map {α β : Type} {Q : Except ServiceError β → AgentWorld × ℤ → Prop} {x : AgentMethod α}
    {f : α → β} (h : x.run.Sat (clockedAgents env) (inOrder env) (fun r s' => Q (r.map f) s') s) :
    (f <$> x).run.Sat (clockedAgents env) (inOrder env) Q s := by
  rw [ExceptT.run_map]
  exact Prog.sat_map.mpr h

/-- Every call keeps the cache sound. -/
theorem inOrder_agentCall (hs : CacheSound env.cacheTtl nonePending s) (call : AgentCall) :
    (call.prog env).Sat (clockedAgents env) (inOrder env)
      (fun _ s' => CacheSound env.cacheTtl nonePending s') s := by
  cases call with
  | resolve token => exact Prog.sat_map.mpr ((inOrder_resolveActToken hs token).post fun _ _ h => h.1)
  | operation ctx op =>
      refine Prog.sat_map.mpr ?_
      cases op with
      | createDelegation req => exact inOrder_map (inOrder_createAgentDelegation hs ctx req)
      | revokeDelegation id => exact inOrder_map (inOrder_revokeAgentDelegation hs ctx id)
      | mint d => exact inOrder_map (inOrder_mintAgentActToken hs ctx d)
      | introspect token =>
          exact inOrder_map ((inOrder_introspectAgentActToken hs ctx token).post fun _ _ h => h.1)
      | update req => exact inOrder_map (inOrder_updateAgent hs ctx req)
      | delete id => exact inOrder_map (inOrder_deleteAgent hs ctx id)

/-- An orderly call ends in what is proved of it. -/
theorem TokenStep.Orderly.ends {step : TokenStep} (ho : step.Orderly env s)
    {Q : AgentOutcome → AgentWorld × ℤ → Prop}
    (hsat : (step.call.prog env).Sat (clockedAgents env) (inOrder env) Q (step.start s)) :
    Q (step.outcome env s) (step.finish env s) := by
  have hend := (hsat.run_events (fun _ => rfl) ho.2).2
  rw [clockedAgents, (Prog.run_clocked (agentGateway env) (·.now) (step.call.prog env) step.choices
    (step.start s)).1] at hend
  exact hend

/-- **One call.** From a sound cache an orderly call answers what the tables say. -/
theorem transparent_of_sound (hs : CacheSound env.cacheTtl nonePending s) {step : TokenStep}
    (ho : step.Orderly env s) : step.Transparent env s where
  resolves := by
    intro token entry hcall hout
    have hsat : (step.call.prog env).Sat (clockedAgents env) (inOrder env) (fun o s' =>
        ∀ entry, o = .resolved (.ok entry) → ∃ now, (step.choices 0).now ≤ now ∧ now ≤ s'.2 ∧
          entry = s.1.resolveHash now (env.hashToken token)) (step.start s) := by
      rw [hcall]
      refine Prog.sat_map.mpr ((inOrder_resolveActToken (hs.later ho.1) token).post fun r s' h entry heq => ?_)
      cases heq
      exact h.2 entry rfl
    obtain ⟨now, hfirst, hlast, heq⟩ := ho.ends hsat entry hout
    exact ⟨now, ⟨hfirst, hlast⟩, heq⟩
  answers := by
    intro token hcall hfault
    have hsat : (step.call.prog env).Sat (agentGateway env) withoutFault
        (fun o _ => ∃ entry, o = .resolved (.ok entry)) s.1 := by
      rw [hcall]
      refine Prog.sat_map.mpr ((faultFree_resolveActToken token).post fun r _ hr => ?_)
      obtain ⟨entry, rfl⟩ := hr
      exact ⟨entry, rfl⟩
    exact hsat.run_of_choices fun _ n _ => hfault n
  introspects := by
    intro ctx token entry hcall hout
    have hsat : (step.call.prog env).Sat (clockedAgents env) (inOrder env) (fun o s' =>
        ∀ entry, o = .replied (.ok (.introspection entry)) → ∃ t now, requireTenant ctx = .ok t ∧
          (step.choices 0).now ≤ now ∧ now ≤ s'.2 ∧
            entry = (s.1.resolveHash now (env.hashToken token)).filter fun res => res.tenantId = t)
        (step.start s) := by
      rw [hcall]
      refine Prog.sat_map.mpr (inOrder_map
        ((inOrder_introspectAgentActToken (hs.later ho.1) ctx token).post fun r s' h entry heq => ?_))
      cases r with
      | error e => cases heq
      | ok entry' =>
          cases heq
          exact h.2 _ rfl
    obtain ⟨t, now, ht, hfirst, hlast, heq⟩ := ho.ends hsat entry hout
    exact ⟨t, now, ht, ⟨hfirst, hlast⟩, heq⟩

/-- The next state, after any call. -/
def tokenStep (env : AgentEnv) (s : AgentWorld × ℤ) (step : TokenStep) : Option (AgentWorld × ℤ) :=
  some (step.finish env s)

/-- **The cache is transparent** in every run of calls one after another, from a replica that has just
started and knows no grant: as long as every request is made in order (the clock does not go back, a
failed statement has no effect, and no refusal is cached of a token when it is issued or its agent is
made active), every resolve answers what the tables say. -/
theorem act_token_cache_transparent (env : AgentEnv) (base : World) (members : List MembershipState) (T : ℤ)
    (steps : List TokenStep)
    (horder : Machine.Along (tokenStep env) (fun s step => step.Orderly env s) (.start base members, T) steps) :
    Machine.Along (tokenStep env) (fun s step => step.Transparent env s) (.start base members, T) steps := by
  have hstart : CacheSound env.cacheTtl nonePending (.start base members, T) := by
    refine ⟨Cache.keyed_empty, ?_, ?_, ?_⟩
    · exact fun row hrow => absurd hrow List.not_mem_nil
    · exact fun _ _ _ he => absurd he List.not_mem_nil
    · exact fun _ _ he => absurd he List.not_mem_nil
  refine Machine.Along.of_invariant (I := fun s => CacheSound env.cacheTtl nonePending s) ?_ ?_ hstart horder
  · intro s step s' hs ho hstep
    cases hstep
    exact ho.ends (Q := fun _ s' => CacheSound env.cacheTtl nonePending s')
      (inOrder_agentCall (hs.later ho.1) step.call)
  · exact fun s step hs ho => transparent_of_sound hs ho

end steps

/-! ## A refusal that outlives the disabling -/

/-- The agent `bot`, and an administrator. -/
def botContext : RequestContext := ⟨some "acme", some ⟨"acme", "bot", .agent, ["agent:act"]⟩⟩

def agentAdminContext : RequestContext := ⟨some "acme", some ⟨"acme", "root", .user, [scopeAgentAdmin]⟩⟩

/-- A call at an instant, nothing failing. -/
def callAt (ulid : String) (now : ℤ) (call : AgentCall) : TokenStep := ⟨call, fun _ => .plain ulid now⟩

/-- Alice delegates to `bot`, which takes out a token; it is resolved. -/
def tokenIssued : List TokenStep :=
  [callAt "grant" 0 (.operation aliceContext (.createDelegation ⟨"bot", ["calendar:read"], some 1000⟩)),
    callAt "1" 1 (.operation botContext (.mint "grant")),
    callAt "" 2 (.resolve "sat_1")]

/-- The administrator sets the agent's status. -/
def statusSet (status : String) (now : ℤ) : TokenStep :=
  callAt "" now (.operation agentAdminContext (.update ⟨"bot", "", status⟩))

/-- A replica that has just started, on the world with the agent `bot`. -/
def botStart : AgentWorld × ℤ := (.start delegatedWorld.base [⟨"acme", "alice", "active"⟩], 0)

/-- What the token resolves to. -/
def botResolution : ActTokenResolution := ⟨"acme", "alice", "bot", "grant", ["calendar:read"], 601⟩

/-- The agent is disabled and enabled again, and nobody presents its token meanwhile: the token is
accepted again. -/
theorem act_token_cache_transparent_bot :
    Machine.Along (tokenStep plainAgentEnv) (fun s step => step.Transparent plainAgentEnv s) botStart
        (tokenIssued ++ [statusSet "disabled" 3, statusSet "active" 5, callAt "" 6 (.resolve "sat_1")]) ∧
      ∃ s, Machine.run (tokenStep plainAgentEnv) botStart
          (tokenIssued ++ [statusSet "disabled" 3, statusSet "active" 5]) = some s ∧
        (callAt "" 6 (.resolve "sat_1")).outcome plainAgentEnv s = .resolved (.ok (some botResolution)) := by
  refine ⟨?_, _, rfl, rfl⟩
  refine act_token_cache_transparent plainAgentEnv delegatedWorld.base [⟨"acme", "alice", "active"⟩] 0 _ ?_
  decide

/-- The same, but the token is presented while the agent is disabled: it stays refused after the agent is
active again, although every row says that it is valid. -/
theorem enabled_agent_refused :
    ∃ s, Machine.run (tokenStep plainAgentEnv) botStart
        (tokenIssued ++ [statusSet "disabled" 3, callAt "" 4 (.resolve "sat_1"), statusSet "active" 5]) =
          some s ∧
      s.1.resolveHash 6 "sat_1" = some botResolution ∧
      (callAt "" 6 (.resolve "sat_1")).outcome plainAgentEnv s = .resolved (.ok none) ∧
      ¬ (callAt "" 6 (.resolve "sat_1")).Transparent plainAgentEnv s := by
  refine ⟨_, rfl, rfl, rfl, fun h => ?_⟩
  obtain ⟨now, ⟨hfirst, hlast⟩, heq⟩ := h.resolves "sat_1" none rfl rfl
  have hfirst : 6 ≤ now := hfirst
  have hlast : now ≤ 6 := hlast
  obtain rfl : now = 6 := by omega
  cases heq

end SsoGateway
