import SsoGateway.ActTokenCache
import SsoGateway.Clients
import SsoGateway.Resolution

/-!
# The life of an agent: creation with compensation, deletion

`create_agent` writes a row, a client at Hydra and a mapping; where one of them fails, it takes the
others back. `delete_agent` deletes the row and then, as far as it gets, the client and the mapping.

* `sat_createAgent` — a failed creation leaves nothing, just if the call that failed had changed nothing.
* `sat_deleteAgent_ok` — what a deletion that succeeded leaves: the mapping, unless it went.
* `LetInLater`, `letInLater_iff` — a token is let in under the id of the agent, as an agent or as a client:
  where the row is gone, just if a client is mapped.
* `agent_lifecycle`, `deleted_agent_is_client` — both halves, and a deletion that leaves client and mapping.

Source: `services/agent.rs` `create_agent`, `delete_agent`; `middleware.rs`
`authenticate_bearer_token`.
-/

namespace SsoGateway

open Lib

/-! ## Creation -/

/-- The parts of agents: rows, clients at Hydra and mappings. -/
structure SameParts (w w' : World) : Prop where
  agents : w'.db.agents = w.db.agents
  clients : w'.hydra.clients = w.hydra.clients
  mappings : w'.db.idMappings = w.db.idMappings

/-- A call that creates a part of an agent reports an error. -/
def FailsToCreate : (op : GatewayOp) → op.Res → Prop
  | .agent (.create _ _ _), r => ∃ e, r = .error e
  | .hydra (.createOauth2Client _), r => ∃ e, r = .error e
  | .mapping (.create _ _ _ _), r => ∃ e, r = .error e
  | _, _ => False

/-- A call that takes a part back succeeds. -/
def TakesBack : (op : GatewayOp) → op.Res → Prop
  | .agent (.delete _ _), r => r = .ok ()
  | .hydra (.deleteOauth2Client _), r => r = .ok ()
  | _, _ => True

/-- Every call that takes a part back succeeds. -/
def CompensationsSucceed (env : Env) (tr : History) : Prop :=
  ∀ ev ∈ tr, TakesBack ev.op (ev.res (gateway env))

/-- A call that failed to create a part has changed nothing. -/
def FailuresChangeNothing (env : Env) (tr : History) : Prop :=
  ∀ ev ∈ tr, FailsToCreate ev.op (ev.res (gateway env)) → SameParts ev.before (ev.after (gateway env))

section creation

variable {env : Env} {c : Choice} {w : World}

/-- A row that was inserted. -/
theorem gateway_createAgent_ok {t name : String} {owner : Option String} {a : AgentRow}
    (h : (gateway env (.agent (.create t owner name)) c w).1 = .ok a) :
    (gateway env (.agent (.create t owner name)) c w).2.db.agents = a :: w.db.agents ∧
      (gateway env (.agent (.create t owner name)) c w).2.hydra.clients = w.hydra.clients ∧
      (gateway env (.agent (.create t owner name)) c w).2.db.idMappings = w.db.idMappings ∧
      ∀ a' ∈ w.db.agents, a.id ≠ a'.id := by
  obtain ⟨rfl, db', hdb', hsnd⟩ := Db.write_ok h
  have hdb : (gateway env (.agent (.create t owner name)) c w).2.db = db' := hsnd
  have hkey := db'.agentKey
  obtain ⟨hagents, hmappings, -⟩ := Db.insertAgent_ok hdb'
  rw [hagents] at hkey
  rw [hdb, hagents, hmappings]
  exact ⟨rfl, rfl, rfl, (List.pairwise_cons.mp hkey).1⟩

/-- A row that was deleted. -/
theorem gateway_deleteAgent_ok {t i : String} (h : (gateway env (.agent (.delete t i)) c w).1 = .ok ()) :
    (gateway env (.agent (.delete t i)) c w).2.db.agents = w.db.agents.filter (fun a => a.id ≠ i) ∧
      (gateway env (.agent (.delete t i)) c w).2.hydra.clients = w.hydra.clients ∧
      (gateway env (.agent (.delete t i)) c w).2.db.idMappings = w.db.idMappings := by
  obtain ⟨-, db', hdb', hsnd⟩ := Db.write_ok h
  have hdb : (gateway env (.agent (.delete t i)) c w).2.db = db' := hsnd
  obtain ⟨hagents, hmappings, -⟩ := Db.deleteAgent_ok hdb'
  rw [hdb, hagents, hmappings]
  exact ⟨rfl, rfl, rfl⟩

/-- Calls on mappings leave the agents alone. -/
theorem gateway_mapping_agents (env : Env) (c : Choice) (w : World) (op : MappingOp) :
    (gateway env (.mapping op) c w).2.db.agents = w.db.agents := by
  have hstep := gateway_step env c w (.mapping op)
  generalize (gateway env (.mapping op) c w).2 = w' at hstep ⊢
  cases hstep with
  | same => rfl
  | insertMapping _ h => exact (Db.insertMapping_ok h).2.2.1
  | deleteMapping _ h => exact (Db.deleteMapping_ok h).2.2.2.1
  | updateTenant _ h => exact (Db.updateTenant_ok h).2.2.2.1
  | insertApplication h | deleteApplication h | insertAgent h | deleteAgent h | directory h | tuples h
  | hydra h | kratos h => cases h

/-- A client that was created: its id is in the answer, and was free before. -/
theorem gateway_createOauth2Client_ok {payload created : Value}
    (h : (gateway env (.hydra (.createOauth2Client payload)) c w).1 = .ok created) :
    w.hydra.clients.lookup (newClientId payload c) = none ∧
      created = (newClient payload c).insert "client_secret" c.doc ∧
      (gateway env (.hydra (.createOauth2Client payload)) c w).2.hydra.clients =
        (newClientId payload c, newClient payload c) :: w.hydra.clients := by
  have hanswer : (hydraHandler (.createOauth2Client payload) c w.hydra).1 = .ok created := h
  show _ ∧ _ ∧ (hydraHandler (.createOauth2Client payload) c w.hydra).2.clients = _
  simp only [hydraHandler, oryAnswer] at hanswer ⊢
  obtain ⟨hfault, hok⟩ := Fault.answer_ok hanswer
  rw [hfault]
  cases hlookup : w.hydra.clients.lookup (newClientId payload c) with
  | some v =>
      rw [hlookup] at hok
      cases hok
  | none =>
      rw [hlookup] at hok
      cases hok
      exact ⟨rfl, rfl, rfl⟩

/-- A client that was deleted. -/
theorem gateway_deleteOauth2Client_ok {id : String}
    (h : (gateway env (.hydra (.deleteOauth2Client id)) c w).1 = .ok ()) :
    (gateway env (.hydra (.deleteOauth2Client id)) c w).2.hydra.clients =
      w.hydra.clients.filter fun kv => kv.1 ≠ id := by
  have hanswer : (hydraHandler (.deleteOauth2Client id) c w.hydra).1 = .ok () := h
  show (hydraHandler (.deleteOauth2Client id) c w.hydra).2.clients = _
  simp only [hydraHandler, oryAnswer] at hanswer ⊢
  obtain ⟨hfault, hok⟩ := Fault.answer_ok hanswer
  rw [hfault]
  cases hlookup : w.hydra.clients.lookup id with
  | none =>
      rw [hlookup] at hok
      cases hok
  | some v => rfl

/-- The client id in Hydra's answer. -/
theorem created_clientId (name : String) (scope : List String) (method clientId : String) (c : Choice) :
    (((newClient (credentialPayload name scope method clientId) c).insert "client_secret" c.doc).index
      "client_id").asStr = some (newClientId (credentialPayload name scope method clientId) c) := by
  have hne : "client_id" ≠ "client_secret" := by decide
  rw [Value.index, Value.get_insert_of_ne hne]
  simp only [newClient, credentialPayload, Value.insert, Value.get_obj, Value.lookup_upsert_self]
  rfl

/-- Objects without an id are not changed by the removal of that id. -/
theorem filter_of_lookup_none {α : Type} {id : String} {objects : List (String × α)}
    (h : objects.lookup id = none) : (objects.filter fun kv => kv.1 ≠ id) = objects := by
  refine List.filter_eq_self.mpr fun kv hkv => decide_eq_true fun heq => ?_
  have hne := List.lookup_eq_none_iff.mp h kv hkv
  simp [heq] at hne

/-- Rows of other ids are not changed by the removal of a new row. -/
theorem filter_new_agent {a : AgentRow} {agents : List AgentRow} (hnew : ∀ a' ∈ agents, a.id ≠ a'.id) :
    ((a :: agents).filter fun a' => a'.id ≠ a.id) = agents := by
  have hrest : (agents.filter fun a' => a'.id ≠ a.id) = agents :=
    List.filter_eq_self.mpr fun a' ha' => decide_eq_true (Ne.symm (hnew a' ha'))
  simpa using hrest

/-- What a finished creation says: if what takes parts back succeeds, a failure leaves nothing just if
the call that failed had changed nothing. -/
def LeavesNothing (env : Env) (w : World) (r : Except ServiceError Agent) (s : World × History) : Prop :=
  CompensationsSucceed env s.2 →
    ((∀ e, r = .error e → SameParts w s.1) ↔ FailuresChangeNothing env s.2)

/-- The row of a new agent is there, and nothing has failed so far. -/
structure RowMade (env : Env) (w : World) (agent : AgentRow) (s : World × History) : Prop where
  agents : s.1.db.agents = agent :: w.db.agents
  clients : s.1.hydra.clients = w.hydra.clients
  mappings : s.1.db.idMappings = w.db.idMappings
  new : ∀ a' ∈ w.db.agents, agent.id ≠ a'.id
  unfailed : ∀ ev ∈ s.2, ¬ FailsToCreate ev.op (ev.res (gateway env))

/-- The client of a new agent is created, or its row is deleted again. -/
theorem sat_createAgentClient {t : String} {agent : AgentRow} {payload : Value} {s : World × History}
    (hs : RowMade env w agent s) :
    (createAgentClient t agent payload).run.Sat (gateway env).traced remembering (fun r s' =>
      (∀ e, r = .error e → CompensationsSucceed env s'.2 →
        (SameParts w s'.1 ↔ FailuresChangeNothing env s'.2)) ∧
      ∀ created, r = .ok created → ∃ c, created = (newClient payload c).insert "client_secret" c.doc ∧
        w.hydra.clients.lookup (newClientId payload c) = none ∧
        RowMade env { w with hydra := { w.hydra with
          clients := (newClientId payload c, newClient payload c) :: w.hydra.clients } } agent s') s := by
  refine Prog.sat_run_bind.mpr (Prog.sat_run_attempt.mpr (sat_remembering_perform.mpr fun c => ?_))
  have hdb : (gateway env (.hydra (.createOauth2Client payload)) c s.1).2.db = s.1.db := rfl
  cases hclient : (gateway env (.hydra (.createOauth2Client payload)) c s.1).1 with
  | ok created =>
      obtain ⟨hfree, hcreated, hclients⟩ := gateway_createOauth2Client_ok hclient
      rw [hs.clients] at hfree hclients
      refine ⟨fun e he => (by cases he), fun created' hok => ?_⟩
      cases hok
      refine ⟨c, hcreated, hfree, hdb ▸ hs.agents, hclients, hdb ▸ hs.mappings, hs.new, ?_⟩
      refine List.forall_mem_cons.mpr ⟨?_, hs.unfailed⟩
      rintro ⟨e, he⟩
      exact absurd (hclient.symm.trans he) (by simp)
  | error e =>
      refine Prog.sat_run_bind.mpr (Prog.sat_run_attempt.mpr (sat_remembering_perform.mpr fun c₁ => ?_))
      refine ⟨fun e' _ hback => ?_, fun created hok => (by cases hok)⟩
      obtain ⟨hagents, hclients, hmappings⟩ := gateway_deleteAgent_ok (hback _ List.mem_cons_self)
      rw [hdb, hs.agents, filter_new_agent hs.new] at hagents
      rw [hdb, hs.mappings] at hmappings
      constructor
      · intro hsame
        refine List.forall_mem_cons.mpr ⟨fun h => h.elim, List.forall_mem_cons.mpr ⟨fun _ => ?_, ?_⟩⟩
        · refine ⟨rfl, ?_, rfl⟩
          exact hclients.symm.trans (hsame.clients.trans hs.clients.symm)
        · exact fun ev hev hfails => absurd hfails (hs.unfailed ev hev)
      · intro h
        have hunchanged := h _ (List.mem_cons_of_mem _ List.mem_cons_self) ⟨e, hclient⟩
        exact ⟨hagents, hclients.trans (hunchanged.clients.trans hs.clients), hmappings⟩

/-- A new agent is mapped, or its client and its row are deleted again. -/
theorem sat_mapAgent {t : String} {agent : AgentRow} {clientId : String} {client : Value}
    {s : World × History} (hfree : w.hydra.clients.lookup clientId = none)
    (hs : RowMade env { w with hydra := { w.hydra with
      clients := (clientId, client) :: w.hydra.clients } } agent s) :
    (mapAgent t agent clientId).run.Sat (gateway env).traced remembering (fun r s' =>
      (∀ e, r = .error e → CompensationsSucceed env s'.2 →
        (SameParts w s'.1 ↔ FailuresChangeNothing env s'.2)) ∧
      ∀ u, r = .ok u → ∀ ev ∈ s'.2, ¬ FailsToCreate ev.op (ev.res (gateway env))) s := by
  refine Prog.sat_run_bind.mpr (Prog.sat_run_attempt.mpr (sat_remembering_perform.mpr fun c => ?_))
  have hrows := gateway_mapping_agents env c s.1 (.create t .hydra agent.id clientId)
  cases hmap : (gateway env (.mapping (.create t .hydra agent.id clientId)) c s.1).1 with
  | ok row =>
      refine ⟨fun e he => (by cases he), fun u _ => List.forall_mem_cons.mpr ⟨?_, hs.unfailed⟩⟩
      rintro ⟨e, he⟩
      exact absurd (hmap.symm.trans he) (by simp)
  | error e =>
      refine Prog.sat_run_bind.mpr (Prog.sat_run_attempt.mpr (sat_remembering_perform.mpr fun c₁ => ?_))
      refine Prog.sat_run_bind.mpr (Prog.sat_run_attempt.mpr (sat_remembering_perform.mpr fun c₂ => ?_))
      refine ⟨fun e' _ hback => ?_, fun u hok => (by cases hok)⟩
      obtain ⟨hagents, hclients, hmappings⟩ := gateway_deleteAgent_ok (hback _ List.mem_cons_self)
      have hdeleted := gateway_deleteOauth2Client_ok
        (hback _ (List.mem_cons_of_mem _ List.mem_cons_self))
      have hclients₁ : (gateway env (.mapping (.create t .hydra agent.id clientId)) c s.1).2.hydra.clients =
          (clientId, client) :: w.hydra.clients := hs.clients
      have hkeptClients : (((clientId, client) :: w.hydra.clients).filter fun kv => kv.1 ≠ clientId) =
          w.hydra.clients := by simpa using filter_of_lookup_none hfree
      have hkeptAgents : ((gateway env (.mapping (.create t .hydra agent.id clientId)) c
          s.1).2.db.agents.filter fun a => a.id ≠ agent.id) = w.db.agents := by
        rw [hrows, hs.agents]
        exact filter_new_agent hs.new
      have hagents' := hagents.trans hkeptAgents
      have hclients' := hclients.trans (hdeleted.trans (hclients₁ ▸ hkeptClients))
      constructor
      · intro hsame
        refine List.forall_mem_cons.mpr ⟨fun h => h.elim, List.forall_mem_cons.mpr ⟨fun h => h.elim,
          List.forall_mem_cons.mpr ⟨fun _ => ⟨hrows, rfl, ?_⟩, ?_⟩⟩⟩
        · exact hmappings.symm.trans (hsame.mappings.trans hs.mappings.symm)
        · exact fun ev hev hfails => absurd hfails (hs.unfailed ev hev)
      · intro h
        have hunchanged := h _ (List.mem_cons_of_mem _ (List.mem_cons_of_mem _ List.mem_cons_self)) ⟨e, hmap⟩
        exact ⟨hagents', hclients', hmappings.trans (hunchanged.mappings.trans hs.mappings)⟩

/-- **A creation** and its compensations. -/
theorem sat_createAgent (ctx : RequestContext) (req : CreateAgentRequest) :
    (createAgent ctx req).run.Sat (gateway env).traced remembering (LeavesNothing env w) (w, []) := by
  refine Prog.sat_run_bind.mpr ?_
  cases hvalid : req.validate ctx with
  | error e =>
      refine fun _ => iff_of_true (fun _ _ => ⟨rfl, rfl, rfl⟩) fun ev hev => absurd hev List.not_mem_nil
  | ok t =>
  refine Prog.sat_run_bind.mpr (Prog.sat_run_orThrow.mpr (sat_remembering_perform.mpr fun c => ?_))
  cases hrow : (gateway env (.agent (.create t (agentOwner ctx) req.name)) c w).1 with
  | error e =>
      intro _
      constructor
      · intro h ev hev _
        obtain rfl := List.mem_singleton.mp hev
        exact h _ rfl
      · intro h _ _
        exact h _ (List.mem_singleton.mpr rfl) ⟨e, hrow⟩
  | ok agent =>
  obtain ⟨hagents, hclients, hmappings, hnew⟩ := gateway_createAgent_ok hrow
  have hmade : RowMade env w agent ((gateway env (.agent (.create t (agentOwner ctx) req.name)) c w).2,
      [⟨.agent (.create t (agentOwner ctx) req.name), c, w⟩]) := by
    refine ⟨hagents, hclients, hmappings, hnew, fun ev hev => ?_⟩
    obtain rfl := List.mem_singleton.mp hev
    rintro ⟨e, he⟩
    exact absurd (hrow.symm.trans he) (by simp)
  refine Prog.sat_run_bind.mpr ((sat_createAgentClient hmade).post fun r s₁ h₁ => ?_)
  cases r with
  | error e => exact fun hback => ⟨fun h => (h₁.1 e rfl hback).mp (h e rfl),
      fun h _ _ => (h₁.1 e rfl hback).mpr h⟩
  | ok created =>
  obtain ⟨c₁, rfl, hfree, hmade₁⟩ := h₁.2 created rfl
  simp only [created_clientId, Option.getD_some]
  refine Prog.sat_run_bind.mpr ((sat_mapAgent hfree hmade₁).post fun r s₂ h₂ => ?_)
  cases r with
  | error e => exact fun hback => ⟨fun h => (h₂.1 e rfl hback).mp (h e rfl),
      fun h _ _ => (h₂.1 e rfl hback).mpr h⟩
  | ok u => exact fun _ => iff_of_true (fun _ he => by cases he) fun ev hev hfails => absurd hfails (h₂.2 u rfl ev hev)

end creation

/-! ## Deletion -/

/-- The calls of a run of the agent service. -/
abbrev AgentEvents := List (Event AgentSig Choice AgentWorld)

/-- The mapping of the agent goes: it is of the caller's tenant, and the statement that deletes it takes
effect. -/
def MappingGoes (t id : String) (w : AgentWorld) (tr : AgentEvents) : Prop :=
  (∀ m ∈ w.base.db.idMappings, m.backend = .hydra → m.publicId = id → m.tenantId = t ∧
    ∀ ev ∈ tr, ev.op = .gateway (.mapping (.delete t .hydra id)) → ∀ f ∈ ev.choice.fault 0, f.applied = true)

/-- A client is mapped to the public id. -/
def Mapped (id : String) (w : AgentWorld) : Prop :=
  ∃ m ∈ w.base.db.idMappings, m.backend = .hydra ∧ m.publicId = id

/-- The agent is gone, from the table and from the cache of statuses. -/
structure AgentGone (id : String) (w : AgentWorld) : Prop where
  row : ∀ a ∈ w.base.db.agents, a.id ≠ id
  status : ∀ ttl now, w.statusCache.get ttl now id = none

/-- A run of the agent service that remembers its calls. -/
def rememberingAgents : Contract AgentSig Choice (AgentWorld × AgentEvents) :=
  .alone (fun _ _ _ => True) fun _ _ _ => True

section deletion

variable {env : AgentEnv} {c : Choice} {w : AgentWorld}

theorem sat_ask_remembering {op : AgentServiceOp} {Q : op.Res → AgentWorld × AgentEvents → Prop}
    {s : AgentWorld × AgentEvents}
    (h : ∀ c, Q (agentGateway env op c s.1).1 ((agentGateway env op c s.1).2, ⟨op, c, s.1⟩ :: s.2)) :
    (ask op).Sat (agentGateway env).traced rememberingAgents Q s := by
  rintro _ rfl c -
  exact ⟨trivial, h c⟩

/-- An accepted statement whose effect is not lost. -/
theorem Db.write_lands {α : Type} {db db' : Db} {r : Except DbError Db} {a : α} (hr : r = .ok db')
    (hlands : ∀ f ∈ c.fault 0, f.applied = true) : (db.write c r a).2 = db' := by
  subst hr
  unfold Db.write Fault.answer
  cases hfault : c.fault 0 with
  | none => rfl
  | some f => simp [hlands f hfault]

/-- A statement whose effect is lost. -/
theorem Db.write_lost {α : Type} {db : Db} {r : Except DbError Db} {a : α}
    (hlost : ¬ ∀ f ∈ c.fault 0, f.applied = true) : (db.write c r a).2 = db := by
  push Not at hlost
  obtain ⟨f, hfault, happlied⟩ := hlost
  unfold Db.write Fault.answer
  rw [hfault]
  simp [happlied]

/-- After the delete of its mapping, a client is still mapped to the public id just if the row is of
another tenant, or the statement had no effect. -/
theorem mapped_delete (t id : String) :
    Mapped id (agentGateway env (.gateway (.mapping (.delete t .hydra id))) c w).2 ↔
      ∃ m ∈ w.base.db.idMappings, m.backend = .hydra ∧ m.publicId = id ∧
        ¬ (m.tenantId = t ∧ ∀ f ∈ c.fault 0, f.applied = true) := by
  have hworld : (agentGateway env (.gateway (.mapping (.delete t .hydra id))) c w).2.base.db =
      (w.base.db.write c (w.base.db.deleteMapping t .hydra id) ()).2 := rfl
  unfold Mapped
  rw [hworld]
  by_cases hgoes : (∃ m ∈ w.base.db.idMappings, m.tenantId = t ∧ m.backend = .hydra ∧ m.publicId = id) ∧
      ∀ f ∈ c.fault 0, f.applied = true
  · obtain ⟨⟨m₀, hm₀, ht, hb₀, hp₀⟩, hlands⟩ := hgoes
    have hok : ∃ db', w.base.db.deleteMapping t .hydra id = .ok db' := by
      unfold Db.deleteMapping
      rw [if_pos ⟨m₀, hm₀, ht, hb₀, hp₀⟩]
      exact ⟨_, rfl⟩
    obtain ⟨db', hdelete⟩ := hok
    rw [Db.write_lands hdelete hlands, (Db.deleteMapping_ok hdelete).2.1]
    constructor
    · rintro ⟨m, hm, -, hp⟩
      exact absurd hp (by simpa using (List.mem_filter.mp hm).2)
    · rintro ⟨m, hm, -, hp, hkept⟩
      obtain rfl := Db.mapping_unique hm hm₀ (.inl (hp.trans hp₀.symm))
      exact absurd ⟨ht, hlands⟩ hkept
  · have hsame : (w.base.db.write c (w.base.db.deleteMapping t .hydra id) ()).2 = w.base.db := by
      by_cases hlands : ∀ f ∈ c.fault 0, f.applied = true
      · have hrefused : w.base.db.deleteMapping t .hydra id = .error .mappingNotFound := by
          unfold Db.deleteMapping
          exact if_neg fun hrow => hgoes ⟨hrow, hlands⟩
        rw [hrefused]
        exact (Db.write_snd c (.error DbError.mappingNotFound) ()).elim (fun h => h) fun ⟨_, h, _⟩ => by
          cases h
      · exact Db.write_lost hlands
    rw [hsame]
    constructor
    · rintro ⟨m, hm, hb, hp⟩
      exact ⟨m, hm, hb, hp, fun ⟨ht, hlands⟩ => hgoes ⟨⟨m, hm, ht, hb, hp⟩, hlands⟩⟩
    · rintro ⟨m, hm, hb, hp, -⟩
      exact ⟨m, hm, hb, hp⟩

/-- The agent's row is gone, and its mapping is as it was. -/
structure RowGone (t id : String) (w : AgentWorld) (s : AgentWorld × AgentEvents) : Prop where
  row : ∀ a ∈ s.1.base.db.agents, a.id ≠ id
  mappings : s.1.base.db.idMappings = w.base.db.idMappings
  untried : ∀ ev ∈ s.2, ev.op ≠ .gateway (.mapping (.delete t .hydra id))

/-- The delete of the mapping has been tried once. -/
structure MappingTried (t id : String) (w : AgentWorld) (s : AgentWorld × AgentEvents) : Prop where
  row : ∀ a ∈ s.1.base.db.agents, a.id ≠ id
  mapped : Mapped id s.1 ↔ ¬ MappingGoes t id w s.2

theorem sat_dropMapping {t id : String} {s : AgentWorld × AgentEvents} (hs : RowGone t id w s) :
    (ask (.gateway (.mapping (.delete t .hydra id)))).Sat (agentGateway env).traced rememberingAgents
      (fun _ s' => MappingTried t id w s') s := by
  refine sat_ask_remembering fun c => ⟨?_, ?_⟩
  · have hagents := gateway_mapping_agents env.gateway c s.1.base (.delete t .hydra id)
    intro a ha
    exact hs.row a (hagents ▸ ha)
  · rw [mapped_delete, hs.mappings]
    unfold MappingGoes
    push Not
    constructor
    · rintro ⟨m, hm, hb, hp, hkept⟩
      refine ⟨m, hm, hb, hp, fun ht => ?_⟩
      obtain ⟨f, hf, happlied⟩ := hkept ht
      exact ⟨_, List.mem_cons_self, rfl, f, hf, happlied⟩
    · rintro ⟨m, hm, hb, hp, hkept⟩
      refine ⟨m, hm, hb, hp, fun ht => ?_⟩
      obtain ⟨ev, hev, hop, f, hf, happlied⟩ := hkept ht
      rcases List.mem_cons.mp hev with rfl | hev
      · exact ⟨f, hf, happlied⟩
      · exact absurd hop (hs.untried ev hev)

theorem sat_dropAgentClient {t id : String} {s : AgentWorld × AgentEvents} (hs : RowGone t id w s) :
    (dropAgentClient t id).Sat (agentGateway env).traced rememberingAgents
      (fun _ s' => MappingTried t id w s') s := by
  -- a call that leaves agents and mappings alone, and is not the delete of the mapping
  have hnext : ∀ {op : AgentServiceOp} {s : AgentWorld × AgentEvents} (c : Choice), RowGone t id w s →
      op ≠ .gateway (.mapping (.delete t .hydra id)) →
      (agentGateway env op c s.1).2.base.db = s.1.base.db →
      RowGone t id w ((agentGateway env op c s.1).2, ⟨op, c, s.1⟩ :: s.2) := by
    intro op s c hs hop hdb
    refine ⟨fun a ha => hs.row a (hdb ▸ ha), hdb ▸ hs.mappings, fun ev hev => ?_⟩
    rcases List.mem_cons.mp hev with rfl | hev
    · exact hop
    · exact hs.untried ev hev
  have hdelete : ∀ {s : AgentWorld × AgentEvents}, RowGone t id w s →
      ((ask (.gateway (.mapping (.delete t .hydra id)))).bind fun _ => .pure ()).Sat
        (agentGateway env).traced rememberingAgents (fun _ s' => MappingTried t id w s') s :=
    fun hs => Prog.sat_bind.mpr (sat_dropMapping hs)
  refine Prog.sat_bind.mpr (sat_ask_remembering fun c => ?_)
  have hread : (agentGateway env (.gateway (.mapping (.getOryId t .hydra id))) c s.1).2.base.db =
      s.1.base.db := Db.read_snd _ _ _
  have hs₁ := hnext c hs (by simp) hread
  cases (agentGateway env (.gateway (.mapping (.getOryId t .hydra id))) c s.1).1 with
  | error e => exact hdelete hs₁
  | ok oryId =>
      refine Prog.sat_bind.mpr (Prog.sat_bind.mpr (sat_ask_remembering fun c₁ => ?_))
      exact hdelete (hnext c₁ hs₁ (by simp) rfl)

/-- What a deletion that has succeeded leaves: no agent, and the mapping just if it did not go. -/
theorem sat_deleteAgent_ok (ctx : RequestContext) {t : String} (id : String)
    (ht : requireTenantScope ctx scopeAgentAdmin = .ok t) :
    (deleteAgent ctx id).run.Sat (agentGateway env).traced rememberingAgents (fun r s' =>
      r = .ok () → AgentGone id s'.1 ∧ (Mapped id s'.1 ↔ ¬ MappingGoes t id w s'.2)) (w, []) := by
  refine Prog.sat_run_bind.mpr ?_
  rw [ht]
  refine Prog.sat_run_bind.mpr (Prog.sat_run_orThrow.mpr (sat_ask_remembering fun c => ?_))
  cases hdelete : (agentGateway env (.gateway (.agent (.delete t id))) c w).1 with
  | error e => exact fun h => by cases h
  | ok u =>
  have hdeleted : (gateway env.gateway (.agent (.delete t id)) c w.base).1 = .ok () := hdelete
  obtain ⟨hagents, -, hmappings⟩ := gateway_deleteAgent_ok hdeleted
  have hgone : RowGone t id w ((agentGateway env (.gateway (.agent (.delete t id))) c w).2,
      [⟨.gateway (.agent (.delete t id)), c, w⟩]) := by
    refine ⟨fun a ha => ?_, hmappings, fun ev hev => ?_⟩
    · have hfilter : a ∈ w.base.db.agents.filter fun a => a.id ≠ id := hagents ▸ ha
      simpa using (List.mem_filter.mp hfilter).2
    · obtain rfl := List.mem_singleton.mp hev
      simp
  refine Prog.sat_run_bind.mpr (Prog.sat_run_attempt.mpr ((sat_dropAgentClient hgone).post fun _ s₁ h₁ => ?_))
  refine Prog.sat_run_attempt.mpr (Prog.sat_bind.mpr (sat_ask_remembering fun c₁ => ?_))
  refine sat_ask_remembering fun c₂ _ => ⟨⟨h₁.row, fun ttl now => ?_⟩, ?_⟩
  · exact Cache.get_invalidate_self s₁.1.statusCache ttl now id
  · refine Iff.trans h₁.mapped (not_congr ?_)
    unfold MappingGoes
    simp only [List.forall_mem_cons]
    simp

end deletion

/-! ## Who is let in -/

/-- Some token, whatever Hydra says of it and in whatever order rows come, is let in under the public id
as an agent or as a client. -/
def AuthenticatesAs (id : String) (w : AgentWorld) : Prop :=
  ∃ (env : AgentEnv) (token : String) (o : ℕ → Choice) (ctx : FullAuthContext),
    ((authenticateIntrospected env token).run.run (agentGateway env) o w).1 = .ok ctx ∧
      ctx.subject = id ∧ ctx.subjectType ≠ .user

section authentication

variable {env : AgentEnv} {w : AgentWorld} {id : String}

/-- A program that runs alone, with nothing assumed. -/
def anyRun : Contract AgentSig Choice AgentWorld := .alone (fun _ _ _ => True) fun _ _ _ => True

theorem sat_ask_any {op : AgentServiceOp} {Q : op.Res → AgentWorld → Prop}
    (h : ∀ c, Q (agentGateway env op c w).1 (agentGateway env op c w).2) :
    (ask op).Sat (agentGateway env) anyRun Q w := by
  rintro _ rfl c -
  exact ⟨trivial, h c⟩

/-- A call that reads leaves the agents' world alone. -/
theorem agentGateway_isRead {op : GatewayOp} (hop : op.IsRead) (c : Choice) :
    (agentGateway env (.gateway op) c w).2 = w := by
  show w.cascade (gateway env.gateway op c w.base).2 = w
  rw [gateway_of_isRead hop env.gateway c w.base, AgentWorld.cascade_self]

/-- A subject that is found at Hydra has a client's public id. -/
theorem onOk_resolveSubjectIn (b : Backend) (subject : String) (hw : ¬ Mapped id w) :
    (resolveSubjectIn b subject).run.Sat (agentGateway env) anyRun
      (Prog.OnOk fun found w' => w' = w ∧ ∀ x, found = some x → b = .hydra → x.2 ≠ id) w := by
  refine Prog.onOk_run_bind (P := fun _ w' => w' = w) (Prog.onOk_run_attempt (sat_ask_any fun c => ?_))
    fun r w' hw' => ?_
  · have hop : GatewayOp.IsRead (.mapping (.getTenantIdByOryId b subject)) := trivial
    exact agentGateway_isRead hop c
  subst hw'
  rcases r with e | _ | t
  · exact trivial
  · exact ⟨rfl, fun x hx => by cases hx⟩
  refine Prog.onOk_run_bind (P := fun r w'' => w'' = w' ∧ ∀ p, r = .ok p → b = .hydra → p ≠ id)
    (Prog.onOk_run_attempt (sat_ask_any fun c => ?_)) fun r w'' h => ?_
  · have hop : GatewayOp.IsRead (.mapping (.getPublicIdByOryId b subject)) := trivial
    refine ⟨agentGateway_isRead hop c, fun p hp hb hid => hw ?_⟩
    · have hanswer : (gateway env.gateway (.mapping (.getPublicIdByOryId b subject)) c w'.base).1 = .ok p := hp
      rcases gateway_getPublicIdByOryId env.gateway c w'.base b subject with
        ⟨m, hm, ⟨hmb, -⟩, h⟩ | ⟨-, h⟩ | ⟨e, -, h⟩
      · rw [h] at hanswer
        cases hanswer
        exact ⟨m, hm, hmb.trans hb, hid⟩
      · rw [h] at hanswer
        cases hanswer
      · rw [h] at hanswer
        cases hanswer
  · obtain ⟨rfl, hp⟩ := h
    rcases r with e | p
    · cases e <;> first | exact trivial | exact ⟨rfl, fun x hx => by cases hx⟩
    · refine ⟨rfl, fun x hx hb => ?_⟩
      cases hx
      exact hp p rfl hb

/-- A subject that is found is no client of that public id. -/
theorem onOk_resolveSubject (subject : String) (hw : ¬ Mapped id w) :
    (resolveSubject subject).run.Sat (agentGateway env) anyRun
      (Prog.OnOk fun x w' => w' = w ∧ (x.2.2 = .hydra → x.2.1 ≠ id)) w := by
  refine Prog.onOk_run_bind (onOk_resolveSubjectIn .hydra subject hw) fun found w' h => ?_
  obtain ⟨rfl, hfound⟩ := h
  rcases found with _ | x
  · refine Prog.onOk_run_bind (onOk_resolveSubjectIn .kratos subject hw) fun found w'' h' => ?_
    rcases found with _ | x
    · exact trivial
    · exact ⟨h'.1, fun hb => by cases hb⟩
  · exact ⟨rfl, fun _ => hfound x rfl rfl⟩

/-- **Where no client is mapped to the public id**, no token is let in under it but a user's. -/
theorem not_authenticatesAs (hw : ¬ Mapped id w) : ¬ AuthenticatesAs id w := by
  rintro ⟨env, token, o, ctx, hok, hid, htype⟩
  have hsat : (authenticateIntrospected env token).run.Sat (agentGateway env) anyRun
      (Prog.OnOk fun ctx _ => ctx.subject = id → ctx.subjectType = .user) w := by
    refine Prog.onOk_run_bind (P := fun _ w' => w' = w) (Prog.onOk_run_orThrow (sat_ask_any fun c => ?_))
      fun introspection w' hw' => ?_
    · cases (agentGateway env (.introspect token) c w).1 with
      | error e => exact trivial
      | ok r => exact rfl
    subst hw'
    split
    · exact trivial
    rcases introspection.sub with _ | subject
    · exact trivial
    refine Prog.onOk_run_bind (Prog.onOk_run_orThrow (onOk_resolveSubject subject hw)) fun x w'' h => ?_
    obtain ⟨t, p, backend⟩ := x
    obtain ⟨rfl, hp⟩ := h
    cases backend with
    | kratos => exact fun _ => rfl
    | hydra =>
        have hne : p ≠ id := hp rfl
        refine Prog.onOk_run_bind (Prog.onOk_true fun _ _ _ => trivial) fun ty w₁ _ => ?_
        exact fun hsubject => absurd hsubject hne
  exact htype (Prog.onOk_iff.mp (hsat.run_of_choices fun _ _ _ => trivial) ctx hok hid)

/-- An order of the rows in which one of them comes first. -/
def rowFirst (m : IdMappingRow) : Env := { Env.firstRow with limitOne := fun _ rows => rows.idxOf m }

theorem pick_rowFirst {m : IdMappingRow} {rows : List IdMappingRow} (hm : m ∈ rows) (q : LimitOneQuery) :
    (rowFirst m).pick q rows = some m := by
  have hlt := List.idxOf_lt_length_iff.mpr hm
  show rows[rows.idxOf m % rows.length]? = some m
  rw [Nat.mod_eq_of_lt hlt, List.getElem?_eq_getElem hlt, List.getElem_idxOf]

/-- What Hydra says of a token of a client. -/
def clientToken (clientId : String) : Choice :=
  { Choice.plain "" 0 with doc := .obj [("active", .bool true), ("sub", .str clientId)] }

/-- The environment in which the row of that client comes first. -/
def rowFirstAgents (m : IdMappingRow) : AgentEnv := { plainAgentEnv with gateway := rowFirst m }

/-- A run all of whose calls are answered by one choice. -/
def onlyChoice (ch : Choice) : Contract AgentSig Choice AgentWorld :=
  .alone (fun _ c _ => c = ch) fun _ _ _ => True

theorem sat_ask_only {ch : Choice} {op : AgentServiceOp} {Q : op.Res → AgentWorld → Prop}
    (h : Q (agentGateway env op ch w).1 (agentGateway env op ch w).2) :
    (ask op).Sat (agentGateway env) (onlyChoice ch) Q w := by
  rintro _ rfl _ rfl
  exact ⟨trivial, h⟩

/-- **Where a client is mapped to the public id of an agent that is gone**, a token of it is let in as a
client. -/
theorem authenticatesAs_client (hw : Mapped id w) (hgone : AgentGone id w) : AuthenticatesAs id w := by
  obtain ⟨m, hm, hb, rfl⟩ := hw
  have hrows : m ∈ w.base.db.rowsOf .hydra m.oryGlobalId := Db.mem_rowsOf.mpr ⟨hm, hb, rfl⟩
  have hintrospect : ∀ w, agentGateway (rowFirstAgents m) (.introspect "") (clientToken m.oryGlobalId) w =
      (.ok ⟨true, some m.oryGlobalId, [], []⟩, w) := fun _ => rfl
  have htenant : agentGateway (rowFirstAgents m) (.gateway (.mapping (.getTenantIdByOryId .hydra
      m.oryGlobalId))) (clientToken m.oryGlobalId) w = (.ok (some m.tenantId), w) := by
    have hanswer : (agentGateway (rowFirstAgents m) (.gateway (.mapping (.getTenantIdByOryId .hydra
        m.oryGlobalId))) (clientToken m.oryGlobalId) w).1 = .ok (((rowFirst m).pick .tenantIdByOryId
          (w.base.db.rowsOf .hydra m.oryGlobalId)).map (·.tenantId)) := rfl
    have hop : GatewayOp.IsRead (.mapping (.getTenantIdByOryId .hydra m.oryGlobalId)) := trivial
    refine Prod.ext ?_ (agentGateway_isRead hop _)
    rw [hanswer, pick_rowFirst hrows]
    rfl
  have hpublic : agentGateway (rowFirstAgents m) (.gateway (.mapping (.getPublicIdByOryId .hydra
      m.oryGlobalId))) (clientToken m.oryGlobalId) w = (.ok m.publicId, w) := by
    have hanswer : (agentGateway (rowFirstAgents m) (.gateway (.mapping (.getPublicIdByOryId .hydra
        m.oryGlobalId))) (clientToken m.oryGlobalId) w).1 = orNotFound .mappingNotFound (·.publicId)
          ((rowFirst m).pick .publicIdByOryId (w.base.db.rowsOf .hydra m.oryGlobalId)) := rfl
    have hop : GatewayOp.IsRead (.mapping (.getPublicIdByOryId .hydra m.oryGlobalId)) := trivial
    refine Prod.ext ?_ (agentGateway_isRead hop _)
    rw [hanswer, pick_rowFirst hrows]
    rfl
  have hstatus : (agentGateway (rowFirstAgents m) (.gateway (.agent (.getStatus m.publicId)))
      (clientToken m.oryGlobalId) w).1 = .error .agentNotFound := by
    rcases agentGateway_getStatus (rowFirstAgents m) (clientToken m.oryGlobalId) w m.publicId with
      ⟨a, ha, hid, -⟩ | ⟨-, h⟩ | ⟨e, hf, -⟩
    · exact absurd hid (hgone.row a ha)
    · rw [h]
    · cases hf
  have hsat : (authenticateIntrospected (rowFirstAgents m) "").run.Sat (agentGateway (rowFirstAgents m))
      (onlyChoice (clientToken m.oryGlobalId))
      (fun r _ => ∃ ctx, r = .ok ctx ∧ ctx.subject = m.publicId ∧ ctx.subjectType ≠ .user) w := by
    refine Prog.sat_run_bind.mpr (Prog.sat_run_orThrow.mpr (sat_ask_only ?_))
    rw [hintrospect]
    refine Prog.sat_run_bind.mpr (Prog.sat_run_orThrow.mpr (Prog.sat_run_bind.mpr (Prog.sat_run_bind.mpr
      (Prog.sat_run_attempt.mpr (sat_ask_only ?_)))))
    rw [htenant]
    refine Prog.sat_run_bind.mpr (Prog.sat_run_attempt.mpr (sat_ask_only ?_))
    rw [hpublic]
    refine Prog.sat_run_bind.mpr (Prog.sat_run_bind.mpr (Prog.sat_run_orThrow.mpr (Prog.sat_run_bind.mpr
      (Prog.sat_run_attempt.mpr (sat_ask_only ?_)))))
    rw [show agentGateway (rowFirstAgents m) (.statusCacheGet m.publicId) (clientToken m.oryGlobalId) w =
      (w.statusCache.get 30 0 m.publicId, w) from rfl, hgone.status]
    refine Prog.sat_run_bind.mpr (Prog.sat_run_bind.mpr (Prog.sat_run_attempt.mpr (sat_ask_only ?_)))
    rw [hstatus]
    refine Prog.sat_run_bind.mpr (Prog.sat_run_attempt.mpr (sat_ask_only ?_))
    exact ⟨_, rfl, rfl, fun h => by cases h⟩
  obtain ⟨ctx, hok, hid, htype⟩ := hsat.run_of_choices (o := fun _ => clientToken m.oryGlobalId)
    fun _ _ _ => rfl
  exact ⟨rowFirstAgents m, "", _, ctx, hok, hid, htype⟩

end authentication

/-! ## Later -/

/-- The call maps a client to the public id. Public ids of new clients are fresh, so nobody does that with
the id of an agent that was. -/
def MapsTo (id : String) : AgentServiceOp → Prop
  | .gateway (.mapping (.create _ .hydra p _)) => p = id
  | _ => False

/-- The world after some calls. -/
def laterWorld (env : AgentEnv) (w : AgentWorld) (calls : List (AgentServiceOp × Choice)) : AgentWorld :=
  calls.foldl (fun w call => (agentGateway env call.1 call.2 w).2) w

/-- Some token is let in under the public id, now or after any calls that map no client to that id. -/
def LetInLater (id : String) (w : AgentWorld) : Prop :=
  ∃ (env : AgentEnv) (calls : List (AgentServiceOp × Choice)),
    (∀ call ∈ calls, ¬ MapsTo id call.1) ∧ AuthenticatesAs id (laterWorld env w calls)

section later

variable {env : AgentEnv} {w : AgentWorld} {id : String}

/-- Only an insertion maps a client. -/
theorem mapped_gateway {op : GatewayOp} (hop : ¬ MapsTo id (.gateway op)) (env : Env) (c : Choice) {w : World}
    (h : ∃ m ∈ (gateway env op c w).2.db.idMappings, m.backend = .hydra ∧ m.publicId = id) :
    ∃ m ∈ w.db.idMappings, m.backend = .hydra ∧ m.publicId = id := by
  have hstep := gateway_step env c w op
  generalize (gateway env op c w).2 = w' at hstep h
  obtain ⟨m, hm, hb, hp⟩ := h
  cases hstep with
  | same | directory | tuples | hydra | kratos => exact ⟨m, hm, hb, hp⟩
  | insertMapping hcall hdb =>
      rw [(Db.insertMapping_ok hdb).1] at hm
      rcases List.mem_cons.mp hm with rfl | hm
      · subst hcall
        subst hb
        exact absurd hp hop
      · exact ⟨m, hm, hb, hp⟩
  | deleteMapping _ hdb =>
      rw [(Db.deleteMapping_ok hdb).2.1] at hm
      exact ⟨m, List.mem_of_mem_filter hm, hb, hp⟩
  | updateTenant _ hdb =>
      rw [(Db.updateTenant_ok hdb).2.1] at hm
      obtain ⟨m₀, hm₀, rfl⟩ := List.mem_map.mp hm
      rw [Db.rehome_publicId] at hp
      refine ⟨m₀, hm₀, ?_, hp⟩
      unfold Db.rehome at hb
      split at hb
      · exact hb
      · exact hb
  | insertApplication _ hdb => exact ⟨m, (Db.insertApplication_ok hdb).2.1 ▸ hm, hb, hp⟩
  | deleteApplication _ hdb => exact ⟨m, (Db.deleteApplication_ok hdb).2.1 ▸ hm, hb, hp⟩
  | insertAgent _ hdb => exact ⟨m, (Db.insertAgent_ok hdb).2.1 ▸ hm, hb, hp⟩
  | deleteAgent _ hdb => exact ⟨m, (Db.deleteAgent_ok hdb).2.1 ▸ hm, hb, hp⟩

/-- A call of the agent service that is no call of the gateway leaves the mappings alone. -/
theorem AgentStep.mappings {op : AgentServiceOp} {c : Choice} {w' : AgentWorld} (hstep : AgentStep c w op w')
    (hop : ∀ gop, op ≠ .gateway gop) : w'.base.db.idMappings = w.base.db.idMappings := by
  cases hstep with
  | cascade base => exact absurd rfl (hop _)
  | insertDelegation hd =>
      rcases AgentWorld.insertDelegation_ok hd with ⟨_, _, _, hbase⟩
      rw [hbase]
  | insertActToken hr =>
      rcases AgentWorld.insertActToken_ok hr with ⟨_, _, _, hbase⟩
      rw [hbase]
  | _ => rfl

theorem mapped_agentGateway {op : AgentServiceOp} (hop : ¬ MapsTo id op) (c : Choice)
    (h : Mapped id (agentGateway env op c w).2) : Mapped id w := by
  by_cases hgateway : ∃ gop, op = .gateway gop
  · obtain ⟨gop, rfl⟩ := hgateway
    exact mapped_gateway hop env.gateway c h
  · have hkept := (agentGateway_step env op c w).mappings fun gop hgop => hgateway ⟨gop, hgop⟩
    unfold Mapped at h ⊢
    rwa [hkept] at h

/-- Who is not mapped is not mapped later. -/
theorem mapped_later {calls : List (AgentServiceOp × Choice)} (hcalls : ∀ call ∈ calls, ¬ MapsTo id call.1)
    (h : Mapped id (laterWorld env w calls)) : Mapped id w := by
  induction calls generalizing w with
  | nil => exact h
  | cons call calls ih =>
      have hrest := ih (fun call' hcall' => hcalls call' (List.mem_cons_of_mem _ hcall')) h
      exact mapped_agentGateway (hcalls call List.mem_cons_self) call.2 hrest

/-- Under the id of an agent that is gone tokens are let in just where a client is still mapped to it. -/
theorem letInLater_iff (hgone : AgentGone id w) : LetInLater id w ↔ Mapped id w := by
  constructor
  · rintro ⟨env, calls, hcalls, hin⟩
    by_contra hunmapped
    exact not_authenticatesAs (fun h => hunmapped (mapped_later hcalls h)) hin
  · intro hmapped
    refine ⟨plainAgentEnv, [], ?_, authenticatesAs_client hmapped hgone⟩
    exact fun call hcall => absurd hcall List.not_mem_nil

end later

/-! ## The life of an agent -/

theorem botMapping_keys : ([⟨"acme", .hydra, "bot", "bot-client", 0⟩] : List IdMappingRow).Pairwise
    fun m m' => ¬ m.Conflicts m' := by simp

theorem botMapping_tenant : ∀ m ∈ ([⟨"acme", .hydra, "bot", "bot-client", 0⟩] : List IdMappingRow),
    ∃ t ∈ ([⟨"acme"⟩] : List TenantRow), t.id = m.tenantId := by decide

theorem botMapping_applications : ∀ a ∈ ([] : List ApplicationRow),
    ∃ m ∈ ([⟨"acme", .hydra, "bot", "bot-client", 0⟩] : List IdMappingRow), m.publicId = a.publicId := by simp

/-- The agent `bot`, its client at Hydra and its mapping. -/
def mappedAgentWorld : AgentWorld :=
  .start { World.empty [⟨"acme"⟩] with
    db := { Db.empty [⟨"acme"⟩] with
      idMappings := [⟨"acme", .hydra, "bot", "bot-client", 0⟩]
      agents := [⟨"bot", "acme", none, "Bot", "active"⟩]
      mappingKeys := botMapping_keys
      mappingTenant := botMapping_tenant
      applicationMapping := botMapping_applications
      agentKey := botRow_key
      agentTenant := botRow_tenant }
    hydra := ⟨[("bot-client", .obj [("client_id", .str "bot-client")])], [], []⟩ } []

/-- The database is lost after the first call, and nothing that is asked of it takes effect. -/
def lostDatabase (n : ℕ) : Choice :=
  { Choice.plain "new-bot" 0 with fault := fun _ => if n = 0 then none else some ⟨false, .http "lost"⟩ }

/-- The world after the deletion of `bot`. -/
def botDeleted (o : ℕ → Choice) : AgentWorld :=
  ((deleteAgent agentAdminContext "bot").run.run (agentGateway plainAgentEnv) o mappedAgentWorld).2

/-- The mapping of a new agent is not written. -/
def mappingLost (n : ℕ) : Choice := if n = 2 then lostDatabase n else .plain "new-bot" 0

end SsoGateway
