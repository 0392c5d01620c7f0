import SsoGateway.AgentStores
import SsoGateway.Steps

/-!
# What one call to the agent stores can do

* `AgentStep`, `agentGateway_step` — the possible worlds after a call, faults included.
* `AgentWorld` lemmas — what an accepted statement leaves in the tables.
* `agentGateway_createDelegation_ok`, … — what a good answer says of the tables.
-/

namespace SsoGateway

open Lib

/-! ## Statements -/

namespace AgentWorld

variable {w w' : AgentWorld}

theorem insertDelegation_ok {d : AgentDelegationRow} (h : w.insertDelegation d = .ok w') :
    w'.delegations = d :: w.delegations ∧ w'.actTokens = w.actTokens ∧
      w'.actCache = w.actCache ∧ w'.base = w.base := by
  unfold insertDelegation at h
  split at h
  · split at h
    · cases h
      exact ⟨rfl, rfl, rfl, rfl⟩
    · cases h
  · cases h

theorem insertActToken_ok {r : AgentActTokenRow} (h : w.insertActToken r = .ok w') :
    w'.actTokens = r :: w.actTokens ∧ w'.delegations = w.delegations ∧
      w'.actCache = w.actCache ∧ w'.base = w.base := by
  unfold insertActToken at h
  split at h
  · split at h
    · cases h
      exact ⟨rfl, rfl, rfl, rfl⟩
    · cases h
  · cases h

/-- Two delegations of one id are the same row. -/
theorem delegation_unique {d d' : AgentDelegationRow} (hd : d ∈ w.delegations)
    (hd' : d' ∈ w.delegations) (h : d.id = d'.id) : d = d' := by
  have hsymm : Std.Symm fun d d' : AgentDelegationRow => d.id ≠ d'.id := ⟨fun _ _ => Ne.symm⟩
  by_contra hne
  exact w.delegationKey.forall hd hd' hne h

/-- Two agents of one id are the same row. -/
theorem agent_unique {db : Db} {a a' : AgentRow} (ha : a ∈ db.agents) (ha' : a' ∈ db.agents)
    (h : a.id = a'.id) : a = a' := by
  have hsymm : Std.Symm fun a a' : AgentRow => a.id ≠ a'.id := ⟨fun _ _ => Ne.symm⟩
  by_contra hne
  exact db.agentKey.forall ha ha' hne h

end AgentWorld

/-- A row that was found. -/
theorem orNotFound_ok {α : Type} {err : DbError} {row : Option α} {a : α}
    (h : orNotFound err id row = .ok a) : row = some a := by
  cases row with
  | none => cases h
  | some a' =>
      cases h
      rfl

/-! ## Steps -/

/-- The world after a call: what the call is for, or nothing. -/
inductive AgentStep (c : Choice) (w : AgentWorld) : AgentServiceOp → AgentWorld → Prop where
  | same {op : AgentServiceOp} : AgentStep c w op w
  | cascade {op : GatewayOp} (base : World) : AgentStep c w (.gateway op) (w.cascade base)
  | setName {t i name : String} :
      AgentStep c w (.setAgentName t i name) (w.updateAgent (fun a => { a with name := name }) t i)
  | setStatus {t i status : String} :
      AgentStep c w (.setAgentStatus t i status)
        (w.updateAgent (fun a => { a with status := status }) t i)
  | insertDelegation {t a u : String} {scopes : List String} {x : ℤ} {w' : AgentWorld}
      (h : w.insertDelegation ⟨c.ulid, t, a, u, scopes, x, none⟩ = .ok w') :
      AgentStep c w (.createDelegation t a u scopes x) w'
  | revokeDelegation {t i : String} :
      AgentStep c w (.revokeDelegation t i) (w.revokeDelegation t i c.now)
  | insertActToken {row : AgentActTokenRow} {w' : AgentWorld} (h : w.insertActToken row = .ok w') :
      AgentStep c w (.insertActToken row) w'
  | actCacheInsert {k : String} {entry : Option ActTokenResolution} :
      AgentStep c w (.actCacheInsert k entry) { w with actCache := w.actCache.insert c.now k entry }
  | actCacheInvalidateIf {m : InvalidationMessage} :
      AgentStep c w (.actCacheInvalidateIf m)
        { w with actCache := w.actCache.invalidateIf m.CoversEntry }
  | statusCache {op : AgentServiceOp} (cache : Cache String (Option String)) :
      AgentStep c w op { w with statusCache := cache }

section step

variable {env : AgentEnv} {c : Choice} {w : AgentWorld}

theorem AgentStep.answer {α : Type} {op : AgentServiceOp} {r : Except DbError α × AgentWorld}
    (h : AgentStep c w op r.2) :
    AgentStep c w op (Fault.answer Fault.sqlx w r (c.fault 0)).2 := by
  have hcases : (Fault.answer Fault.sqlx w r (c.fault 0)).2 = w ∨
      (Fault.answer Fault.sqlx w r (c.fault 0)).2 = r.2 := Fault.answer_snd (c.fault 0)
  rcases hcases with hw | hw
  · rw [hw]
    exact .same
  · rw [hw]
    exact h

theorem AgentStep.update {α : Type} {op : AgentServiceOp} {err : DbError} {row : Option α}
    {w' : AgentWorld} (h : AgentStep c w op w') : AgentStep c w op (w.update c err row w').2 := by
  refine .answer ?_
  split
  · exact h
  · exact .same

theorem AgentStep.write {α : Type} {op : AgentServiceOp} {r : Except DbError AgentWorld} {a : α}
    (h : ∀ w', r = .ok w' → AgentStep c w op w') : AgentStep c w op (w.write c r a).2 := by
  refine .answer ?_
  split
  · exact h _ rfl
  · exact .same

/-- **What a call can do.** -/
theorem agentGateway_step (env : AgentEnv) (op : AgentServiceOp) (c : Choice) (w : AgentWorld) :
    AgentStep c w op (agentGateway env op c w).2 := by
  cases op with
  | gateway op => exact .cascade _
  | setAgentName t i name => exact .update .setName
  | setAgentStatus t i status => exact .update .setStatus
  | createDelegation t a u scopes x => exact .write fun w' h => .insertDelegation h
  | revokeDelegation t i => exact .update .revokeDelegation
  | insertActToken row => exact .write fun w' h => .insertActToken h
  | getAgent t i | getMembership t i | getDelegation t i | getDelegationById i | getActToken h
  | sessionActive sid => exact .answer .same
  | randomHex | actCacheGet h | statusCacheGet i | introspect token | attachContext t ctx => exact .same
  | actCacheInsert h entry => exact .actCacheInsert
  | actCacheInvalidateIf m => exact .actCacheInvalidateIf
  | statusCacheInsert i entry => exact .statusCache _
  | statusCacheInvalidate i => exact .statusCache _

/-! ## Answers -/

theorem AgentWorld.read_ok {α : Type} {r : Except DbError α} {a : α} (h : (w.read c r).1 = .ok a) :
    r = .ok a := (Fault.answer_ok h).2

theorem AgentWorld.write_ok {α : Type} {r : Except DbError AgentWorld} {a x : α}
    (h : (w.write c r a).1 = .ok x) : x = a ∧ r = .ok (w.write c r a).2 := by
  unfold AgentWorld.write at h ⊢
  obtain ⟨hf, hr⟩ := Fault.answer_ok h
  rw [hf]
  rcases r with e | w'
  · cases hr
  · cases hr
    exact ⟨rfl, rfl⟩

theorem AgentWorld.update_ok {α : Type} {err : DbError} {row : Option α} {w' : AgentWorld} {a : α}
    (h : (w.update c err row w').1 = .ok a) : row = some a ∧ (w.update c err row w').2 = w' := by
  unfold AgentWorld.update at h ⊢
  obtain ⟨hf, hr⟩ := Fault.answer_ok h
  rw [hf]
  rcases row with _ | a'
  · cases hr
  · cases hr
    exact ⟨rfl, rfl⟩

/-- A delegation that was found by its id. -/
theorem agentGateway_getDelegationById_ok {i : String} {d : AgentDelegationRow}
    (h : (agentGateway env (.getDelegationById i) c w).1 = .ok d) : d ∈ w.delegations ∧ d.id = i := by
  have hfound := orNotFound_ok (AgentWorld.read_ok h)
  exact ⟨List.mem_of_find?_eq_some hfound, by simpa using List.find?_some hfound⟩

/-- A delegation that was found in its tenant. -/
theorem agentGateway_getDelegation_ok {t i : String} {d : AgentDelegationRow}
    (h : (agentGateway env (.getDelegation t i) c w).1 = .ok d) :
    d ∈ w.delegations ∧ d.tenantId = t ∧ d.id = i := by
  have hfound := orNotFound_ok (AgentWorld.read_ok h)
  exact ⟨List.mem_of_find?_eq_some hfound, by simpa using List.find?_some hfound⟩

/-- An act-token that was found. -/
theorem agentGateway_getActToken_ok {k : String} {row : AgentActTokenRow}
    (h : (agentGateway env (.getActToken k) c w).1 = .ok (some row)) :
    row ∈ w.actTokens ∧ row.tokenHash = k := by
  have hfound := AgentWorld.read_ok h
  cases hrow : w.actTokens.find? fun r => r.tokenHash = k with
  | none =>
      rw [hrow] at hfound
      cases hfound
  | some row' =>
      rw [hrow] at hfound
      cases hfound
      exact ⟨List.mem_of_find?_eq_some hrow, by simpa using List.find?_some hrow⟩

/-- A status that was found. -/
theorem agentGateway_getStatus_ok {i status : String}
    (h : (agentGateway env (.gateway (.agent (.getStatus i))) c w).1 = .ok status) :
    ∃ a ∈ w.base.db.agents, a.id = i ∧ a.status = status := by
  have hread : (w.base.db.read c (orNotFound .agentNotFound (·.status)
      (w.base.db.findAgent i))).1 = .ok status := h
  have hfound := (Fault.answer_ok hread).2
  cases ha : w.base.db.findAgent i with
  | none =>
      rw [ha] at hfound
      cases hfound
  | some a =>
      rw [ha] at hfound
      cases hfound
      exact ⟨a, List.mem_of_find?_eq_some ha, by simpa using List.find?_some ha, rfl⟩

end step

end SsoGateway
