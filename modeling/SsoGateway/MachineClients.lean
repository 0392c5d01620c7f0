import SsoGateway.Clients
import SsoGateway.DcrCalls
import SsoGateway.Lib.History

/-!
# Maintenance and the clients of the admin calls

The calls that create a machine client run together with registrations, boots and collector passes,
their calls interleaved in any way. Maintenance is for dynamic registrations; but it knows one only
by what is missing, a row in `applications` and a row in `agents`, and a client credential has
neither.

* `ClientOperation`, `deployment` — the operations, and any number of them as one pool.
* `machineIds`, `machineClients` — what the admin calls of a history have created.
* `MachineAllowed` — the condition on a call: ids are new, and whoever lists the mappings of a tenant
  finds every machine client covered by a row.
* `maintenance_spares_machines` — under it no call of a boot or a pass touches a machine client.
* `credential_taken_for_registration` — a client credential, a boot and a pass.
-/

namespace SsoGateway

open Lib

/-! ## The deployment -/

/-- What runs. -/
inductive ClientOperation where
  | createClientCredential (ctx : RequestContext) (req : CreateClientCredentialRequest)
  | createApplication (lib : Libraries) (cfg : ApplicationConfig) (ctx : RequestContext)
      (req : CreateApplicationRequest)
  | createAgent (ctx : RequestContext) (req : CreateAgentRequest)
  /-- `POST /oauth2/register`. -/
  | register (lib : Libraries) (st : Oauth2State) (auth : Option AuthContext) (body : Value)
  /-- A start of the gateway. Source: `build_app_with_upstream`. -/
  | boot (cfg : DcrMaintenance)
  /-- A run of the collector. -/
  | collect (cfg : DcrMaintenance)

namespace ClientOperation

/-- The program of an operation; what it answers is not looked at. -/
def prog : ClientOperation → Prog Gateway Unit
  | createClientCredential ctx req =>
      (fun _ => ()) <$> (SsoGateway.createClientCredential ctx req).run
  | createApplication lib cfg ctx req =>
      (fun _ => ()) <$> (SsoGateway.createApplication lib cfg ctx req).run
  | createAgent ctx req => (fun _ => ()) <$> (SsoGateway.createAgent ctx req).run
  | register lib st auth body => (fun _ => ()) <$> SsoGateway.register lib st auth body
  | boot cfg => (fun _ => ()) <$> backfillLegacyDcrClients cfg
  | collect cfg => (fun _ => ()) <$> reapUnusedRegistrations cfg

/-- The three admin calls. -/
def Creates : ClientOperation → Prop
  | createClientCredential _ _ => True
  | createApplication _ _ _ _ => True
  | createAgent _ _ => True
  | _ => False

instance : DecidablePred Creates
  | createClientCredential _ _ => inferInstanceAs (Decidable True)
  | createApplication _ _ _ _ => inferInstanceAs (Decidable True)
  | createAgent _ _ => inferInstanceAs (Decidable True)
  | register _ _ _ _ => inferInstanceAs (Decidable False)
  | boot _ => inferInstanceAs (Decidable False)
  | collect _ => inferInstanceAs (Decidable False)

/-- The two passes. -/
def Maintains : ClientOperation → Prop
  | boot _ => True
  | collect _ => True
  | _ => False

instance : DecidablePred Maintains
  | createClientCredential _ _ => inferInstanceAs (Decidable False)
  | createApplication _ _ _ _ => inferInstanceAs (Decidable False)
  | createAgent _ _ => inferInstanceAs (Decidable False)
  | register _ _ _ _ => inferInstanceAs (Decidable False)
  | boot _ => inferInstanceAs (Decidable True)
  | collect _ => inferInstanceAs (Decidable True)

end ClientOperation

/-- The operations as one pool. -/
def deployment {κ : Type} (ops : κ → ClientOperation) (w : World) : Pool Gateway κ Unit World where
  world := w
  threads k := (ops k).prog

/-- The gateway's calls, made by one of the operations. -/
def gatewayFor (κ : Type) (env : Env) : Handler Gateway (κ × Choice) World :=
  fun op ic w => gateway env op ic.2 w

/-- The calls of a schedule so far. -/
abbrev Traffic (κ : Type) := List (Event Gateway (κ × Choice) World)

/-! ## What the admin calls have created -/

section created

variable {κ : Type} (ops : κ → ClientOperation)

/-- The public id an admin call generates for its client, if this is the call that does. -/
def machineIdOf (ev : Event Gateway (κ × Choice) World) : Option String :=
  if (ops ev.choice.1).Creates then
    match ev.op with
    | .newUlid => some ev.choice.2.ulid
    | .agent (.create _ _ _) => some ev.choice.2.ulid
    | _ => none
  else none

/-- The id of the client that Hydra creates for an admin call, if it does in this call. -/
def machineClientOf (ev : Event Gateway (κ × Choice) World) : Option String :=
  if (ops ev.choice.1).Creates then
    match ev.op with
    | .hydra (.createOauth2Client payload) =>
        let id := newClientId payload ev.choice.2
        let after := (hydraHandler (.createOauth2Client payload) ev.choice.2 ev.before.hydra).2
        if (ev.before.hydra.clients.lookup id).isNone ∧ (after.clients.lookup id).isSome then some id
        else none
    | _ => none
  else none

/-- The public ids of the clients created by admin calls. -/
def machineIds (past : Traffic κ) : List String := past.filterMap (machineIdOf ops)

/-- Their ids at Hydra. -/
def machineClients (past : Traffic κ) : List String := past.filterMap (machineClientOf ops)

/-- The mapping is there, or was when one of the calls was made. -/
def Seen (m : IdMappingRow) (s : World × Traffic κ) : Prop :=
  m ∈ s.1.db.idMappings ∨ ∃ ev ∈ s.2, m ∈ ev.before.db.idMappings

/-- No mapping seen so far satisfies `P`. -/
def NoneSeen (P : IdMappingRow → Prop) (s : World × Traffic κ) : Prop :=
  (∀ m ∈ s.1.db.idMappings, ¬ P m) ∧ ∀ ev ∈ s.2, ∀ m ∈ ev.before.db.idMappings, ¬ P m

instance (P : IdMappingRow → Prop) [DecidablePred P] (s : World × Traffic κ) :
    Decidable (NoneSeen P s) := inferInstanceAs (Decidable (_ ∧ _))

/-- The client has a row of the tenant, or is an agent. -/
def Covered (t p : String) (w : World) : Prop :=
  (∃ a ∈ w.db.applications, a.tenantId = t ∧ a.publicId = p) ∨ ∃ a ∈ w.db.agents, a.id = p

instance (t p : String) (w : World) : Decidable (Covered t p w) :=
  inferInstanceAs (Decidable (_ ∨ _))

/-- Every machine client mapped in the tenant is covered, and no other mapping has its Hydra id. -/
def MachinesCovered (t : String) (s : World × Traffic κ) : Prop :=
  ∀ m ∈ s.1.db.idMappings, m.tenantId = t → m.backend = .hydra →
    (m.oryGlobalId ∈ machineClients ops s.2 → m.publicId ∈ machineIds ops s.2) ∧
      (m.publicId ∈ machineIds ops s.2 → Covered t m.publicId s.1)

instance (t : String) (s : World × Traffic κ) : Decidable (MachinesCovered ops t s) := by
  unfold MachinesCovered
  exact inferInstance

/-- The condition on a call of the run. What an admin call generates, and what Hydra creates for it,
is new; an agent is only taken back while it is not mapped; and when a pass lists the mappings of a
tenant, the machine clients among them are covered. -/
def MachineAllowed (op : GatewayOp) (ic : κ × Choice) (s : World × Traffic κ) : Prop :=
  match op with
  | .newUlid => (ops ic.1).Creates → NoneSeen (fun m => m.publicId = ic.2.ulid) s
  | .agent (.create _ _ _) => (ops ic.1).Creates → NoneSeen (fun m => m.publicId = ic.2.ulid) s
  | .agent (.delete _ i) => NoneSeen (fun m => m.publicId = i) s
  | .hydra (.createOauth2Client payload) =>
      (ops ic.1).Creates → NoneSeen (fun m => m.oryGlobalId = newClientId payload ic.2) s
  | .mapping (.listPublicIds t .hydra) => MachinesCovered ops t s
  | .mapping (.listMappings t .hydra) => MachinesCovered ops t s
  | _ => True

instance (op : GatewayOp) (ic : κ × Choice) (s : World × Traffic κ) :
    Decidable (MachineAllowed ops op ic s) := by
  unfold MachineAllowed
  induction op using GatewayOp.casesOn with
  | mapping op =>
      induction op using MappingOp.casesOn with
      | listPublicIds t backend => induction backend using Backend.casesOn <;> exact inferInstance
      | listMappings t backend => induction backend using Backend.casesOn <;> exact inferInstance
      | _ => exact inferInstance
  | agent op => induction op using AgentOp.casesOn <;> exact inferInstance
  | hydra op => induction op using HydraOp.casesOn <;> exact inferInstance
  | _ => exact inferInstance

/-- The call deletes no machine client, neither at Hydra nor its mapping, and gives none a row or
tuples. -/
def SparesMachines (op : GatewayOp) (s : World × Traffic κ) : Prop :=
  match op with
  | .mapping (.delete _ _ p) => p ∉ machineIds ops s.2
  | .hydra (.deleteOauth2Client id) => id ∉ machineClients ops s.2
  | .application (.create _ p _ _) => p ∉ machineIds ops s.2
  | .entitlement (.seedApplication _ p _) => p ∉ machineIds ops s.2
  | _ => True

instance (op : GatewayOp) (s : World × Traffic κ) : Decidable (SparesMachines ops op s) := by
  unfold SparesMachines
  induction op using GatewayOp.casesOn with
  | mapping op => induction op using MappingOp.casesOn <;> exact inferInstance
  | hydra op => induction op using HydraOp.casesOn <;> exact inferInstance
  | application op => induction op using ApplicationOp.casesOn <;> exact inferInstance
  | entitlement op => induction op using EntitlementOp.casesOn <;> exact inferInstance
  | _ => exact inferInstance

/-- What every operation promises of its calls: covering rows stay. -/
def KeepsCover (op : GatewayOp) (s : World × Traffic κ) : Prop :=
  match op with
  | .mapping (.delete _ _ p) => p ∉ machineIds ops s.2
  | .application (.delete _ _) => False
  | _ => True

end created

/-! ## One call -/

section step

variable {κ : Type} {ops : κ → ClientOperation} {s s' s'' : World × Traffic κ}

theorem NoneSeen.not {P : IdMappingRow → Prop} (h : NoneSeen P s) {m : IdMappingRow}
    (hm : Seen m s) : ¬ P m := by
  rcases hm with hm | ⟨ev, hev, hm⟩
  · exact h.1 m hm
  · exact h.2 ev hev m hm

/-- What the others' calls keep of the mappings one has seen. -/
structure Onward (ops : κ → ClientOperation) (s s' : World × Traffic κ) : Prop where
  seen : ∀ m, Seen m s → Seen m s'
  grows : ∀ p ∈ machineIds ops s.2, p ∈ machineIds ops s'.2
  ids : ∀ m, Seen m s → m.publicId ∈ machineIds ops s'.2 → m.publicId ∈ machineIds ops s.2
  clients : ∀ m, Seen m s → m.oryGlobalId ∈ machineClients ops s'.2 →
    m.oryGlobalId ∈ machineClients ops s.2
  rows : ∀ a ∈ s.1.db.applications, a.publicId ∈ machineIds ops s.2 → a ∈ s'.1.db.applications
  agents : ∀ m a, Seen m s → a ∈ s.1.db.agents → a.id = m.publicId → a ∈ s'.1.db.agents

theorem Onward.refl (s : World × Traffic κ) : Onward ops s s :=
  ⟨fun _ h => h, fun _ h => h, fun _ _ h => h, fun _ _ h => h, fun _ h _ => h, fun _ _ _ h _ => h⟩

theorem Onward.trans (h : Onward ops s s') (h' : Onward ops s' s'') : Onward ops s s'' where
  seen m hm := h'.seen m (h.seen m hm)
  grows p hp := h'.grows p (h.grows p hp)
  ids m hm hp := h.ids m hm (h'.ids m (h.seen m hm) hp)
  clients m hm ho := h.clients m hm (h'.clients m (h.seen m hm) ho)
  rows a ha hp := h'.rows a (h.rows a ha hp) (h.grows _ hp)
  agents m a hm ha hp := h'.agents m a (h.seen m hm) (h.agents m a hm ha hp) hp

/-- A generated id is none of the mappings seen. -/
theorem machineIdOf_fresh {op : GatewayOp} {ic : κ × Choice} {p : String}
    (hallowed : MachineAllowed ops op ic s) (hp : machineIdOf ops ⟨op, ic, s.1⟩ = some p)
    {m : IdMappingRow} (hm : Seen m s) : m.publicId ≠ p := by
  unfold machineIdOf at hp
  split at hp
  · rename_i hcreates
    split at hp
    · rename_i hop
      simp only at hop
      subst hop
      cases hp
      exact (hallowed hcreates).not hm
    · rename_i hop
      simp only at hop
      subst hop
      cases hp
      exact (hallowed hcreates).not hm
    · cases hp
  · cases hp

/-- A created client is none of the mappings seen. -/
theorem machineClientOf_fresh {op : GatewayOp} {ic : κ × Choice} {id : String}
    (hallowed : MachineAllowed ops op ic s) (hid : machineClientOf ops ⟨op, ic, s.1⟩ = some id)
    {m : IdMappingRow} (hm : Seen m s) : m.oryGlobalId ≠ id := by
  unfold machineClientOf at hid
  split at hid
  · rename_i hcreates
    split at hid
    · rename_i hop
      simp only at hop
      subst hop
      simp only at hid
      split at hid
      · cases hid
        exact (hallowed hcreates).not hm
      · cases hid
    · cases hid
  · cases hid

/-- **One call**, of whatever operation: the rows that cover machine clients stay, and nothing seen
becomes a machine client. -/
theorem onward_step (env : Env) {op : GatewayOp} {ic : κ × Choice}
    (hallowed : MachineAllowed ops op ic s) (hkeeps : KeepsCover ops op s) :
    Onward ops s ((gatewayFor κ env).traced op ic s).2 := by
  have hstep := gateway_step env ic.2 s.1 op
  refine ⟨fun m hm => ?_, fun p hp => ?_, fun m hm hp => ?_, fun m hm ho => ?_, ?_, ?_⟩
  · rcases hm with hm | ⟨ev, hev, hm⟩
    · exact .inr ⟨_, List.mem_cons_self, hm⟩
    · exact .inr ⟨ev, List.mem_cons_of_mem _ hev, hm⟩
  · obtain ⟨ev, hev, hp⟩ := List.mem_filterMap.mp hp
    exact List.mem_filterMap.mpr ⟨ev, List.mem_cons_of_mem _ hev, hp⟩
  · obtain ⟨ev, hev, hp⟩ := List.mem_filterMap.mp hp
    rcases List.mem_cons.mp hev with rfl | hev
    · exact absurd rfl (machineIdOf_fresh hallowed hp hm)
    · exact List.mem_filterMap.mpr ⟨ev, hev, hp⟩
  · obtain ⟨ev, hev, ho⟩ := List.mem_filterMap.mp ho
    rcases List.mem_cons.mp hev with rfl | hev
    · exact absurd rfl (machineClientOf_fresh hallowed ho hm)
    · exact List.mem_filterMap.mpr ⟨ev, hev, ho⟩
  · show ∀ a ∈ s.1.db.applications, _ → a ∈ (gateway env op ic.2 s.1).2.db.applications
    generalize (gateway env op ic.2 s.1).2 = w' at hstep ⊢
    intro a ha hp
    cases hstep with
    | deleteMapping hop hdb =>
        subst hop
        rw [(Db.deleteMapping_ok hdb).2.2.1]
        refine List.mem_filter.mpr ⟨ha, ?_⟩
        simp only [ne_eq, decide_eq_true_eq]
        rintro rfl
        exact hkeeps hp
    | deleteApplication hop hdb =>
        subst hop
        exact hkeeps.elim
    | insertMapping hop hdb =>
        rw [(Db.insertMapping_ok hdb).2.1]
        exact ha
    | updateTenant hop hdb =>
        rw [(Db.updateTenant_ok hdb).2.2.1]
        exact ha
    | insertApplication hop hdb =>
        rw [(Db.insertApplication_ok hdb).1]
        exact List.mem_cons_of_mem _ ha
    | insertAgent hop hdb =>
        rw [(Db.insertAgent_ok hdb).2.2.1]
        exact ha
    | deleteAgent hop hdb =>
        rw [(Db.deleteAgent_ok hdb).2.2.1]
        exact ha
    | _ => exact ha
  · show ∀ m a, Seen m s → a ∈ s.1.db.agents → _ → a ∈ (gateway env op ic.2 s.1).2.db.agents
    generalize (gateway env op ic.2 s.1).2 = w' at hstep ⊢
    intro m a hm ha hid
    cases hstep with
    | deleteAgent hop hdb =>
        subst hop
        rw [(Db.deleteAgent_ok hdb).1]
        refine List.mem_filter.mpr ⟨ha, ?_⟩
        simp only [ne_eq, decide_eq_true_eq]
        intro hi
        exact NoneSeen.not hallowed hm (hid.symm.trans hi)
    | insertAgent hop hdb =>
        rw [(Db.insertAgent_ok hdb).1]
        exact List.mem_cons_of_mem _ ha
    | deleteMapping hop hdb =>
        rw [(Db.deleteMapping_ok hdb).2.2.2.1]
        exact ha
    | deleteApplication hop hdb =>
        rw [(Db.deleteApplication_ok hdb).2.2.1]
        exact ha
    | insertMapping hop hdb =>
        rw [(Db.insertMapping_ok hdb).2.2.1]
        exact ha
    | updateTenant hop hdb =>
        rw [(Db.updateTenant_ok hdb).2.2.2.1]
        exact ha
    | insertApplication hop hdb =>
        rw [(Db.insertApplication_ok hdb).2.2.1]
        exact ha
    | _ => exact ha

end step

/-! ## What a pass knows of a client -/

section pass

variable {κ : Type} {ops : κ → ClientOperation} {s s' : World × Traffic κ} {env : Env} {i : κ}

/-- The mapping has been listed: if it is a machine client's, it is covered. -/
structure Listed (ops : κ → ClientOperation) (t : String) (m : IdMappingRow)
    (s : World × Traffic κ) : Prop where
  seen : Seen m s
  client : m.oryGlobalId ∈ machineClients ops s.2 → m.publicId ∈ machineIds ops s.2
  cover : m.publicId ∈ machineIds ops s.2 → Covered t m.publicId s.1

/-- The client has no row in `applications`: if it is a machine client, it is an agent. -/
structure Rowless (ops : κ → ClientOperation) (m : IdMappingRow) (s : World × Traffic κ) : Prop where
  seen : Seen m s
  client : m.oryGlobalId ∈ machineClients ops s.2 → m.publicId ∈ machineIds ops s.2
  agent : m.publicId ∈ machineIds ops s.2 → ∃ a ∈ s.1.db.agents, a.id = m.publicId

/-- The client is no machine client. -/
structure Foreign (ops : κ → ClientOperation) (m : IdMappingRow) (s : World × Traffic κ) : Prop where
  seen : Seen m s
  client : m.oryGlobalId ∉ machineClients ops s.2
  id : m.publicId ∉ machineIds ops s.2

theorem Listed.onward {t : String} {m : IdMappingRow} (h : Listed ops t m s) (ho : Onward ops s s') :
    Listed ops t m s' := by
  refine ⟨ho.seen m h.seen, fun hc => ho.grows _ (h.client (ho.clients m h.seen hc)), fun hp => ?_⟩
  have hp := ho.ids m h.seen hp
  rcases h.cover hp with ⟨a, ha, ht, hap⟩ | ⟨a, ha, hap⟩
  · exact .inl ⟨a, ho.rows a ha (hap.symm ▸ hp), ht, hap⟩
  · exact .inr ⟨a, ho.agents m a h.seen ha hap, hap⟩

theorem Rowless.onward {m : IdMappingRow} (h : Rowless ops m s) (ho : Onward ops s s') :
    Rowless ops m s' := by
  refine ⟨ho.seen m h.seen, fun hc => ho.grows _ (h.client (ho.clients m h.seen hc)), fun hp => ?_⟩
  obtain ⟨a, ha, hap⟩ := h.agent (ho.ids m h.seen hp)
  exact ⟨a, ho.agents m a h.seen ha hap, hap⟩

theorem Foreign.onward {m : IdMappingRow} (h : Foreign ops m s) (ho : Onward ops s s') :
    Foreign ops m s' :=
  ⟨ho.seen m h.seen, fun hc => h.client (ho.clients m h.seen hc), fun hp => h.id (ho.ids m h.seen hp)⟩

/-! ## The contract -/

/-- The contract of an operation: it relies on covering rows to stay, and keeps them itself; a pass
spares the machine clients. -/
def sparingMachines (ops : κ → ClientOperation) (i : κ) :
    Contract Gateway (κ × Choice) (World × Traffic κ) where
  rely := Onward ops
  assume op ic s := ic.1 = i ∧ MachineAllowed ops op ic s
  guar op _ s := KeepsCover ops op s ∧ ((ops i).Maintains → SparesMachines ops op s)

/-- Along a program that keeps its contract, what was seen stays as it was. -/
theorem sat_onward {α : Type} {Q : α → World × Traffic κ → Prop} {p : Prog Gateway α}
    (hp : p.Sat (gatewayFor κ env).traced (sparingMachines ops i) Q s) :
    p.Sat (gatewayFor κ env).traced (sparingMachines ops i) (fun a s' => Q a s' ∧ Onward ops s s')
      s := by
  induction p generalizing s with
  | pure a => exact ⟨hp, .refl s⟩
  | call op k ih =>
      intro s₁ hrely ic hassume
      obtain ⟨hguar, hk⟩ := hp s₁ hrely ic hassume
      refine ⟨hguar, (ih _ hk).post fun a s₂ hend => ⟨hend.1, ?_⟩⟩
      exact hrely.trans ((onward_step env hassume.2 hguar.1).trans hend.2)

/-- Calls that write forward only. -/
def OnlyAdds : GatewayOp → Prop
  | .mapping (.delete _ _ _) => False
  | .application (.delete _ _) => False
  | _ => True

theorem OnlyAdds.keepsCover {op : GatewayOp} (hop : OnlyAdds op) (s : World × Traffic κ) :
    KeepsCover ops op s := by
  unfold KeepsCover
  split
  · exact hop.elim
  · exact hop.elim
  · trivial

theorem onlyAdds_of_isLookup {op : GatewayOp} (hop : op.IsLookup) : OnlyAdds op := by
  unfold OnlyAdds
  split
  · exact hop.elim
  · exact hop.elim
  · trivial

/-- An operation that is no pass only has to keep the covering rows. -/
theorem sat_forward {α : Type} {p : Prog Gateway α} (hi : ¬ (ops i).Maintains)
    (hp : p.Calls OnlyAdds) (s : World × Traffic κ) :
    p.Sat (gatewayFor κ env).traced (sparingMachines ops i) (fun _ _ => True) s := by
  refine hp.sat (I := fun _ => True) (fun _ _ _ _ => trivial) ?_ trivial
  intro op ic s hop _ _
  exact ⟨⟨hop.keepsCover s, fun h => absurd h hi⟩, trivial⟩

/-- What a pass may do to a client that is no machine client. -/
def Concerns (m : IdMappingRow) : GatewayOp → Prop
  | .mapping (.delete _ _ p) => p = m.publicId
  | .hydra (.deleteOauth2Client id) => id = m.oryGlobalId
  | .application (.create _ p _ _) => p = m.publicId
  | .application (.delete _ _) => False
  | .entitlement (.seedApplication _ p _) => p = m.publicId
  | _ => True

theorem concerns_of_isQuery {m : IdMappingRow} {op : GatewayOp} (hop : op.IsQuery) :
    Concerns m op := by
  unfold Concerns
  split
  · exact hop.elim
  · exact hop.elim
  · exact hop.elim
  · exact hop.elim
  · exact hop.elim
  · trivial

/-- Such calls keep the contract. -/
theorem Foreign.guar {m : IdMappingRow} {op : GatewayOp} (h : Foreign ops m s)
    (hop : Concerns m op) : KeepsCover ops op s ∧ SparesMachines ops op s := by
  constructor
  · unfold KeepsCover
    split
    · rw [show _ = m.publicId from hop]
      exact h.id
    · exact hop
    · trivial
  · unfold SparesMachines
    split
    · rw [show _ = m.publicId from hop]
      exact h.id
    · rw [show _ = m.oryGlobalId from hop]
      exact h.client
    · rw [show _ = m.publicId from hop]
      exact h.id
    · rw [show _ = m.publicId from hop]
      exact h.id
    · trivial

/-- What is done to a client that is no machine client. -/
theorem sat_foreign {α : Type} {p : Prog Gateway α} {m : IdMappingRow} (h : Foreign ops m s)
    (hp : p.Calls (Concerns m)) :
    p.Sat (gatewayFor κ env).traced (sparingMachines ops i) (fun _ _ => True) s := by
  refine (hp.sat (I := Foreign ops m) (fun _ _ h ho => h.onward ho) ?_ h).post fun _ _ _ => trivial
  intro op ic s hop h hassume
  have hguar := h.guar hop
  exact ⟨⟨hguar.1, fun _ => hguar.2⟩, h.onward (onward_step env hassume.2 hguar.1)⟩

theorem sparesMachines_of_isQuery {op : GatewayOp} (hop : op.IsQuery) (s : World × Traffic κ) :
    KeepsCover ops op s ∧ SparesMachines ops op s := by
  constructor
  · exact (onlyAdds_of_isLookup hop.isLookup).keepsCover s
  · unfold SparesMachines
    split
    · exact hop.elim
    · exact hop.elim
    · exact hop.elim
    · exact hop.elim
    · trivial

/-- The questions of a pass. -/
theorem sat_query {α : Type} {p : Prog Gateway α} (hp : p.Calls GatewayOp.IsQuery)
    (s : World × Traffic κ) :
    p.Sat (gatewayFor κ env).traced (sparingMachines ops i) (fun _ _ => True) s := by
  refine hp.sat (I := fun _ => True) (fun _ _ _ _ => trivial) ?_ trivial
  intro op ic s hop _ _
  have hguar : KeepsCover ops op s ∧ SparesMachines ops op s := sparesMachines_of_isQuery hop s
  exact ⟨⟨hguar.1, fun _ => hguar.2⟩, trivial⟩

/-! ## The passes -/

variable (env) in
/-- A query of a pass that leaves the world alone: what is known before it is known after it. -/
theorem onward_query {op : GatewayOp} {ic : κ × Choice} (hop : op.IsQuery)
    (hallowed : MachineAllowed ops op ic s) :
    Onward ops s ((gatewayFor κ env).traced op ic s).2 :=
  onward_step env hallowed (sparesMachines_of_isQuery hop s).1

/-- A machine client without a row is an agent. -/
theorem sat_rowExists {t : String} {m : IdMappingRow} (h : Listed ops t m s) :
    (applicationRowExists t m.publicId).run.Sat (gatewayFor κ env).traced (sparingMachines ops i)
      (fun r s => r = .ok false → Rowless ops m s) s := by
  unfold applicationRowExists
  rw [Prog.sat_run_bind, Prog.sat_run_attempt]
  refine Prog.sat_perform.mpr ?_
  rintro s₁ ho ic ⟨-, hallowed⟩
  refine ⟨⟨trivial, fun _ => trivial⟩, ?_⟩
  have hquery : (GatewayOp.application (.get t m.publicId)).IsQuery := trivial
  have hafter := (h.onward ho).onward (onward_query env hquery hallowed)
  rcases gateway_getApplication env ic.2 s₁.1 t m.publicId with
    ⟨a, ha, hP, hanswer⟩ | ⟨habsent, hanswer⟩ | ⟨e, -, hanswer⟩
  · simp only [gatewayFor, Handler.traced, hanswer]
    intro hr
    cases hr
  · simp only [gatewayFor, Handler.traced, hanswer] at hafter ⊢
    intro _
    refine ⟨hafter.seen, hafter.client, fun hp => ?_⟩
    rcases hafter.cover hp with ⟨a, ha, ht, hap⟩ | hagent
    · exact absurd ⟨ht, hap⟩ (habsent a ha)
    · exact hagent
  · simp only [gatewayFor, Handler.traced, hanswer]
    intro hr
    cases hr

/-- A client without a row that is no agent is no machine client. -/
theorem sat_isAgent {m : IdMappingRow} (h : Rowless ops m s) :
    (isAgent m.publicId).run.Sat (gatewayFor κ env).traced (sparingMachines ops i)
      (fun r s => r = .ok false → Foreign ops m s) s := by
  unfold isAgent
  rw [Prog.sat_run_bind, Prog.sat_run_attempt]
  refine Prog.sat_perform.mpr ?_
  rintro s₁ ho ic ⟨-, hallowed⟩
  refine ⟨⟨trivial, fun _ => trivial⟩, ?_⟩
  have hquery : (GatewayOp.agent (.getStatus m.publicId)).IsQuery := trivial
  have hafter := (h.onward ho).onward (onward_query env hquery hallowed)
  rcases gateway_getStatus env ic.2 s₁.1 m.publicId with
    ⟨a, ha, hP, hanswer⟩ | ⟨habsent, hanswer⟩ | ⟨e, -, hanswer⟩
  · simp only [gatewayFor, Handler.traced, hanswer]
    intro hr
    cases hr
  · simp only [gatewayFor, Handler.traced, hanswer] at hafter ⊢
    intro _
    have hid : m.publicId ∉ machineIds ops
        (⟨.agent (.getStatus m.publicId), ic, s₁.1⟩ :: s₁.2) := by
      intro hp
      obtain ⟨a, ha, hap⟩ := hafter.agent hp
      exact habsent a ha hap
    exact ⟨hafter.seen, fun hc => hid (hafter.client hc), hid⟩
  · simp only [gatewayFor, Handler.traced, hanswer]
    intro hr
    cases hr

/-- One client of the backfill. -/
theorem sat_backfillClient (cfg : DcrMaintenance) {t : String} {m : IdMappingRow}
    (h : Listed ops t m s) :
    (backfillClient cfg t m.publicId).run.Sat (gatewayFor κ env).traced (sparingMachines ops i)
      (fun _ _ => True) s := by
  unfold backfillClient
  rw [Prog.sat_run_bind]
  refine (sat_rowExists h).post fun r s hrow => ?_
  rcases r with e | found
  · trivial
  simp only [Prog.sat_run_ite]
  split
  · trivial
  rename_i hfound
  rw [Prog.sat_run_bind]
  refine (sat_isAgent (hrow (by simpa using hfound))).post fun r s hagent => ?_
  rcases r with e | agent
  · trivial
  simp only [Prog.sat_run_ite]
  split
  · trivial
  rename_i hagentless
  refine sat_foreign (hagent (by simpa using hagentless)) ?_
  refine Prog.calls_run_bind (calls_seedTupleless (fun _ => concerns_of_isQuery) rfl) fun _ => ?_
  exact Prog.calls_run_bind (calls_ensureBackfilledRow (fun _ => concerns_of_isQuery) rfl) fun _ =>
    trivial

/-- One registration of the collector. -/
theorem sat_reapRegistration (cfg : DcrMaintenance) {t : String} {m : IdMappingRow}
    (h : Listed ops t m s) :
    (reapRegistration cfg t m).run.Sat (gatewayFor κ env).traced (sparingMachines ops i)
      (fun _ _ => True) s := by
  have hquery : ∀ op : GatewayOp, op.IsQuery → op.IsQuery := fun _ h => h
  unfold reapRegistration
  rw [Prog.sat_run_bind]
  refine (sat_onward (sat_query (Prog.calls_run_attempt (Prog.calls_perform (by exact trivial)))
    s)).post fun r s ho => ?_
  have h := h.onward ho.2
  rcases r with e | now
  · trivial
  simp only [Prog.sat_run_ite]
  split
  · trivial
  rw [Prog.sat_run_bind]
  refine (sat_rowExists h).post fun r s hrow => ?_
  rcases r with e | found
  · trivial
  simp only [Prog.sat_run_ite]
  split
  · trivial
  rename_i hfound
  rw [Prog.sat_run_bind]
  refine (sat_isAgent (hrow (by simpa using hfound))).post fun r s hagent => ?_
  rcases r with e | agent
  · trivial
  simp only [Prog.sat_run_ite]
  split
  · trivial
  rename_i hagentless
  refine sat_foreign (hagent (by simpa using hagentless)) ?_
  refine Prog.calls_run_bind (calls_nowInUse (fun _ => concerns_of_isQuery) _ _) fun used => ?_
  split
  · trivial
  · exact Prog.calls_run_bind (calls_deleteHydraClient rfl) fun _ =>
      Prog.calls_run_bind (calls_deleteClientMapping rfl) fun _ => trivial

/-- A list of clients, each of them listed before. -/
theorem sat_clients {β τ : Type} {t : String} (row : τ → IdMappingRow) {f : β → τ → Prog Gateway β}
    (hf : ∀ b x s, Listed ops t (row x) s →
      (f b x).Sat (gatewayFor κ env).traced (sparingMachines ops i) (fun _ _ => True) s)
    {l : List τ} (hl : ∀ x ∈ l, Listed ops t (row x) s) (b : β) :
    (l.foldlM f b).Sat (gatewayFor κ env).traced (sparingMachines ops i) (fun _ _ => True) s := by
  refine (Prog.sat_foldlM (I := fun _ s => ∀ x ∈ l, Listed ops t (row x) s) ?_ hl).post
    fun _ _ _ => trivial
  intro b x hx s hs
  exact (sat_onward (hf b x s (hs x hx))).post fun _ _ ho y hy => (hs y hy).onward ho.2

variable (env) in
/-- What a pass lists under the condition. -/
theorem listed_of_allowed {t : String} {op : GatewayOp} {ic : κ × Choice} (hop : op.IsQuery)
    (hallowed : MachineAllowed ops op ic s) (hcovered : MachinesCovered ops t s) {m : IdMappingRow}
    (hm : m ∈ s.1.db.mappingRows t .hydra) :
    Listed ops t m ((gatewayFor κ env).traced op ic s).2 := by
  obtain ⟨hm, ht, hb⟩ := Db.mem_mappingRows.mp hm
  obtain ⟨hclient, hcover⟩ := hcovered m hm ht hb
  exact Listed.onward ⟨.inl hm, hclient, hcover⟩ (onward_query env hop hallowed)

/-- The backfill. -/
theorem sat_boot (cfg : DcrMaintenance) (s : World × Traffic κ) :
    (backfillLegacyDcrClients cfg).Sat (gatewayFor κ env).traced (sparingMachines ops i)
      (fun _ _ => True) s := by
  have htenant : ∀ stats tenant (s : World × Traffic κ),
      (backfillTenant cfg stats tenant).Sat (gatewayFor κ env).traced (sparingMachines ops i)
        (fun _ _ => True) s := by
    intro stats tenant s
    unfold backfillTenant
    rw [Prog.sat_bind]
    refine Prog.sat_perform.mpr ?_
    rintro s₁ - ic ⟨-, hallowed⟩
    refine ⟨⟨trivial, fun _ => trivial⟩, ?_⟩
    have hlisted (m : IdMappingRow) (hm : m ∈ s₁.1.db.mappingRows tenant.id .hydra) :=
      listed_of_allowed env (by exact trivial) hallowed hallowed hm
    rcases hids : (gateway env (.mapping (.listPublicIds tenant.id .hydra)) ic.2 s₁.1).1 with e | ids
    · simp only [gatewayFor, Handler.traced, hids]
      exact trivial
    · have hrows := gateway_listPublicIds_ok env ic.2 s₁.1 hids
      subst hrows
      simp only [gatewayFor, Handler.traced, hids, List.foldlM_map] at hlisted ⊢
      refine sat_clients id (fun stats m s h => ?_) hlisted stats
      exact Prog.sat_map.mpr (sat_backfillClient cfg h)
  unfold backfillLegacyDcrClients
  rw [Prog.sat_bind]
  refine (sat_query (Prog.calls_perform (by exact trivial)) s).post fun r s _ => ?_
  rcases r with e | tenants
  · trivial
  · exact Prog.sat_foldlM (I := fun _ _ => True) (fun stats tenant _ s _ => htenant stats tenant s)
      trivial

/-- The collector. -/
theorem sat_collect (cfg : DcrMaintenance) (s : World × Traffic κ) :
    (reapUnusedRegistrations cfg).Sat (gatewayFor κ env).traced (sparingMachines ops i)
      (fun _ _ => True) s := by
  have htenant : ∀ stats tenant (s : World × Traffic κ),
      (reapTenant cfg stats tenant).Sat (gatewayFor κ env).traced (sparingMachines ops i)
        (fun _ _ => True) s := by
    intro stats tenant s
    unfold reapTenant
    rw [Prog.sat_bind]
    refine Prog.sat_perform.mpr ?_
    rintro s₁ - ic ⟨-, hallowed⟩
    refine ⟨⟨trivial, fun _ => trivial⟩, ?_⟩
    have hlisted (m : IdMappingRow) (hm : m ∈ s₁.1.db.mappingRows tenant.id .hydra) :=
      listed_of_allowed env (by exact trivial) hallowed hallowed hm
    rcases hrows : (gateway env (.mapping (.listMappings tenant.id .hydra)) ic.2 s₁.1).1 with e | rows
    · simp only [gatewayFor, Handler.traced, hrows]
      exact trivial
    · have hread := gateway_listMappings_ok env ic.2 s₁.1 hrows
      subst hread
      simp only [gatewayFor, Handler.traced, hrows] at hlisted ⊢
      refine sat_clients id (fun stats m s h => ?_) hlisted stats
      exact Prog.sat_map.mpr (sat_reapRegistration cfg h)
  unfold reapUnusedRegistrations
  rw [Prog.sat_ite]
  split
  · trivial
  · rw [Prog.sat_bind]
    refine (sat_query (Prog.calls_perform (by exact trivial)) s).post fun r s _ => ?_
    rcases r with e | tenants
    · trivial
    · exact Prog.sat_foldlM (I := fun _ _ => True) (fun stats tenant _ s _ => htenant stats tenant s)
        trivial

end pass

/-! ## The other operations -/

section forward

theorem onlyAdds_registerClient (t : String) (payload : String → Value) :
    (registerClient t payload).run.Calls OnlyAdds := by
  refine Prog.calls_run_bind (Prog.calls_run_attempt (Prog.calls_perform trivial)) fun p => ?_
  refine Prog.calls_run_bind (Prog.calls_run_orThrow (Prog.calls_perform trivial)) fun created => ?_
  refine Prog.calls_run_bind trivial fun oryId => ?_
  exact Prog.calls_run_bind (Prog.calls_run_orThrow (Prog.calls_perform trivial)) fun _ => trivial

theorem onlyAdds_createClientCredential (ctx : RequestContext)
    (req : CreateClientCredentialRequest) :
    (createClientCredential ctx req).run.Calls OnlyAdds := by
  refine Prog.calls_run_bind trivial fun r => ?_
  exact Prog.calls_run_bind (onlyAdds_registerClient _ _) fun _ => trivial

theorem onlyAdds_createApplication (lib : Libraries) (cfg : ApplicationConfig) (ctx : RequestContext)
    (req : CreateApplicationRequest) :
    (createApplication lib cfg ctx req).run.Calls OnlyAdds := by
  refine Prog.calls_run_bind trivial fun t => ?_
  refine Prog.calls_run_bind (onlyAdds_registerClient _ _) fun r => ?_
  refine Prog.calls_run_bind (Prog.calls_run_orThrow (Prog.calls_perform trivial)) fun _ => ?_
  exact Prog.calls_run_bind (Prog.calls_run_orThrow (Prog.calls_perform trivial)) fun _ => trivial

/-- Also where it takes back what it has written. -/
theorem onlyAdds_createAgent (ctx : RequestContext) (req : CreateAgentRequest) :
    (createAgent ctx req).run.Calls OnlyAdds := by
  have hclient : ∀ t agent payload, (createAgentClient t agent payload).run.Calls OnlyAdds := by
    intro t agent payload
    refine Prog.calls_run_bind (Prog.calls_run_attempt (Prog.calls_perform trivial)) fun r => ?_
    split
    · exact trivial
    · exact Prog.calls_run_bind (Prog.calls_run_attempt (Prog.calls_perform trivial)) fun _ => trivial
  have hmap : ∀ t agent oryId, (mapAgent t agent oryId).run.Calls OnlyAdds := by
    intro t agent oryId
    refine Prog.calls_run_bind (Prog.calls_run_attempt (Prog.calls_perform trivial)) fun r => ?_
    split
    · exact trivial
    · refine Prog.calls_run_bind (Prog.calls_run_attempt (Prog.calls_perform trivial)) fun _ => ?_
      exact Prog.calls_run_bind (Prog.calls_run_attempt (Prog.calls_perform trivial)) fun _ => trivial
  refine Prog.calls_run_bind trivial fun t => ?_
  refine Prog.calls_run_bind (Prog.calls_run_orThrow (Prog.calls_perform trivial)) fun agent => ?_
  refine Prog.calls_run_bind (hclient _ _ _) fun created => ?_
  exact Prog.calls_run_bind (hmap _ _ _) fun _ => trivial

variable {κ : Type} {ops : κ → ClientOperation} {env : Env}

/-- Every operation keeps its contract. -/
theorem sat_operation (i : κ) (s : World × Traffic κ) :
    (ops i).prog.Sat (gatewayFor κ env).traced (sparingMachines ops i) (fun _ _ => True) s := by
  rcases hi : ops i with ⟨ctx, req⟩ | ⟨lib, cfg, ctx, req⟩ | ⟨ctx, req⟩ | ⟨lib, st, auth, body⟩ | cfg | cfg
  · refine sat_forward (by rw [hi]; exact id) ?_ s
    exact Prog.calls_map (onlyAdds_createClientCredential ctx req)
  · refine sat_forward (by rw [hi]; exact id) ?_ s
    exact Prog.calls_map (onlyAdds_createApplication lib cfg ctx req)
  · refine sat_forward (by rw [hi]; exact id) ?_ s
    exact Prog.calls_map (onlyAdds_createAgent ctx req)
  · refine sat_forward (by rw [hi]; exact id) ?_ s
    exact Prog.calls_map (calls_register (fun _ => onlyAdds_of_isLookup) (fun _ => trivial)
      (fun _ _ => trivial) lib)
  · exact Prog.sat_map.mpr (sat_boot cfg s)
  · exact Prog.sat_map.mpr (sat_collect cfg s)

end forward

/-! ## Every schedule -/

/-- **Maintenance spares machine clients.** Along every schedule of any number of operations, from
any world and under any faults: if every call meets the condition, then no call of a boot or of a
collector pass deletes the Hydra client or the mapping of a client created by an admin call, or gives
it a row or default tuples. -/
theorem maintenance_spares_machines {κ : Type} [DecidableEq κ] (env : Env)
    (ops : κ → ClientOperation) (w : World) (sched : List (κ × Choice))
    (hallowed : ∀ ev ∈ remembered [] ((deployment ops w).events (gatewayFor κ env) sched),
      MachineAllowed ops ev.op ev.choice ev.before) :
    ∀ ev ∈ remembered [] ((deployment ops w).events (gatewayFor κ env) sched),
      (ops ev.choice.1).Maintains → SparesMachines ops ev.op ev.before := by
  obtain ⟨-, hevents⟩ := Pool.run_remember (gatewayFor κ env) (deployment ops w) sched []
  rw [← hevents] at hallowed ⊢
  have hsat := (Pool.sat_run (K := sparingMachines ops) (Q := fun _ _ _ => True)
    (P := (deployment ops w).remember []) (h := (gatewayFor κ env).traced)
    (fun i s => Onward.refl s) (fun i s₁ s₂ s₃ => Onward.trans) (fun _ _ _ _ _ _ => trivial)
    (fun i j _ op c s hassume hguar => onward_step env hassume.2 hguar.1) sched
    (fun i => sat_operation i _) fun ev hev => ⟨rfl, hallowed ev hev⟩).2
  exact fun ev hev => (hsat ev hev).2

/-- An admin of acme may create clients of all kinds. -/
def acmeClientAdmin : RequestContext :=
  ⟨some "acme", some ⟨"acme", "root", .user, [scopeApplicationAdmin, scopeAgentAdmin]⟩⟩

/-- An agent of acme, and a boot or a pass with a TTL of an hour. -/
def agentOf (maintenance : ClientOperation) : Bool → ClientOperation
  | false => .createAgent acmeClientAdmin ⟨"runner", ["openid"]⟩
  | true => maintenance

/-- A client credential of acme, and a boot or a pass. -/
def credentialOf (maintenance : ClientOperation) : Bool → ClientOperation
  | false => .createClientCredential acmeClientAdmin ⟨"robot", ["openid"], ""⟩
  | true => maintenance

/-- The admin call, and then `n` calls of the maintenance, a day later. -/
def creationThen (n : ℕ) : List (Bool × Choice) :=
  List.replicate 6 (false, Choice.plain "client" 0) ++
    List.replicate n (true, Choice.plain "later" 86400)

/-- An agent is not collected. -/
theorem maintenance_spares_agent :
    (∀ ev ∈ remembered [] ((deployment (agentOf (.collect ⟨["everyone"], 3600⟩))
        (World.empty [⟨"acme"⟩])).events (gatewayFor Bool Env.firstRow) (creationThen 9)),
      MachineAllowed (agentOf (.collect ⟨["everyone"], 3600⟩)) ev.op ev.choice ev.before) ∧
    ∀ ev ∈ remembered [] ((deployment (agentOf (.collect ⟨["everyone"], 3600⟩))
        (World.empty [⟨"acme"⟩])).events (gatewayFor Bool Env.firstRow) (creationThen 9)),
      (agentOf (.collect ⟨["everyone"], 3600⟩) ev.choice.1).Maintains →
        SparesMachines (agentOf (.collect ⟨["everyone"], 3600⟩)) ev.op ev.before := by
  constructor
  · decide
  · exact maintenance_spares_machines Env.firstRow _ _ _ (by decide)

/-- A boot gives a client credential a row marked `dcr` and the default groups; the collector deletes
one that no boot has seen, at Hydra and in `id_mappings`. -/
theorem credential_taken_for_registration :
    let booted := (deployment (credentialOf (.boot ⟨["everyone"], 3600⟩))
      (World.empty [⟨"acme"⟩])).run (gatewayFor Bool Env.firstRow) (creationThen 9)
    let collected := (deployment (credentialOf (.collect ⟨["everyone"], 3600⟩))
      (World.empty [⟨"acme"⟩])).run (gatewayFor Bool Env.firstRow) (creationThen 9)
    let created := (deployment (credentialOf (.collect ⟨["everyone"], 3600⟩))
      (World.empty [⟨"acme"⟩])).run (gatewayFor Bool Env.firstRow) (creationThen 0)
    (∃ ev ∈ remembered [] ((deployment (credentialOf (.boot ⟨["everyone"], 3600⟩))
        (World.empty [⟨"acme"⟩])).events (gatewayFor Bool Env.firstRow) (creationThen 9)),
      (credentialOf (.boot ⟨["everyone"], 3600⟩) ev.choice.1).Maintains ∧
        ¬ SparesMachines (credentialOf (.boot ⟨["everyone"], 3600⟩)) ev.op ev.before) ∧
    booted.world.db.applications = [⟨"acme", "client", false, .dcr⟩] ∧
    booted.world.tuples.map (fun x => (x.tenantId, x.key.object)) =
      [("acme", "client"), ("acme", "client")] ∧
    created.world.hydra.clients.map (·.1) = ["client"] ∧
    created.world.db.idMappings.map (·.publicId) = ["client"] ∧
    collected.world.hydra.clients.map (·.1) = [] ∧ collected.world.db.idMappings = [] := by
  decide

end SsoGateway
