import SsoGateway.ClientEntitlement
import SsoGateway.Steps

/-!
# Histories of calls, and the resolution of a client

Runs of the gateway's services with the calls they made, and what the shared resolution answers in
such a run.

* `remembering` — the contract of a run that only remembers its calls.
* `World.Linked`, `World.PublicIdOf` — mappings that a run without deletions keeps.
* `World.resolve` — what `resolveClientEntitlement` finds in a world, as a function;
  `sat_resolveClientEntitlement` says that the program answers it unless a lookup fails.
-/

namespace SsoGateway

open Lib

/-- The calls of a run. -/
abbrev History := List (Event Gateway Choice World)

/-! ## Mappings that stay -/

/-- Some tenant maps the backend id `oryId` to the public id `publicId`. -/
def World.Linked (w : World) (backend : Backend) (publicId oryId : String) : Prop :=
  ∃ m ∈ w.db.idMappings, m.backend = backend ∧ m.publicId = publicId ∧ m.oryGlobalId = oryId

/-- Only a deleted mapping loses its public id. -/
theorem World.Linked.gateway {w : World} {b : Backend} {p i : String} (h : w.Linked b p i)
    {op : GatewayOp} (hop : ∀ t b p, op ≠ .mapping (.delete t b p)) (env : Env) (c : Choice) :
    (gateway env op c w).2.Linked b p i := by
  obtain ⟨m, hm, hb, hp, hi⟩ := h
  have hstep := gateway_step env c w op
  generalize (SsoGateway.gateway env op c w).2 = w' at hstep ⊢
  cases hstep with
  | insertMapping _ hdb =>
      obtain ⟨hrows, -⟩ := Db.insertMapping_ok hdb
      exact ⟨m, by rw [hrows]; exact List.mem_cons_of_mem _ hm, hb, hp, hi⟩
  | deleteMapping hop' => exact absurd hop' (hop _ _ _)
  | @updateTenant b' p' t' _ _ hdb =>
      obtain ⟨-, hrows, -⟩ := Db.updateTenant_ok hdb
      refine ⟨Db.rehome b' p' t' m, by rw [hrows]; exact List.mem_map_of_mem hm, ?_⟩
      unfold Db.rehome
      split <;> exact ⟨hb, hp, hi⟩
  | insertApplication _ hdb =>
      obtain ⟨-, hrows, -⟩ := Db.insertApplication_ok hdb
      exact ⟨m, by rw [hrows]; exact hm, hb, hp, hi⟩
  | deleteApplication _ hdb =>
      obtain ⟨-, hrows, -⟩ := Db.deleteApplication_ok hdb
      exact ⟨m, by rw [hrows]; exact hm, hb, hp, hi⟩
  | insertAgent _ hdb =>
      obtain ⟨-, hrows, -⟩ := Db.insertAgent_ok hdb
      exact ⟨m, by rw [hrows]; exact hm, hb, hp, hi⟩
  | deleteAgent _ hdb =>
      obtain ⟨-, hrows, -⟩ := Db.deleteAgent_ok hdb
      exact ⟨m, by rw [hrows]; exact hm, hb, hp, hi⟩
  | _ => exact ⟨m, hm, hb, hp, hi⟩

/-- The public id the gateway uses for a backend id: a mapped one, or nothing for nothing. -/
def World.PublicIdOf (w : World) (backend : Backend) (oryId publicId : String) : Prop :=
  (oryId = "" ∧ publicId = "") ∨ w.Linked backend publicId oryId

theorem World.PublicIdOf.gateway {w : World} {b : Backend} {i p : String}
    (h : w.PublicIdOf b i p) {op : GatewayOp} (hop : ∀ t b p, op ≠ .mapping (.delete t b p))
    (env : Env) (c : Choice) : (gateway env op c w).2.PublicIdOf b i p :=
  h.imp id fun hlink => hlink.gateway hop env c

/-! ## Runs with their history -/

/-- A call of the history met a fault. -/
def Faulted (tr : History) : Prop := ∃ ev ∈ tr, ¬ ev.choice.FaultFree

theorem Faulted.cons {tr : History} {ev : Event Gateway Choice World} (h : Faulted tr) :
    Faulted (ev :: tr) := by
  obtain ⟨ev', hmem, hfault⟩ := h
  exact ⟨ev', List.mem_cons_of_mem _ hmem, hfault⟩

theorem faulted_of_isSome {op : GatewayOp} {c : Choice} {w : World} {tr : History} {n : ℕ}
    (h : (c.fault n).isSome = true) : Faulted (⟨op, c, w⟩ :: tr) := by
  refine ⟨_, List.mem_cons_self, fun hfree => ?_⟩
  have hnone : c.fault n = none := hfree n
  rw [hnone] at h
  cases h

/-- A run that remembers its calls, with nothing assumed and nothing promised. -/
def remembering : Contract Gateway Choice (World × History) :=
  Contract.alone (fun _ _ _ => True) fun _ _ _ => True

section remembering

variable {env : Env} {s : World × History}

theorem sat_remembering_perform {op : GatewayOp} {Q : op.Res → World × History → Prop} :
    (Prog.perform (S := Gateway) op).Sat (gateway env).traced remembering Q s ↔
      ∀ c, Q (gateway env op c s.1).1 ((gateway env op c s.1).2, ⟨op, c, s.1⟩ :: s.2) := by
  constructor
  · intro h c
    exact (h s rfl c trivial).2
  · rintro h s rfl c -
    exact ⟨trivial, h c⟩

/-- What every call of a program keeps, next to what the program yields. -/
theorem sat_remembering_frame {α : Type} {p : Prog Gateway α} {P : GatewayOp → Prop}
    {Q : α → World × History → Prop} {I : World × History → Prop}
    (hp : p.Sat (gateway env).traced remembering Q s) (hcalls : p.Calls P)
    (hstep : ∀ op c s, P op → I s → I ((gateway env op c s.1).2, ⟨op, c, s.1⟩ :: s.2))
    (hs : I s) : p.Sat (gateway env).traced remembering (fun a s' => Q a s' ∧ I s') s :=
  hp.frame hcalls (fun _ _ hI hrely => hrely ▸ hI) (fun op c s hop hI _ => hstep op c s hop hI) hs

theorem sat_remembering_true {α : Type} (p : Prog Gateway α) :
    p.Sat (gateway env).traced remembering (fun _ _ => True) s := by
  induction p generalizing s with
  | pure a => trivial
  | call op k ih => exact fun s _ c _ => ⟨trivial, ih _⟩

/-- A specification with history, read on a run from its beginning. -/
theorem run_of_remembering {α : Type} {p : Prog Gateway α} {Q : α → World × History → Prop}
    {w : World} (hp : p.Sat (gateway env).traced remembering Q (w, [])) (o : ℕ → Choice) :
    Q (p.run (gateway env) o w).1
      ((p.run (gateway env) o w).2, (p.events (gateway env) o w).reverse) := by
  have h : Q (p.run (gateway env).traced o (w, [])).1 (p.run (gateway env).traced o (w, [])).2 :=
    hp.run_of_choices fun _ _ _ => trivial
  rw [Prog.run_traced, List.append_nil] at h
  exact h

/-- A run under choices without faults has none in its history. -/
theorem not_faulted_events {α : Type} (env : Env) (p : Prog Gateway α) {o : ℕ → Choice}
    (ho : ∀ n, (o n).FaultFree) (w : World) :
    ¬ Faulted (p.events (gateway env) o w).reverse := by
  rintro ⟨ev, hmem, hfault⟩
  obtain ⟨n, hn⟩ := Prog.choice_of_mem_events (List.mem_reverse.mp hmem)
  exact hfault (hn ▸ ho n)

end remembering

/-! ## The resolution of a client -/

/-- What `classifyOwned` finds. -/
def World.classify (w : World) (tenantId ownerTenant publicId : String) : ClientEntitlement :=
  match w.db.findApplication publicId with
  | some row =>
      if row.tenantId = tenantId then .localClient publicId row.registrationSource
      else .crossTenantOwned publicId row.tenantId row.crossTenant
  | none => .provisional publicId ownerTenant

/-- What `resolveClientEntitlement` finds. -/
def World.resolve (env : Env) (w : World) (tenantId cid : String) : ClientEntitlement :=
  match w.db.findMapping tenantId .hydra cid with
  | some m => w.classify tenantId tenantId m.publicId
  | none =>
      match env.pick .tenantIdByOryId (w.db.rowsOf .hydra cid) with
      | none => .unmapped
      | some owner =>
          match env.pick .publicIdByOryId (w.db.rowsOf .hydra cid) with
          | none => .unmapped
          | some m => w.classify tenantId owner.tenantId m.publicId

/-- The lookups of a client: of its mapping and of its row. -/
def GatewayOp.IsClientLookup : GatewayOp → Prop
  | .mapping (.getPublicId _ .hydra _) => True
  | .mapping (.getTenantIdByOryId .hydra _) => True
  | .mapping (.getPublicIdByOryId .hydra _) => True
  | .application (.getByPublicId _) => True
  | _ => False

/-- A lookup of a client failed. -/
def LookupFailed (tr : History) : Prop :=
  ∃ ev ∈ tr, ev.op.IsClientLookup ∧ (ev.choice.fault 0).isSome = true

theorem LookupFailed.cons {tr : History} {ev : Event Gateway Choice World}
    (h : LookupFailed tr) : LookupFailed (ev :: tr) := by
  obtain ⟨ev', hmem, hop⟩ := h
  exact ⟨ev', List.mem_cons_of_mem _ hmem, hop⟩

theorem LookupFailed.faulted {tr : History} (h : LookupFailed tr) : Faulted tr := by
  obtain ⟨ev, hmem, -, hfault⟩ := h
  refine ⟨ev, hmem, fun hfree => ?_⟩
  rw [hfree 0] at hfault
  cases hfault

/-- What the resolution may answer in a world. -/
def Resolves (res : ClientEntitlement) (w : World) (r : Except DbError ClientEntitlement)
    (s : World × History) : Prop :=
  s.1 = w ∧ (r = .ok res ∨ (∃ e, r = .error e) ∧ LookupFailed s.2)

section resolution

variable {env : Env}

theorem sat_classifyOwned (tenantId owner pid : String) (s : World × History) :
    (classifyOwned tenantId owner pid).Sat (gateway env).traced remembering
      (Resolves (s.1.classify tenantId owner pid) s.1) s := by
  unfold classifyOwned
  rw [Prog.sat_bind]
  refine sat_remembering_perform.mpr fun c => ?_
  simp only [gateway, applicationHandler]
  rcases s.1.db.read_cases c (orNotFound .applicationNotFound id (s.1.db.findApplication pid)) with
    h | ⟨e, hfault, h⟩
  · rw [h]
    unfold World.classify
    rcases s.1.db.findApplication pid with _ | row
    · exact ⟨rfl, .inl rfl⟩
    · simp only [orNotFound, id, Prog.sat_ite]
      by_cases hrow : row.tenantId = tenantId
      · simp only [hrow, if_true]
        exact ⟨rfl, .inl rfl⟩
      · simp only [hrow, if_false]
        exact ⟨rfl, .inl rfl⟩
  · rw [h]
    exact ⟨rfl, .inr ⟨⟨_, rfl⟩, _, List.mem_cons_self, trivial, hfault⟩⟩

/-- The resolution answers what it finds, or fails with a lookup. -/
theorem sat_resolveClientEntitlement (tenantId cid : String) (s : World × History) :
    (resolveClientEntitlement tenantId cid).Sat (gateway env).traced remembering
      (Resolves (s.1.resolve env tenantId cid) s.1) s := by
  unfold resolveClientEntitlement World.resolve
  rw [Prog.sat_bind]
  refine sat_remembering_perform.mpr fun c => ?_
  simp only [gateway, mappingHandler]
  rcases s.1.db.read_cases c (orNotFound .mappingNotFound (·.publicId)
    (s.1.db.findMapping tenantId .hydra cid)) with h | ⟨e, hfault, h⟩
  · rw [h]
    rcases s.1.db.findMapping tenantId .hydra cid with _ | m
    · -- not the tenant's own: whose is it?
      simp only [orNotFound, Prog.sat_bind]
      refine sat_remembering_perform.mpr fun c => ?_
      simp only [gateway, mappingHandler]
      rcases s.1.db.read_cases c (.ok ((env.pick .tenantIdByOryId (s.1.db.rowsOf .hydra cid)).map
        (·.tenantId))) with h | ⟨e, hfault, h⟩
      · rw [h]
        rcases env.pick .tenantIdByOryId (s.1.db.rowsOf .hydra cid) with _ | owner
        · exact ⟨rfl, .inl rfl⟩
        · simp only [Option.map_some, Prog.sat_bind]
          refine sat_remembering_perform.mpr fun c => ?_
          simp only [gateway, mappingHandler]
          rcases s.1.db.read_cases c (orNotFound .mappingNotFound (·.publicId)
            (env.pick .publicIdByOryId (s.1.db.rowsOf .hydra cid))) with h | ⟨e, hfault, h⟩
          · rw [h]
            rcases env.pick .publicIdByOryId (s.1.db.rowsOf .hydra cid) with _ | m
            · exact ⟨rfl, .inl rfl⟩
            · exact sat_classifyOwned tenantId owner.tenantId m.publicId _
          · rw [h]
            exact ⟨rfl, .inr ⟨⟨_, rfl⟩, _, List.mem_cons_self, trivial, hfault⟩⟩
      · rw [h]
        exact ⟨rfl, .inr ⟨⟨_, rfl⟩, _, List.mem_cons_self, trivial, hfault⟩⟩
    · exact sat_classifyOwned tenantId tenantId m.publicId _
  · rw [h]
    exact ⟨rfl, .inr ⟨⟨_, rfl⟩, _, List.mem_cons_self, trivial, hfault⟩⟩

end resolution

/-- What a resolution says about the tables. -/
inductive Resolved (w : World) (tenantId cid : String) : ClientEntitlement → Prop where
  | unmapped (h : ∀ m ∈ w.db.idMappings, m.backend = .hydra → m.oryGlobalId ≠ cid) :
      Resolved w tenantId cid .unmapped
  | localClient {m : IdMappingRow} {row : ApplicationRow} (hm : m ∈ w.db.idMappings)
      (hb : m.backend = .hydra) (hi : m.oryGlobalId = cid) (hrow : row ∈ w.db.applications)
      (hp : row.publicId = m.publicId) (ht : row.tenantId = tenantId) :
      Resolved w tenantId cid (.localClient m.publicId row.registrationSource)
  | crossTenantOwned {m : IdMappingRow} {row : ApplicationRow} (hm : m ∈ w.db.idMappings)
      (hb : m.backend = .hydra) (hi : m.oryGlobalId = cid) (hrow : row ∈ w.db.applications)
      (hp : row.publicId = m.publicId) (ht : row.tenantId ≠ tenantId) :
      Resolved w tenantId cid (.crossTenantOwned m.publicId row.tenantId row.crossTenant)
  /-- A client of another tenant is one the tenant itself has no mapping of. -/
  | provisional {m : IdMappingRow} {owner : String} (hm : m ∈ w.db.idMappings)
      (hb : m.backend = .hydra) (hi : m.oryGlobalId = cid)
      (hfree : ∀ row ∈ w.db.applications, row.publicId ≠ m.publicId)
      (howner : (owner = tenantId ∧ m.tenantId = tenantId) ∨ (owner ≠ tenantId ∧
        ∀ m' ∈ w.db.idMappings, ¬ (m'.tenantId = tenantId ∧ m'.backend = .hydra ∧
          m'.oryGlobalId = cid))) :
      Resolved w tenantId cid (.provisional m.publicId owner)

/-- The resolution is right about the tables. -/
theorem World.resolved (env : Env) (w : World) (tenantId cid : String) :
    Resolved w tenantId cid (w.resolve env tenantId cid) := by
  have hclassify : ∀ (m : IdMappingRow) (owner : String), m ∈ w.db.idMappings →
      m.backend = .hydra → m.oryGlobalId = cid →
      ((owner = tenantId ∧ m.tenantId = tenantId) ∨ (owner ≠ tenantId ∧
        ∀ m' ∈ w.db.idMappings, ¬ (m'.tenantId = tenantId ∧ m'.backend = .hydra ∧
          m'.oryGlobalId = cid))) →
      Resolved w tenantId cid (w.classify tenantId owner m.publicId) := by
    intro m owner hm hb hi howner
    unfold World.classify
    rcases hrow : w.db.findApplication m.publicId with _ | row
    · refine .provisional hm hb hi (fun row hmem hp => ?_) howner
      have hnone := List.find?_eq_none.mp hrow row hmem
      simp only [decide_eq_true_eq] at hnone
      exact hnone hp
    · have hp := List.find?_some hrow
      simp only [decide_eq_true_eq] at hp
      have hmem := List.mem_of_find?_eq_some hrow
      by_cases ht : row.tenantId = tenantId
      · simp only [ht, if_true]
        exact .localClient hm hb hi hmem hp ht
      · simp only [ht, if_false]
        exact .crossTenantOwned hm hb hi hmem hp ht
  unfold World.resolve
  rcases hown : w.db.findMapping tenantId .hydra cid with _ | m
  · have hnone : ∀ m ∈ w.db.idMappings, ¬ (m.tenantId = tenantId ∧ m.backend = .hydra ∧
        m.oryGlobalId = cid) := by
      intro m hm hmatch
      have := List.find?_eq_none.mp hown m hm
      simp only [decide_eq_true_eq] at this
      exact this hmatch
    have hunmapped : w.db.rowsOf .hydra cid = [] → Resolved w tenantId cid .unmapped := by
      intro hrows
      refine .unmapped fun m hm hb hi => ?_
      exact List.not_mem_nil (hrows ▸ Db.mem_rowsOf.mpr ⟨hm, hb, hi⟩)
    rcases howner : env.pick .tenantIdByOryId (w.db.rowsOf .hydra cid) with _ | owner
    · exact hunmapped (Env.pick_eq_none.mp howner)
    · rcases hm : env.pick .publicIdByOryId (w.db.rowsOf .hydra cid) with _ | m
      · exact hunmapped (Env.pick_eq_none.mp hm)
      · obtain ⟨hmem, hb, hi⟩ := Db.mem_rowsOf.mp (Env.mem_of_pick hm)
        obtain ⟨hmem', hb', hi'⟩ := Db.mem_rowsOf.mp (Env.mem_of_pick howner)
        exact hclassify m owner.tenantId hmem hb hi
          (.inr ⟨fun ht => hnone owner hmem' ⟨ht, hb', hi'⟩, hnone⟩)
  · have hmatch := List.find?_some hown
    simp only [decide_eq_true_eq] at hmatch
    exact hclassify m tenantId (List.mem_of_find?_eq_some hown) hmatch.2.1 hmatch.2.2
      (.inl ⟨rfl, hmatch.1⟩)

/-- The public id of a resolved client is one of its mappings'. -/
theorem World.linked_of_resolve {env : Env} {w : World} {tenantId cid p : String}
    (h : (w.resolve env tenantId cid).publicId = some p) : w.Linked .hydra p cid := by
  have hres := w.resolved env tenantId cid
  generalize w.resolve env tenantId cid = res at h hres
  cases hres with
  | unmapped => cases h
  | localClient hm hb hi | crossTenantOwned hm hb hi | provisional hm hb hi =>
      cases h
      exact ⟨_, hm, hb, rfl, hi⟩

end SsoGateway
