import SsoGateway.Lib.History
import SsoGateway.MappingWriters
import SsoGateway.Resolution

/-!
# One row for each object of a backend

The tenant of a token and the public id of its subject are found by two separate queries on
`id_mappings`, each of which takes one of the rows of the backend id. They speak of the same row as
long as there is only one. The table keeps the id unique within a tenant only; across tenants it is
up to the operations.

* `MappingStep`, `mappingCalls`, `mappingStates` — runs of the operations, from an empty table.
* `ReturnsFresh` — what is assumed of Hydra and Kratos: the id of a created object is new.
* `AttachAllowed` — the condition: an operation that maps an object it did not create itself does so
  while no other tenant has a row for it.
* `backend_ids_sole` — under it every object has at most one row, in every state.
* `backend_id_shared` — an identity created in one tenant, then a consent in another.
-/

namespace SsoGateway

open Lib

/-! ## Runs -/

/-- A step of a run: an operation, with the choices for its calls, or anything else that inserts no
row (logins, changes at Hydra and Kratos, new tenants, the deletions of the admin services). -/
inductive MappingStep where
  | operation (writer : MappingWriter) (choices : ℕ → Choice)
  | elsewhere (change : World → World)
      (hchange : ∀ w, (change w).db.idMappings ⊆ w.db.idMappings)

/-- The calls of a step. -/
def MappingStep.calls (env : Env) (w : World) : MappingStep → List (Event Gateway Choice World)
  | .operation writer choices => writer.prog.events (gateway env) choices w
  | .elsewhere _ _ => []

/-- The world after a step. -/
def MappingStep.after (env : Env) (w : World) : MappingStep → World
  | .operation writer choices => (writer.prog.run (gateway env) choices w).2
  | .elsewhere change _ => change w

/-- The calls of a run, each with the calls its operation made before it. -/
def mappingCalls (env : Env) : List MappingStep → World →
    List (Event Gateway Choice (World × History))
  | [], _ => []
  | step :: steps, w =>
      remembered [] (step.calls env w) ++ mappingCalls env steps (step.after env w)

/-- The states of a run: at every call, and after every step. -/
def mappingStates (env : Env) : List MappingStep → World → List World
  | [], w => [w]
  | step :: steps, w =>
      w :: (step.calls env w).map (·.before) ++ mappingStates env steps (step.after env w)

/-! ## Rows of an object -/

/-- The object has no row. -/
def Unmapped (b : Backend) (o : String) (w : World) : Prop :=
  ∀ m ∈ w.db.idMappings, ¬ (m.backend = b ∧ m.oryGlobalId = o)

instance (b : Backend) (o : String) (w : World) : Decidable (Unmapped b o w) :=
  inferInstanceAs (Decidable (∀ m ∈ w.db.idMappings, _))

/-- No object has two rows. -/
def SoleRows (w : World) : Prop :=
  ∀ m ∈ w.db.idMappings, ∀ m' ∈ w.db.idMappings,
    m.backend = m'.backend → m.oryGlobalId = m'.oryGlobalId → m = m'

instance (w : World) : Decidable (SoleRows w) :=
  inferInstanceAs (Decidable (∀ m ∈ w.db.idMappings, _))

/-- The two queries by backend id answer from one and the same row, or both find none. -/
def LookupsAgree (env : Env) (w : World) : Prop :=
  ∀ b o, ∃ row : Option IdMappingRow, (∀ m ∈ row, m ∈ w.db.rowsOf b o) ∧
    ∀ c : Choice, c.fault 0 = none →
      (gateway env (.mapping (.getTenantIdByOryId b o)) c w).1 = .ok (row.map (·.tenantId)) ∧
      (gateway env (.mapping (.getPublicIdByOryId b o)) c w).1 =
        orNotFound .mappingNotFound (·.publicId) row

/-- With at most one row for each object, the queries agree. -/
theorem SoleRows.lookupsAgree {w : World} (h : SoleRows w) (env : Env) : LookupsAgree env w := by
  intro b o
  have hpick : env.pick .publicIdByOryId (w.db.rowsOf b o) =
      env.pick .tenantIdByOryId (w.db.rowsOf b o) := by
    rcases hp : env.pick .publicIdByOryId (w.db.rowsOf b o) with _ | m
    · rw [Env.pick_eq_none] at hp
      rw [hp]
      exact (Env.pick_eq_none.mpr rfl).symm
    · rcases ht : env.pick .tenantIdByOryId (w.db.rowsOf b o) with _ | m'
      · rw [Env.pick_eq_none.mp ht] at hp
        rw [Env.pick_eq_none.mpr rfl] at hp
        cases hp
      · obtain ⟨hm, hb, ho⟩ := Db.mem_rowsOf.mp (Env.mem_of_pick hp)
        obtain ⟨hm', hb', ho'⟩ := Db.mem_rowsOf.mp (Env.mem_of_pick ht)
        rw [h m hm m' hm' (hb.trans hb'.symm) (ho.trans ho'.symm)]
  refine ⟨env.pick .tenantIdByOryId (w.db.rowsOf b o), fun m hm => Env.mem_of_pick hm, ?_⟩
  intro c hc
  constructor
  · simp [gateway, mappingHandler, Db.read, hc]
  · simp [gateway, mappingHandler, Db.read, hc, hpick]

/-! ## What is assumed, and the condition -/

/-- The id a backend returned for an object it created. -/
def createdId : (op : GatewayOp) → op.Res → Option (Backend × String)
  | .hydra (.createOauth2Client _), .ok created =>
      (created.index "client_id").asStr.map fun id => (.hydra, id)
  | .kratos (.createIdentity _), .ok created =>
      (created.index "id").asStr.map fun id => (.kratos, id)
  | _, _ => none

/-- An id returned by a creation has no row yet. -/
def ReturnsFresh (env : Env) (op : GatewayOp) (c : Choice) (w : World) : Prop :=
  ∀ id ∈ createdId op (gateway env op c w).1, Unmapped id.1 id.2 w

instance (env : Env) (op : GatewayOp) (c : Choice) (w : World) :
    Decidable (ReturnsFresh env op c w) :=
  inferInstanceAs (Decidable (∀ id ∈ createdId op (gateway env op c w).1, _))

/-- The object was created by one of the calls. -/
def CreatedBy (env : Env) (past : History) (b : Backend) (o : String) : Prop :=
  ∃ ev ∈ past, createdId ev.op (ev.res (gateway env)) = some (b, o)

instance (env : Env) (past : History) (b : Backend) (o : String) :
    Decidable (CreatedBy env past b o) :=
  inferInstanceAs (Decidable (∃ ev ∈ past, _))

/-- The condition on an insertion: unless the operation created the object itself, no tenant but the
one it is mapped in has a row for it. -/
def AttachAllowed (env : Env) (op : GatewayOp) (s : World × History) : Prop :=
  match op with
  | .mapping (.create t b _ o) => ¬ CreatedBy env s.2 b o →
      ∀ m ∈ s.1.db.idMappings, m.backend = b → m.oryGlobalId = o → m.tenantId = t
  | _ => True

instance (env : Env) (op : GatewayOp) (s : World × History) : Decidable (AttachAllowed env op s) := by
  unfold AttachAllowed
  split
  · exact inferInstance
  · exact inferInstance

/-! ## One call -/

/-- A call that inserts no row leaves rows of the same objects only, and no second one of any. -/
theorem mappings_step (env : Env) {op : GatewayOp} (hop : ¬ op.InsertsMapping) (c : Choice)
    (w : World) : ∃ f : IdMappingRow → IdMappingRow,
      (∀ m, (f m).backend = m.backend ∧ (f m).oryGlobalId = m.oryGlobalId) ∧
        ∀ m ∈ (gateway env op c w).2.db.idMappings, ∃ m' ∈ w.db.idMappings, m = f m' := by
  have hsame : ∀ {db' : Db}, db'.idMappings ⊆ w.db.idMappings → ∃ f : IdMappingRow → IdMappingRow,
      (∀ m, (f m).backend = m.backend ∧ (f m).oryGlobalId = m.oryGlobalId) ∧
        ∀ m ∈ db'.idMappings, ∃ m' ∈ w.db.idMappings, m = f m' := by
    intro db' hsub
    exact ⟨id, fun _ => ⟨rfl, rfl⟩, fun m hm => ⟨m, hsub hm, rfl⟩⟩
  have hstep := gateway_step env c w op
  generalize (gateway env op c w).2 = w' at hstep ⊢
  cases hstep with
  | insertMapping hop' _ =>
      subst hop'
      exact absurd trivial hop
  | @updateTenant b p t _ _ hdb =>
      refine ⟨Db.rehome b p t, fun m => ?_, fun m hm => ?_⟩
      · unfold Db.rehome
        split <;> exact ⟨rfl, rfl⟩
      · rw [(Db.updateTenant_ok hdb).2.1] at hm
        obtain ⟨m', hm', rfl⟩ := List.mem_map.mp hm
        exact ⟨m', hm', rfl⟩
  | deleteMapping _ hdb =>
      refine hsame ?_
      rw [(Db.deleteMapping_ok hdb).2.1]
      exact List.filter_sublist.subset
  | insertApplication _ hdb =>
      refine hsame ?_
      rw [(Db.insertApplication_ok hdb).2.1]
      exact List.Subset.refl _
  | deleteApplication _ hdb =>
      refine hsame ?_
      rw [(Db.deleteApplication_ok hdb).2.1]
      exact List.Subset.refl _
  | insertAgent _ hdb =>
      refine hsame ?_
      rw [(Db.insertAgent_ok hdb).2.1]
      exact List.Subset.refl _
  | deleteAgent _ hdb =>
      refine hsame ?_
      rw [(Db.deleteAgent_ok hdb).2.1]
      exact List.Subset.refl _
  | _ => exact hsame (List.Subset.refl _)

/-- Only an insertion gives an object a row. -/
theorem unmapped_step (env : Env) {op : GatewayOp} (hop : ¬ op.InsertsMapping) {b : Backend}
    {o : String} {w : World} (hw : Unmapped b o w) (c : Choice) :
    Unmapped b o (gateway env op c w).2 := by
  obtain ⟨f, hf, hrows⟩ := mappings_step env hop c w
  rintro m hm ⟨hb, ho⟩
  obtain ⟨m', hm', rfl⟩ := hrows m hm
  rw [(hf m').1] at hb
  rw [(hf m').2] at ho
  exact hw m' hm' ⟨hb, ho⟩

/-- Only an insertion gives an object a second row. -/
theorem soleRows_step (env : Env) {op : GatewayOp} (hop : ¬ op.InsertsMapping) {w : World}
    (hw : SoleRows w) (c : Choice) : SoleRows (gateway env op c w).2 := by
  obtain ⟨f, hf, hrows⟩ := mappings_step env hop c w
  intro m₁ hm₁ m₂ hm₂ hb ho
  obtain ⟨m₁', hm₁', rfl⟩ := hrows m₁ hm₁
  obtain ⟨m₂', hm₂', rfl⟩ := hrows m₂ hm₂
  rw [(hf m₁').1, (hf m₂').1] at hb
  rw [(hf m₁').2, (hf m₂').2] at ho
  rw [hw m₁' hm₁' m₂' hm₂' hb ho]

/-- An insertion that meets rows of its own tenant only is refused if there is one. -/
theorem soleRows_insert (env : Env) {t p o : String} {b : Backend} {w : World} (hw : SoleRows w)
    (hrows : ∀ m ∈ w.db.idMappings, m.backend = b → m.oryGlobalId = o → m.tenantId = t)
    (c : Choice) : SoleRows (gateway env (.mapping (.create t b p o)) c w).2 := by
  have hstep := gateway_step env c w (.mapping (.create t b p o))
  generalize (gateway env (.mapping (.create t b p o)) c w).2 = w' at hstep ⊢
  cases hstep with
  | same => exact hw
  | insertMapping hop' hdb =>
      cases hop'
      obtain ⟨hmappings, -, -, -, hfree, -⟩ := Db.insertMapping_ok hdb
      -- a row of the object would be in the same tenant, and conflict
      have hnew : ∀ m ∈ w.db.idMappings, ¬ (m.backend = b ∧ m.oryGlobalId = o) := by
        rintro m hm ⟨hb, ho⟩
        exact hfree m hm (.inr ⟨(hrows m hm hb ho).symm, hb.symm, ho.symm⟩)
      intro m₁ hm₁ m₂ hm₂ hb ho
      rw [hmappings] at hm₁ hm₂
      rcases List.mem_cons.mp hm₁ with rfl | hm₁
      · rcases List.mem_cons.mp hm₂ with rfl | hm₂
        · rfl
        · exact absurd ⟨hb.symm, ho.symm⟩ (hnew m₂ hm₂)
      · rcases List.mem_cons.mp hm₂ with rfl | hm₂
        · exact absurd ⟨hb, ho⟩ (hnew m₁ hm₁)
        · exact hw m₁ hm₁ m₂ hm₂ hb ho
  | deleteMapping hop' _ | updateTenant hop' _ | insertApplication hop' _
  | deleteApplication hop' _ | insertAgent hop' _ | deleteAgent hop' _ | tuples hop' _ => cases hop'
  | directory hop' | hydra hop' | kratos hop' => cases hop'

/-! ## One operation -/

/-- The invariant of an operation: no object has two rows; and until the operation has inserted its
row, the objects it created have none. -/
structure SoleSoFar (env : Env) (s : World × History) : Prop where
  sole : SoleRows s.1
  created : (∃ ev ∈ s.2, GatewayOp.InsertsMapping ev.op) ∨
    ∀ b o, CreatedBy env s.2 b o → Unmapped b o s.1

/-- The objects created up to and including a call. -/
theorem createdBy_cons {env : Env} {ev : Event Gateway Choice World} {past : History} {b : Backend}
    {o : String} : CreatedBy env (ev :: past) b o ↔
      createdId ev.op (ev.res (gateway env)) = some (b, o) ∨ CreatedBy env past b o := by
  unfold CreatedBy
  simp

/-- **One call** of an operation keeps the invariant. -/
theorem soleSoFar_step (env : Env) {op : GatewayOp} {c : Choice} {s : World × History}
    (hfresh : ReturnsFresh env op c s.1) (hattach : AttachAllowed env op s)
    (honce : op.InsertsMapping → ∀ ev ∈ s.2, ¬ GatewayOp.InsertsMapping ev.op)
    (hs : SoleSoFar env s) : SoleSoFar env ((gateway env).traced op c s).2 := by
  by_cases hop : op.InsertsMapping
  · -- the row: its object was created by the operation and has no row, or was checked to have none
    have hunmapped : ∀ b o, CreatedBy env s.2 b o → Unmapped b o s.1 := by
      rcases hs.created with ⟨ev, hev, hinserts⟩ | h
      · exact absurd hinserts (honce hop ev hev)
      · exact h
    refine ⟨?_, .inl ⟨⟨op, c, s.1⟩, List.mem_cons_self, hop⟩⟩
    unfold GatewayOp.InsertsMapping at hop
    split at hop
    · rename_i t b p o
      refine soleRows_insert env hs.sole (fun m hm hb ho => ?_) c
      by_cases hcreated : CreatedBy env s.2 b o
      · exact absurd ⟨hb, ho⟩ (hunmapped b o hcreated m hm)
      · exact hattach hcreated m hm hb ho
    · exact hop.elim
  · refine ⟨soleRows_step env hop hs.sole c, ?_⟩
    rcases hs.created with ⟨ev, hev, hinserts⟩ | hunmapped
    · exact .inl ⟨ev, List.mem_cons_of_mem _ hev, hinserts⟩
    · refine .inr fun b o hcreated => unmapped_step env hop ?_ c
      rcases createdBy_cons.mp hcreated with hnew | hcreated
      · exact hfresh (b, o) hnew
      · exact hunmapped b o hcreated

/-- **One operation** keeps objects to one row, at each of its calls and at its end. -/
theorem soleRows_operation (env : Env) (writer : MappingWriter) (choices : ℕ → Choice) {w : World}
    (hw : SoleRows w)
    (hfresh : ∀ ev ∈ remembered [] (writer.prog.events (gateway env) choices w),
      ReturnsFresh env ev.op ev.choice ev.before.1)
    (hattach : ∀ ev ∈ remembered [] (writer.prog.events (gateway env) choices w),
      AttachAllowed env ev.op ev.before) :
    (∀ ev ∈ writer.prog.events (gateway env) choices w, SoleRows ev.before) ∧
      SoleRows (writer.prog.run (gateway env) choices w).2 := by
  have hstart : SoleSoFar env (w, []) := by
    refine ⟨hw, .inr fun b o hcreated => ?_⟩
    obtain ⟨ev, hev, -⟩ := hcreated
    exact absurd hev List.not_mem_nil
  have hchain := Prog.chained_events (gateway env).traced writer.prog choices (w, [])
  rw [Prog.events_traced] at hchain
  obtain ⟨hend, hbefore⟩ := hchain.invariant (I := SoleSoFar env) hstart fun ev hev hs => by
    refine soleSoFar_step env (hfresh ev hev) (hattach ev hev) (fun hop => ?_) hs
    obtain ⟨pre, e, post, hsplit, rfl⟩ := mem_remembered.mp hev
    intro e' he'
    exact (once_prog writer).not_of_mem_events hsplit hop e' (by simpa using he')
  constructor
  · intro ev hev
    obtain ⟨pre, post, hsplit⟩ := List.append_of_mem hev
    exact (hbefore _ (mem_remembered.mpr ⟨pre, ev, post, hsplit, rfl⟩)).sole
  · rw [Prog.run_traced] at hend
    exact hend.sole

/-! ## Whole runs -/

/-- **One row for each object of a backend.** From an empty table, along any sequence of the
operations that write `id_mappings`, with anything in between and under any faults: if the ids that
Hydra and Kratos return are new, and no operation maps an object it did not create while another
tenant has a row for it, then in every state no object has two rows, and the tenant and the public
id of an object are read from the same row. -/
theorem backend_ids_sole (env : Env) (steps : List MappingStep) (w : World)
    (hempty : w.db.idMappings = [])
    (hfresh : ∀ ev ∈ mappingCalls env steps w, ReturnsFresh env ev.op ev.choice ev.before.1)
    (hattach : ∀ ev ∈ mappingCalls env steps w, AttachAllowed env ev.op ev.before) :
    ∀ v ∈ mappingStates env steps w, SoleRows v ∧ LookupsAgree env v := by
  suffices hsole : ∀ v ∈ mappingStates env steps w, SoleRows v from
    fun v hv => ⟨hsole v hv, (hsole v hv).lookupsAgree env⟩
  have hw : SoleRows w := by
    intro m hm
    rw [hempty] at hm
    exact absurd hm List.not_mem_nil
  clear hempty
  induction steps generalizing w with
  | nil =>
      intro v hv
      rw [List.mem_singleton.mp hv]
      exact hw
  | cons step steps ih =>
      have hstep : (∀ ev ∈ step.calls env w, SoleRows ev.before) ∧ SoleRows (step.after env w) := by
        cases step with
        | operation writer choices =>
            exact soleRows_operation env writer choices hw
              (fun ev hev => hfresh ev (List.mem_append_left _ hev))
              fun ev hev => hattach ev (List.mem_append_left _ hev)
        | elsewhere change hchange =>
            refine ⟨fun ev hev => absurd hev List.not_mem_nil, fun m hm m' hm' => ?_⟩
            exact hw m (hchange w hm) m' (hchange w hm')
      have hrest := ih (step.after env w) (fun ev hev => hfresh ev (List.mem_append_right _ hev))
        (fun ev hev => hattach ev (List.mem_append_right _ hev)) hstep.2
      intro v hv
      rcases List.mem_append.mp hv with hv | hv
      · rcases List.mem_cons.mp hv with rfl | hv
        · exact hw
        · obtain ⟨ev, hev, rfl⟩ := List.mem_map.mp hv
          exact hstep.1 ev hev
      · exact hrest v hv

/-! ## A run with two rows -/

/-- An admin of a tenant. -/
def tenantAdmin (tenantId : String) : RequestContext :=
  ⟨some tenantId, some ⟨tenantId, "root", .user, ["tenant:admin", "identity:admin"]⟩⟩

/-- Two tenants without mappings; the first has a default schema. -/
def twoTenants : World :=
  { World.empty [⟨"acme"⟩, ⟨"globex"⟩] with
    directory := { Directory.empty with schemas := [⟨"acme", "default", 1, .obj [], true⟩] } }

/-- Choices under which nothing fails, ULIDs are numbered, and Kratos assigns the given id. -/
def numbered (start : ℕ) (oryId : String) (n : ℕ) : Choice :=
  { Choice.plain (toString (start + n)) 0 with assigned := some oryId }

/-- An identity is created in one tenant, a client asks for its consent, and an admin of a tenant
accepts. -/
def aliceConsents (tenantId : String) : List MappingStep :=
  [.operation (.createIdentity ⟨"default", fun _ => .ok fun _ => .ok ()⟩ (tenantAdmin "acme")
      ⟨"", some (.ok (.obj [("email", .str "alice@example.com")])), ""⟩) (numbered 0 "ory-alice"),
    .elsewhere (fun w => { w with hydra := ⟨[], [("challenge", .obj [("subject", .str "ory-alice"),
      ("requested_scope", .arr [.str "openid"])])], []⟩ }) fun _ => List.Subset.refl _,
    .operation (.acceptConsent ⟨[]⟩ (tenantAdmin tenantId)
      ⟨"challenge", ["openid"], [], false, 0, none⟩) (numbered 100 "")]

/-- An environment in which the two queries yield different rows where there are two. -/
def otherRow : Env := ⟨fun q _ => if q = .publicIdByOryId then 1 else 0, 5, false⟩

/-- Accepted in the identity's own tenant, the consent finds its row. -/
theorem backend_ids_sole_home :
    (∃ v ∈ mappingStates otherRow (aliceConsents "acme") twoTenants,
      v.db.idMappings.map (fun m => (m.tenantId, m.oryGlobalId)) = [("acme", "ory-alice")]) ∧
    ∀ v ∈ mappingStates otherRow (aliceConsents "acme") twoTenants,
      SoleRows v ∧ LookupsAgree otherRow v :=
  ⟨by decide, backend_ids_sole otherRow (aliceConsents "acme") twoTenants rfl (by decide) (by decide)⟩

/-- Accepted in another tenant, it adds a second row: the identity's tenant is read from one and its
public id from the other. -/
theorem backend_id_shared :
    twoTenants.db.idMappings = [] ∧
    (∀ ev ∈ mappingCalls otherRow (aliceConsents "globex") twoTenants,
      ReturnsFresh otherRow ev.op ev.choice ev.before.1) ∧
    ∃ v ∈ mappingStates otherRow (aliceConsents "globex") twoTenants, ¬ SoleRows v ∧
      v.db.idMappings.map (fun m => (m.tenantId, m.publicId)) = [("globex", "104"), ("acme", "2")] ∧
      (gateway otherRow (.mapping (.getTenantIdByOryId .kratos "ory-alice"))
        (numbered 0 "" 0) v).1.toOption = some (some "globex") ∧
      (gateway otherRow (.mapping (.getPublicIdByOryId .kratos "ory-alice"))
        (numbered 0 "" 0) v).1.toOption = some "2" := by
  decide

end SsoGateway
