import SsoGateway.AgentLifecycle
import SsoGateway.IdentityCreation

/-!
# The creation of a client

An application, or a client credential, is created at Hydra first; then it is mapped; an application gets a
row and its entitlements too. No step takes back what the ones before it have made.

* `SameClientParts` — the clients, mappings, rows and tuples of two worlds are the same.
* `FailsAfterClient` — a step after the creation at Hydra reports an error.
* `ClientCreatedCleanly` — no such step has failed, and the creation at Hydra not with an effect.
* `client_creation_all_or_nothing` — an error leaves nothing, just if the steps of the run are such.
* `application_leaves_client` — a seeding that fails.

Source: `services/application.rs` `create_application`; `services/client_credential.rs`
`create_client_credential`.
-/

namespace SsoGateway

open Lib

/-- The clients at Hydra, the mappings, the rows of the applications and the entitlements. -/
structure SameClientParts (w w' : World) : Prop where
  clients : w'.hydra.clients = w.hydra.clients
  mappings : w'.db.idMappings = w.db.idMappings
  applications : w'.db.applications = w.db.applications
  tuples : w'.tuples = w.tuples

/-- The creation at Hydra reports an error. -/
def FailsAtClient : (op : GatewayOp) → op.Res → Prop
  | .hydra (.createOauth2Client _), r => ∃ e, r = .error e
  | _, _ => False

/-- A later step reports an error: the mapping, the row or the entitlements. -/
def FailsAfterClient : (op : GatewayOp) → op.Res → Prop
  | .mapping (.create _ _ _ _), r => ∃ e, r = .error e
  | .application (.create _ _ _ _), r => ∃ e, r = .error e
  | .entitlement (.seedApplication _ _ _), r => ∃ e, r = .error e
  | _, _ => False

/-- No later step has failed, and the first one, where it has failed, has changed nothing. -/
structure ClientCreatedCleanly (env : Env) (tr : History) : Prop where
  later : ∀ ev ∈ tr, ¬ FailsAfterClient ev.op (ev.res (gateway env))
  first : ∀ ev ∈ tr, FailsAtClient ev.op (ev.res (gateway env)) →
    SameClientParts ev.before (ev.after (gateway env))

/-- There is one client more at Hydra, and no step has failed. -/
structure ClientMade (env : Env) (w : World) (s : World × History) : Prop where
  client : ∃ kv, s.1.hydra.clients = kv :: w.hydra.clients
  unfailing : ∀ ev ∈ s.2, ¬ FailsAtClient ev.op (ev.res (gateway env)) ∧
    ¬ FailsAfterClient ev.op (ev.res (gateway env))

section creation

variable {env : Env} {w : World} {s : World × History} {op : GatewayOp} {c : Choice}

theorem ClientMade.cleanly (hs : ClientMade env w s) : ClientCreatedCleanly env s.2 where
  later ev hev := (hs.unfailing ev hev).2
  first ev hev hfails := absurd hfails (hs.unfailing ev hev).1

/-- A step that fails leaves the client. -/
theorem ClientMade.failed (hs : ClientMade env w s)
    (hhydra : (gateway env op c s.1).2.hydra.clients = s.1.hydra.clients)
    (hfails : FailsAfterClient op (gateway env op c s.1).1) :
    ¬ SameClientParts w (gateway env op c s.1).2 ∧ ¬ ClientCreatedCleanly env (⟨op, c, s.1⟩ :: s.2) := by
  obtain ⟨kv, hkv⟩ := hs.client
  constructor
  · intro hsame
    exact ne_cons_self (hhydra.trans hkv) hsame.clients
  · intro hcleanly
    exact hcleanly.later _ List.mem_cons_self hfails

/-- A step that succeeds leaves it as well. -/
theorem ClientMade.next (hs : ClientMade env w s)
    (hhydra : (gateway env op c s.1).2.hydra.clients = s.1.hydra.clients)
    (hfirst : ¬ FailsAtClient op (gateway env op c s.1).1)
    (hlater : ¬ FailsAfterClient op (gateway env op c s.1).1) :
    ClientMade env w ((gateway env op c s.1).2, ⟨op, c, s.1⟩ :: s.2) := by
  obtain ⟨kv, hkv⟩ := hs.client
  exact ⟨⟨kv, hhydra.trans hkv⟩, List.forall_mem_cons.mpr ⟨⟨hfirst, hlater⟩, hs.unfailing⟩⟩

/-- What a finished creation says about itself. -/
def LeavesNoClient (env : Env) (w : World) {α : Type} (r : Except ServiceError α) (s : World × History) :
    Prop :=
  (∀ e, r = .error e → SameClientParts w s.1) ↔ ClientCreatedCleanly env s.2

theorem leavesNoClient_ok {α : Type} {a : α} (hs : ClientMade env w s) :
    LeavesNoClient env w (.ok a : Except ServiceError α) s :=
  iff_of_true (fun e he => by cases he) hs.cleanly

theorem leavesNoClient_error {α : Type} {e : ServiceError} :
    LeavesNoClient env w (.error e : Except ServiceError α) s ↔
      (SameClientParts w s.1 ↔ ClientCreatedCleanly env s.2) := by
  unfold LeavesNoClient
  simp

theorem leavesNoClient_failed {α : Type} {e : ServiceError}
    (h : ¬ SameClientParts w s.1 ∧ ¬ ClientCreatedCleanly env s.2) :
    LeavesNoClient env w (.error e : Except ServiceError α) s :=
  leavesNoClient_error.mpr (iff_of_false h.1 h.2)

theorem leavesNoClient_start {α : Type} {e : ServiceError} :
    LeavesNoClient env w (.error e : Except ServiceError α) (w, []) :=
  iff_of_true (fun _ _ => ⟨rfl, rfl, rfl, rfl⟩)
    ⟨fun ev hev => absurd hev List.not_mem_nil, fun ev hev => absurd hev List.not_mem_nil⟩

/-- The id in Hydra's answer can be read. -/
theorem created_has_clientId {fields : List (String × Value)} (c : Choice) :
    (((newClient (.obj fields) c).insert "client_secret" c.doc).index "client_id").asStr =
      some (newClientId (.obj fields) c) := by
  have hne : "client_id" ≠ "client_secret" := by decide
  rw [Value.index, Value.get_insert_of_ne hne]
  simp only [newClient, Value.insert, Value.get_obj, Value.lookup_upsert_self]
  rfl

/-- A step after the creation: where it fails, the client is left, and where it succeeds, the rest follows. -/
theorem sat_afterClient {α β ε : Type} (op : GatewayOp) (view : op.Res → Except ε α)
    {g : ε → ServiceError} {rest : α → Service β} (hs : ClientMade env w s)
    (hfirst : ∀ r, ¬ FailsAtClient op r) (hlater : ∀ r, FailsAfterClient op r ↔ ∃ e, view r = .error e)
    (hhydra : ∀ c w, (gateway env op c w).2.hydra.clients = w.hydra.clients)
    (hrest : ∀ a s', ClientMade env w s' →
      (rest a).run.Sat (gateway env).traced remembering (LeavesNoClient env w) s') :
    ((Prog.orThrow g (view <$> Prog.perform (S := Gateway) op) : Service α) >>= rest).run.Sat
      (gateway env).traced remembering (LeavesNoClient env w) s := by
  refine Prog.sat_run_bind.mpr (Prog.sat_run_orThrow.mpr (Prog.sat_map.mpr
    (sat_remembering_perform.mpr fun c => ?_)))
  cases hview : view (gateway env op c s.1).1 with
  | error e => exact leavesNoClient_failed (hs.failed (hhydra c s.1) ((hlater _).mpr ⟨e, hview⟩))
  | ok a =>
      refine hrest a _ (hs.next (hhydra c s.1) (hfirst _) ?_)
      rw [hlater]
      rintro ⟨e, he⟩
      exact absurd (hview.symm.trans he) (by simp)

/-- The client at Hydra, its mapping, and the rest. -/
def clientAndMapping {β : Type} (tenantId publicId : String) (payload : Value)
    (rest : String × Value → Service β) : Service β := do
  let created ← Prog.orThrow mapOryError (callHydra (.createOauth2Client payload))
  let oryId ← check (match (created.index "client_id").asStr with
    | some id => .ok id
    | none => .error (.internal "hydra response missing client_id"))
  let _ ← Prog.orThrow ServiceError.ofDbError (IdMappingStore.create tenantId .hydra publicId oryId)
  rest (publicId, created)

/-- Where Hydra fails, all is as it was unless that call has had an effect. -/
theorem sat_clientAndMapping (t p : String) {fields : List (String × Value)} {β : Type}
    {rest : String × Value → Service β} {tr : History}
    (htr : ∀ ev ∈ tr, ¬ FailsAtClient ev.op (ev.res (gateway env)) ∧
      ¬ FailsAfterClient ev.op (ev.res (gateway env)))
    (hrest : ∀ x s', ClientMade env w s' →
      (rest x).run.Sat (gateway env).traced remembering (LeavesNoClient env w) s') :
    (clientAndMapping t p (.obj fields) rest).run.Sat (gateway env).traced remembering
      (LeavesNoClient env w) (w, tr) := by
  refine Prog.sat_run_bind.mpr (Prog.sat_run_orThrow.mpr (sat_remembering_perform.mpr fun c => ?_))
  cases hclient : (gateway env (.hydra (.createOauth2Client (.obj fields))) c w).1 with
  | error e =>
      refine leavesNoClient_error.mpr ⟨fun hsame => ⟨?_, ?_⟩, fun hcleanly => ?_⟩
      · exact List.forall_mem_cons.mpr ⟨fun h => h.elim, fun ev hev => (htr ev hev).2⟩
      · refine List.forall_mem_cons.mpr ⟨fun _ => hsame, fun ev hev hfails => ?_⟩
        exact absurd hfails (htr ev hev).1
      · exact hcleanly.first _ List.mem_cons_self ⟨e, hclient⟩
  | ok created =>
      obtain ⟨-, rfl, hclients⟩ := gateway_createOauth2Client_ok hclient
      have hmade : ClientMade env w ((gateway env (.hydra (.createOauth2Client (.obj fields))) c w).2,
          ⟨.hydra (.createOauth2Client (.obj fields)), c, w⟩ :: tr) := by
        refine ⟨⟨_, hclients⟩, List.forall_mem_cons.mpr ⟨⟨?_, fun h => h.elim⟩, htr⟩⟩
        rintro ⟨e, he⟩
        exact absurd (hclient.symm.trans he) (by simp)
      refine Prog.sat_run_bind.mpr ?_
      rw [created_has_clientId]
      exact sat_afterClient (.mapping (.create t .hydra p _)) id hmade (fun r h => h) (fun r => Iff.rfl)
        (fun c w => rfl) fun row s' hs' => hrest _ s' hs'

/-- A client is created and mapped, and the rest follows. -/
theorem sat_registerClient (t : String) {payload : String → Value} {β : Type}
    {rest : String × Value → Service β} (hpayload : ∀ p, ∃ fields, payload p = .obj fields)
    (hrest : ∀ x s', ClientMade env w s' →
      (rest x).run.Sat (gateway env).traced remembering (LeavesNoClient env w) s') :
    (registerClient t payload >>= rest).run.Sat (gateway env).traced remembering
      (LeavesNoClient env w) (w, []) := by
  have hregister : registerClient t payload >>= rest =
      Prog.attempt newUlid >>= fun p => clientAndMapping t p (payload p) rest := by
    unfold registerClient clientAndMapping
    simp only [bind_assoc, pure_bind] <;> rfl
  rw [hregister]
  refine Prog.sat_run_bind.mpr (Prog.sat_run_attempt.mpr (sat_remembering_perform.mpr fun c => ?_))
  obtain ⟨fields, hfields⟩ := hpayload c.ulid
  have hclient : (clientAndMapping t c.ulid (payload c.ulid) rest).run.Sat (gateway env).traced remembering
      (LeavesNoClient env w) (w, [⟨.newUlid, c, w⟩]) := by
    rw [hfields]
    exact sat_clientAndMapping t c.ulid (by simp [FailsAtClient, FailsAfterClient]) hrest
  exact hclient

theorem sat_createApplication_leaves (lib : Libraries) (cfg : ApplicationConfig) (ctx : RequestContext)
    (req : CreateApplicationRequest) :
    (createApplication lib cfg ctx req).run.Sat (gateway env).traced remembering (LeavesNoClient env w)
      (w, []) := by
  refine Prog.sat_run_bind.mpr ?_
  cases req.validate lib cfg ctx with
  | error e => exact leavesNoClient_start
  | ok t =>
      refine sat_registerClient t (fun p => ⟨_, rfl⟩) fun x s hs => ?_
      refine sat_afterClient (.application (.create t x.1 req.crossTenant .admin)) id hs (fun r h => h)
        (fun r => Iff.rfl) (fun c w => rfl) fun row s' hs' => ?_
      exact sat_afterClient (.entitlement (.seedApplication t x.1 cfg.defaultEntitlementGroups)) id hs'
        (fun r h => h) (fun r => Iff.rfl) (fun c w => rfl) fun _ s'' hs'' => leavesNoClient_ok hs''

theorem sat_createClientCredential_leaves (ctx : RequestContext) (req : CreateClientCredentialRequest) :
    (createClientCredential ctx req).run.Sat (gateway env).traced remembering (LeavesNoClient env w)
      (w, []) := by
  refine Prog.sat_run_bind.mpr ?_
  cases req.validate ctx with
  | error e => exact leavesNoClient_start
  | ok x => exact sat_registerClient x.1 (fun p => ⟨_, rfl⟩) fun y s hs => leavesNoClient_ok hs

/-- A creation that meets its specification leaves nothing, just if its steps are clean. -/
theorem leavesNoClient_run {α : Type} {p : Service α}
    (hp : p.run.Sat (gateway env).traced remembering (LeavesNoClient env w) (w, [])) (o : ℕ → Choice) :
    (∀ e, (p.run.run (gateway env) o w).1 = .error e → SameClientParts w (p.run.run (gateway env) o w).2) ↔
      ClientCreatedCleanly env (p.run.events (gateway env) o w) := by
  refine (run_of_remembering hp o).trans ⟨fun h => ⟨?_, ?_⟩, fun h => ⟨?_, ?_⟩⟩
  · exact fun ev hev => h.later ev (List.mem_reverse.mpr hev)
  · exact fun ev hev => h.first ev (List.mem_reverse.mpr hev)
  · exact fun ev hev => h.later ev (List.mem_reverse.mp hev)
  · exact fun ev hev => h.first ev (List.mem_reverse.mp hev)

end creation

/-! ## The calls -/

/-- An error leaves nothing. -/
def NothingLeft {α : Type} (w : World) (r : Except ServiceError α × World) : Prop :=
  ∀ e, r.1 = .error e → SameClientParts w r.2

/-- **The creation of a client is all or nothing** just if no step after the creation at Hydra fails, and
that one does not fail with an effect. -/
theorem client_creation_all_or_nothing (env : Env) (w : World) (o : ℕ → Choice) (ctx : RequestContext) :
    (∀ (lib : Libraries) (cfg : ApplicationConfig) (req : CreateApplicationRequest),
      NothingLeft w ((createApplication lib cfg ctx req).run.run (gateway env) o w) ↔
        ClientCreatedCleanly env ((createApplication lib cfg ctx req).run.events (gateway env) o w)) ∧
    ∀ req : CreateClientCredentialRequest,
      NothingLeft w ((createClientCredential ctx req).run.run (gateway env) o w) ↔
        ClientCreatedCleanly env ((createClientCredential ctx req).run.events (gateway env) o w) :=
  ⟨fun lib cfg req => leavesNoClient_run (sat_createApplication_leaves lib cfg ctx req) o,
    fun req => leavesNoClient_run (sat_createClientCredential_leaves ctx req) o⟩

/-! ## A seeding that fails -/

/-- The last step, the seeding, fails. -/
def seedingLost (n : ℕ) : Choice :=
  { Choice.plain "01" 0 with fault := fun _ => if n = 4 then some ⟨false, .http "lost"⟩ else none }

/-- The application `wiki` is created, but its entitlements are not. -/
def wikiHalfCreated : Except ServiceError Application × World :=
  (createApplication ⟨fun _ => .error "", fun _ => none, fun _ => none, fun _ => ""⟩
    ⟨"system", [], false⟩ ⟨some "acme", some ⟨"acme", "root", .user, [scopeApplicationAdmin]⟩⟩
    ⟨"wiki", [], [], [], [], "client_secret_basic", false, false⟩).run.run
    (gateway .firstRow) seedingLost (World.empty [⟨"acme"⟩])

/-- The call fails, and the client, its mapping and its row are there. -/
theorem application_leaves_client :
    wikiHalfCreated.1 = .error (.internal "entitlement backend error: backend unavailable: lost") ∧
      wikiHalfCreated.2.hydra.clients.map (·.1) = ["01"] ∧
      wikiHalfCreated.2.db.idMappings = [⟨"acme", .hydra, "01", "01", 0⟩] ∧
      wikiHalfCreated.2.db.applications = [⟨"acme", "01", false, .admin⟩] ∧
      ¬ NothingLeft (World.empty [⟨"acme"⟩]) wikiHalfCreated := by
  refine ⟨rfl, rfl, rfl, rfl, fun h => ?_⟩
  have hsame := (h _ rfl).mappings
  cases hsame

end SsoGateway
