import SsoGateway.Steps
import SsoGateway.SystemPrivilege
import SsoGateway.Lib.Straight

/-!
# Changing an application

Hydra replaces the document of a client as a whole, so `update_application` fetches it first and builds
the new one from the two. The flag is a row of another table, and written before the calls to Hydra.

* `UpdateApplicationRequest.Sets` — the fields of the document the request gives a value.
* `payload_agrees_iff` — the new document has the other fields of the stored one, just if that has no
  field but the eight of the API, and each of those.
* `UpdatesOnlyAsked` — what a run must leave alone; `update_application_frame` says when it does.
* `update_application_drops` — a document with one more field, and a flag that a failed call leaves set.

Source: `services/application.rs` `update_application`, `build_hydra_update_payload`.
-/

namespace SsoGateway

open Lib

/-! ## The document -/

namespace UpdateApplicationRequest

/-- The request gives the field of the document a value: its own field is not the empty one. -/
def Sets (req : UpdateApplicationRequest) (key : String) : Prop :=
  (key = "client_name" ∧ req.name ≠ "") ∨
    (key = "redirect_uris" ∧ req.redirectUris ≠ []) ∨
    (key = "grant_types" ∧ req.grantTypes ≠ []) ∨
    (key = "response_types" ∧ req.responseTypes ≠ []) ∨
    (key = "scope" ∧ joinSpace req.scope ≠ "") ∨
    (key = "token_endpoint_auth_method" ∧ req.tokenEndpointAuthMethod ≠ "") ∨
    (key = "skip_consent" ∧ req.skipConsent ≠ none)

/-- The fields of every document that is sent. -/
def sentKeys : List String :=
  ["client_id", "client_name", "redirect_uris", "grant_types", "response_types", "scope",
    "token_endpoint_auth_method", "skip_consent"]

/-- The stored document has no field but those that are sent, and has those the request leaves alone. -/
structure KeepsFields (req : UpdateApplicationRequest) (oryId : String) (stored : Value) : Prop where
  clientId : stored.get "client_id" = some (.str oryId)
  name : req.name = "" → (stored.get "client_name").isSome
  redirectUris : req.redirectUris = [] → (stored.get "redirect_uris").isSome
  grantTypes : req.grantTypes = [] → (stored.get "grant_types").isSome
  responseTypes : req.responseTypes = [] → (stored.get "response_types").isSome
  scope : joinSpace req.scope = "" → (stored.get "scope").isSome
  authMethod : req.tokenEndpointAuthMethod = "" → (stored.get "token_endpoint_auth_method").isSome
  skipConsent : req.skipConsent = none → ∃ b, stored.get "skip_consent" = some (.bool b)
  others : ∀ key, key ∉ sentKeys → stored.get key = none

section payload

variable {req : UpdateApplicationRequest} {oryId : String} {stored : Value}

/-- No other field is sent. -/
theorem get_payload_of_not_mem {key : String} (hkey : key ∉ sentKeys) :
    (req.payload oryId stored).get key = none := by
  refine List.lookup_eq_none_iff.mpr fun field hfield => bne_iff_ne.mpr ?_
  rintro rfl
  apply hkey
  show field.1 ∈ sentKeys
  have hmem := List.mem_map_of_mem (f := Prod.fst) hfield
  simpa [sentKeys] using hmem

/-- A field that is read and sent again is the same just if it is there. -/
theorem index_eq_get {key : String} : some (stored.index key) = stored.get key ↔ (stored.get key).isSome := by
  unfold Value.index
  cases stored.get key with
  | none => simp
  | some v => simp

theorem stringOrCurrent_eq_get {new key : String} (hnew : new = "") :
    some (stringOrCurrent new (stored.index key)) = stored.get key ↔ (stored.get key).isSome := by
  unfold stringOrCurrent
  rw [if_pos hnew]
  exact index_eq_get

theorem listOrCurrent_eq_get {new : List String} {key : String} (hnew : new = []) :
    some (listOrCurrent new (stored.index key)) = stored.get key ↔ (stored.get key).isSome := by
  unfold listOrCurrent
  rw [if_pos hnew]
  exact index_eq_get

/-- A flag that is read and sent again is the same just if it is a Boolean. -/
theorem asBool_eq_get {key : String} :
    some (.bool ((stored.index key).asBool = some true)) = stored.get key ↔
      ∃ b, stored.get key = some (.bool b) := by
  unfold Value.index
  constructor
  · intro h
    exact ⟨_, h.symm⟩
  · rintro ⟨b, hb⟩
    cases b <;> simp [hb, Value.asBool]

/-- **The new document agrees with the stored one** on what the request leaves alone. -/
theorem payload_agrees_iff :
    (∀ key, ¬ req.Sets key → (req.payload oryId stored).get key = stored.get key) ↔
      req.KeepsFields oryId stored := by
  constructor
  · intro h
    refine ⟨(h _ (by simp [Sets])).symm, fun hunset => ?_, fun hunset => ?_, fun hunset => ?_,
      fun hunset => ?_, fun hunset => ?_, fun hunset => ?_, fun hunset => ?_, fun key hkey => ?_⟩
    · exact (stringOrCurrent_eq_get hunset).mp (h "client_name" (by simp [Sets, hunset]))
    · exact (listOrCurrent_eq_get hunset).mp (h "redirect_uris" (by simp [Sets, hunset]))
    · exact (listOrCurrent_eq_get hunset).mp (h "grant_types" (by simp [Sets, hunset]))
    · exact (listOrCurrent_eq_get hunset).mp (h "response_types" (by simp [Sets, hunset]))
    · exact (stringOrCurrent_eq_get hunset).mp (h "scope" (by simp [Sets, hunset]))
    · exact (stringOrCurrent_eq_get hunset).mp (h "token_endpoint_auth_method" (by simp [Sets, hunset]))
    · have hflag := h "skip_consent" (by simp [Sets, hunset])
      simp only [payload, hunset] at hflag
      exact asBool_eq_get.mp hflag
    · rw [← h key, get_payload_of_not_mem hkey]
      rintro (⟨rfl, -⟩ | ⟨rfl, -⟩ | ⟨rfl, -⟩ | ⟨rfl, -⟩ | ⟨rfl, -⟩ | ⟨rfl, -⟩ | ⟨rfl, -⟩) <;>
        simp [sentKeys] at hkey
  · intro h key hset
    by_cases hkey : key ∈ sentKeys
    · simp only [sentKeys, List.mem_cons, List.not_mem_nil, or_false] at hkey
      rcases hkey with rfl | rfl | rfl | rfl | rfl | rfl | rfl | rfl
      · exact h.clientId.symm
      · have hunset : req.name = "" := by simpa [Sets] using hset
        exact (stringOrCurrent_eq_get hunset).mpr (h.name hunset)
      · have hunset : req.redirectUris = [] := by simpa [Sets] using hset
        exact (listOrCurrent_eq_get hunset).mpr (h.redirectUris hunset)
      · have hunset : req.grantTypes = [] := by simpa [Sets] using hset
        exact (listOrCurrent_eq_get hunset).mpr (h.grantTypes hunset)
      · have hunset : req.responseTypes = [] := by simpa [Sets] using hset
        exact (listOrCurrent_eq_get hunset).mpr (h.responseTypes hunset)
      · have hunset : joinSpace req.scope = "" := by simpa [Sets] using hset
        exact (stringOrCurrent_eq_get hunset).mpr (h.scope hunset)
      · have hunset : req.tokenEndpointAuthMethod = "" := by simpa [Sets] using hset
        exact (stringOrCurrent_eq_get hunset).mpr (h.authMethod hunset)
      · have hunset : req.skipConsent = none := by simpa [Sets] using hset
        have hflag := asBool_eq_get.mpr (h.skipConsent hunset)
        simp only [payload, hunset]
        exact hflag
    · rw [get_payload_of_not_mem hkey, h.others key hkey]

end payload

end UpdateApplicationRequest

/-! ## The runs -/

/-- The calls of a run. -/
abbrev TenantHistory := List (Event TenantSig Choice TenantWorld)

/-- Hydra reports an error for the fetch of a client, or for its replacement. -/
def FailsAtHydra : (op : TenantOp) → op.Res → Prop
  | .agents (.gateway (.hydra (.getOauth2Client _))), r => ∃ e, r = .error e
  | .agents (.gateway (.hydra (.updateOauth2Client _ _))), r => ∃ e, r = .error e
  | _, _ => False

/-- A document sent agrees with the stored one on every field the request leaves alone. -/
def AgreesWithStored (req : UpdateApplicationRequest) (op : TenantOp) (w : TenantWorld) : Prop :=
  ∀ id payload, op = .agents (.gateway (.hydra (.updateOauth2Client id payload))) →
    ∀ stored, w.agents.base.hydra.clients.lookup id = some stored →
      ∀ key, ¬ req.Sets key → payload.get key = stored.get key

/-- Every document sent agrees with the stored one, and where Hydra fails the flags are as before. -/
structure UpdatesOnlyAsked (env : AgentEnv) (req : UpdateApplicationRequest) (w : TenantWorld)
    (tr : TenantHistory) (w' : TenantWorld) : Prop where
  document : ∀ ev ∈ tr, AgreesWithStored req ev.op ev.before
  flag : (∃ ev ∈ tr, FailsAtHydra ev.op (ev.res (tenantGateway env))) →
    w'.agents.base.db.applications = w.agents.base.db.applications

/-- The request asks for the flag the application has, if for any, and every field of the stored document
that it leaves alone is sent again. Where there is no row to flag, nothing is sent. -/
structure UpdatesCleanly (req : UpdateApplicationRequest) (w : World) (m : IdMappingRow) : Prop where
  flag : ∀ b, req.crossTenant = some b → ∀ a ∈ w.db.applications, a.tenantId = m.tenantId →
    a.publicId = req.id → a.crossTenant = b
  document : (req.crossTenant ≠ none → ∃ a ∈ w.db.applications, a.tenantId = m.tenantId ∧
      a.publicId = req.id) →
    ∀ stored, w.hydra.clients.lookup m.oryGlobalId = some stored → req.KeepsFields m.oryGlobalId stored

/-- The client is fetched and replaced. -/
def exchangeClient (req : UpdateApplicationRequest) (tenantId oryId : String) : TenantMethod Application := do
  let existing ← Prog.orThrow mapOryError (gatewayCall (.hydra (.getOauth2Client oryId)))
  let updated ← Prog.orThrow mapOryError
    (gatewayCall (.hydra (.updateOauth2Client oryId (req.payload oryId existing))))
  let row ← Prog.attempt (gatewayCall (.application (.get tenantId req.id)))
  return hydraToApplication updated tenantId req.id (isCrossTenant row)

section runs

variable {env : AgentEnv} {lib : Libraries} {cfg : ApplicationConfig} {ctx : RequestContext}
  {req : UpdateApplicationRequest} {w : TenantWorld}

theorem updateApplication_eq {t : String} (hvalid : req.validate lib cfg ctx = .ok t) :
    updateApplication lib cfg ctx req = (do
      let oryId ← Prog.orThrow ServiceError.ofDbError
        (gatewayCall (.mapping (.getOryId t .hydra req.id)))
      writeCrossTenant t req.id req.crossTenant
      exchangeClient req t oryId) := by
  unfold updateApplication
  rw [hvalid]
  rfl

/-- The flag of a row is set to what it is. -/
theorem flagApplication_eq_self {t p : String} {b : Bool} {rows : List ApplicationRow} :
    rows.map (flagApplication t p b) = rows ↔
      ∀ a ∈ rows, a.tenantId = t → a.publicId = p → a.crossTenant = b := by
  have hid : rows.map (flagApplication t p b) = rows ↔
      rows.map (flagApplication t p b) = rows.map id := by rw [List.map_id]
  rw [hid, List.map_inj_left]
  refine forall₂_congr fun a _ => ?_
  show flagApplication t p b a = a ↔ _
  unfold flagApplication
  by_cases hrow : a.tenantId = t ∧ a.publicId = p
  · rw [if_pos hrow]
    constructor
    · intro h _ _
      rw [← h]
    · intro h
      rw [← h hrow.1 hrow.2]
  · rw [if_neg hrow]
    refine iff_of_true rfl fun ht hp => absurd ⟨ht, hp⟩ hrow

/-! ### Where the condition holds -/

/-- Every document that is sent agrees with the stored one. -/
def agreeing (req : UpdateApplicationRequest) : Contract TenantSig Choice TenantWorld :=
  .alone (fun _ _ _ => True) fun op _ w => AgreesWithStored req op w

/-- A call of the gateway that replaces no client, or agrees with the stored one. -/
theorem sat_gatewayCall {op : GatewayOp} {Q : op.Res → TenantWorld → Prop}
    (hagrees : AgreesWithStored req (.agents (.gateway op)) w)
    (hend : ∀ c, Q (gateway env.gateway op c w.agents.base).1
      (tenantGateway env (.agents (.gateway op)) c w).2) :
    (gatewayCall op).Sat (tenantGateway env) (agreeing req) Q w := by
  rintro _ rfl c -
  exact ⟨hagrees, hend c⟩

/-- Hydra's answer to a fetch is the document it has; nothing changes. -/
theorem gateway_getOauth2Client (e : Env) (c : Choice) (w : World) (id : String) :
    (gateway e (.hydra (.getOauth2Client id)) c w).2 = w ∧
      ∀ doc, (gateway e (.hydra (.getOauth2Client id)) c w).1 = .ok doc →
        w.hydra.clients.lookup id = some doc := by
  have hop : GatewayOp.IsRead (.hydra (.getOauth2Client id)) := trivial
  refine ⟨gateway_of_isRead hop e c w, fun doc hdoc => ?_⟩
  have hanswer : (Fault.answer (fun e => e) w.hydra (lookupObject w.hydra.clients id, w.hydra)
      (c.fault 0)).1 = .ok doc := hdoc
  obtain ⟨-, hlookup⟩ := Fault.answer_ok hanswer
  unfold lookupObject at hlookup
  cases hstored : w.hydra.clients.lookup id with
  | none => simp [hstored] at hlookup
  | some stored => simpa [hstored] using hlookup

/-- The replacement of a client leaves the tables alone. -/
theorem sat_exchangeClient {t oryId : String}
    (hkeeps : ∀ stored, w.agents.base.hydra.clients.lookup oryId = some stored → req.KeepsFields oryId stored) :
    (exchangeClient req t oryId).run.Sat (tenantGateway env) (agreeing req) (fun _ w' =>
      w'.agents.base.db = w.agents.base.db) w := by
  have hfetch : (gatewayCall (.hydra (.getOauth2Client oryId))).Sat (tenantGateway env) (agreeing req)
      (fun r w' => w'.agents.base = w.agents.base ∧
        ∀ doc, r = .ok doc → w.agents.base.hydra.clients.lookup oryId = some doc) w :=
    sat_gatewayCall (fun _ _ hop => by cases hop) fun c => gateway_getOauth2Client env.gateway c _ oryId
  refine Prog.sat_run_bind.mpr (Prog.sat_run_orThrow.mpr (hfetch.post fun r w₁ h₁ => ?_))
  obtain ⟨hbase, hstored⟩ := h₁
  cases r with
  | error e => exact congrArg World.db hbase
  | ok existing =>
  have hreplace : (gatewayCall (.hydra (.updateOauth2Client oryId (req.payload oryId existing)))).Sat
      (tenantGateway env) (agreeing req) (fun _ w' => w'.agents.base.db = w.agents.base.db) w₁ := by
    have hdb : w₁.agents.base.db = w.agents.base.db := congrArg World.db hbase
    refine sat_gatewayCall ?_ fun c => hdb
    intro id payload hop stored hlookup
    cases hop
    rw [hbase, hstored existing rfl] at hlookup
    obtain rfl := Option.some.inj hlookup
    exact UpdateApplicationRequest.payload_agrees_iff.mpr (hkeeps existing (hstored existing rfl))
  refine Prog.sat_run_bind.mpr (Prog.sat_run_orThrow.mpr (hreplace.post fun r w₂ hdb => ?_))
  cases r with
  | error e => exact hdb
  | ok updated =>
  refine Prog.sat_run_bind.mpr (Prog.sat_run_attempt.mpr (sat_gatewayCall (fun _ _ hop => by cases hop)
    fun c => ?_))
  have hop : GatewayOp.IsRead (.application (.get t req.id)) := trivial
  have hread := gateway_of_isRead hop env.gateway c w₂.agents.base
  exact (congrArg World.db hread).trans hdb

/-- Where the request asks for the flag an application has, the table is as before; and there is a row. -/
theorem sat_writeCrossTenant {t : String}
    (hflag : ∀ b, req.crossTenant = some b → ∀ a ∈ w.agents.base.db.applications, a.tenantId = t →
      a.publicId = req.id → a.crossTenant = b) :
    (writeCrossTenant t req.id req.crossTenant).run.Sat (tenantGateway env) (agreeing req) (fun r w' =>
      w'.agents.base.db.applications = w.agents.base.db.applications ∧
        (r = .ok () → w'.agents.base.hydra = w.agents.base.hydra ∧
          (req.crossTenant ≠ none → ∃ a ∈ w.agents.base.db.applications, a.tenantId = t ∧
            a.publicId = req.id))) w := by
  cases hcross : req.crossTenant with
  | none => exact ⟨rfl, fun _ => ⟨rfl, fun hne => absurd rfl hne⟩⟩
  | some b =>
  have hsame := flagApplication_eq_self.mpr (hflag b hcross)
  refine Prog.sat_run_bind.mpr (Prog.sat_run_orThrow.mpr ?_)
  rintro _ rfl c -
  refine ⟨(fun _ _ hop => by cases hop), ?_⟩
  have hset : (w.setCrossTenant t req.id b).2.agents.base.db.applications = w.agents.base.db.applications ∧
      (w.setCrossTenant t req.id b).2.agents.base.hydra = w.agents.base.hydra ∧
      ∀ row, (w.setCrossTenant t req.id b).1 = .ok row → ∃ a ∈ w.agents.base.db.applications,
        a.tenantId = t ∧ a.publicId = req.id := by
    unfold TenantWorld.setCrossTenant
    cases hfind : w.agents.base.db.applications.find? fun a => a.tenantId = t ∧ a.publicId = req.id with
    | none => exact ⟨rfl, rfl, fun row hrow => by cases hrow⟩
    | some a =>
        refine ⟨hsame, rfl, fun _ _ => ⟨a, List.mem_of_find?_eq_some hfind, ?_⟩⟩
        simpa using List.find?_some hfind
  obtain ⟨happlications, hhydra, hrow⟩ := hset
  show Prog.Sat _ _ _ (Prog.pure (Fault.answer Fault.sqlx w (w.setCrossTenant t req.id b) (c.fault 0)).1)
    (Fault.answer Fault.sqlx w (w.setCrossTenant t req.id b) (c.fault 0)).2
  cases hfault : c.fault 0 with
  | none =>
      cases hok : (w.setCrossTenant t req.id b).1 with
      | error e =>
          simp only [Fault.answer_none, hok]
          exact ⟨happlications, fun h => by cases h⟩
      | ok row =>
          simp only [Fault.answer_none, hok]
          exact ⟨happlications, fun _ => ⟨hhydra, fun _ => hrow row hok⟩⟩
  | some f =>
      refine ⟨?_, fun h => by cases h⟩
      simp only [Fault.answer]
      split
      · exact happlications
      · rfl

/-- **Where the condition holds**, every document that is sent agrees with the stored one, and no flag
changes, whatever fails. -/
theorem sat_updateApplication_clean
    (hclean : ∀ t, req.validate lib cfg ctx = .ok t → ∀ m ∈ w.agents.base.db.idMappings, m.tenantId = t →
      m.backend = .hydra → m.publicId = req.id → UpdatesCleanly req w.agents.base m) :
    (updateApplication lib cfg ctx req).run.Sat (tenantGateway env) (agreeing req) (fun _ w' =>
      w'.agents.base.db.applications = w.agents.base.db.applications) w := by
  cases hvalid : req.validate lib cfg ctx with
  | error e =>
      have hrefused : updateApplication lib cfg ctx req = throw e := by
        unfold updateApplication
        rw [hvalid]
        rfl
      rw [hrefused]
      exact rfl
  | ok t =>
  rw [updateApplication_eq hvalid]
  have hlookup : (gatewayCall (.mapping (.getOryId t .hydra req.id))).Sat (tenantGateway env) (agreeing req)
      (fun r w' => w'.agents.base = w.agents.base ∧ ∀ oryId, r = .ok oryId → ∃ m ∈ w.agents.base.db.idMappings,
        (m.tenantId = t ∧ m.backend = .hydra ∧ m.publicId = req.id) ∧ m.oryGlobalId = oryId) w := by
    refine sat_gatewayCall (fun _ _ hop => by cases hop) fun c => ?_
    show (gateway env.gateway (.mapping (.getOryId t .hydra req.id)) c w.agents.base).2 = _ ∧ _
    rcases gateway_getOryId env.gateway c w.agents.base t .hydra req.id with
      ⟨m, hm, hmaps, h⟩ | ⟨-, h⟩ | ⟨e, -, h⟩
    · rw [h]
      exact ⟨rfl, fun oryId hok => ⟨m, hm, hmaps, Except.ok.inj hok⟩⟩
    · rw [h]
      exact ⟨rfl, fun oryId hok => by cases hok⟩
    · rw [h]
      exact ⟨rfl, fun oryId hok => by cases hok⟩
  refine Prog.sat_run_bind.mpr (Prog.sat_run_orThrow.mpr (hlookup.post fun r w₁ h₁ => ?_))
  obtain ⟨hbase, hmapped⟩ := h₁
  cases r with
  | error e => exact congrArg (fun v : World => v.db.applications) hbase
  | ok oryId =>
  obtain ⟨m, hm, ⟨ht, hb, hp⟩, rfl⟩ := hmapped oryId rfl
  have hcleanly := hclean t hvalid m hm ht hb hp
  rw [← hbase] at hcleanly
  subst ht
  refine Prog.sat_run_bind.mpr ((sat_writeCrossTenant hcleanly.flag).post fun r w₂ h₂ => ?_)
  obtain ⟨happlications, hok⟩ := h₂
  rw [hbase] at happlications
  cases r with
  | error e => exact happlications
  | ok u =>
  obtain ⟨hhydra, hrow⟩ := hok rfl
  refine (sat_exchangeClient fun stored hstored => ?_).post fun r w₃ hdb => ?_
  · rw [hhydra] at hstored
    exact hcleanly.document hrow stored hstored
  · rw [hdb, happlications]

/-! ### Where it does not -/

/-- What has happened stays in the trace. -/
theorem mem_trace {α : Type} {ev : Event TenantSig Choice TenantWorld} {tr : TenantHistory}
    (hev : ev ∈ tr) (p : Prog TenantSig α) (o : ℕ → Choice) :
    ev ∈ (p.run (tenantGateway env).traced o (w, tr)).2.2 := by
  rw [Prog.run_traced]
  exact List.mem_append_right _ hev

/-- The mapping is found. -/
theorem run_getOryId {m : IdMappingRow} (hm : m ∈ w.agents.base.db.idMappings) (hb : m.backend = .hydra)
    {o : ℕ → Choice} (ho : (o 0).fault 0 = none) (tr : TenantHistory) :
    ∃ w' tr', w'.agents.base = w.agents.base ∧ ∀ rest : String → TenantMethod Application,
      (Prog.orThrow ServiceError.ofDbError (gatewayCall (.mapping (.getOryId m.tenantId .hydra m.publicId))) >>=
          rest).run.run (tenantGateway env).traced o (w, tr) =
        (rest m.oryGlobalId).run.run (tenantGateway env).traced (fun i => o (i + 1)) (w', tr') := by
  have hfound : gateway env.gateway (.mapping (.getOryId m.tenantId .hydra m.publicId)) (o 0) w.agents.base =
      (.ok m.oryGlobalId, w.agents.base) := by
    rcases gateway_getOryId env.gateway (o 0) w.agents.base m.tenantId .hydra m.publicId with
      ⟨m', hm', ⟨-, -, hp⟩, h⟩ | ⟨hnone, -⟩ | ⟨e, hfault, -⟩
    · obtain rfl := Db.mapping_unique hm hm' (.inl hp.symm)
      exact h
    · exact absurd ⟨rfl, hb, rfl⟩ (hnone m hm)
    · simp [ho] at hfault
  have hbase : (tenantGateway env (.agents (.gateway (.mapping (.getOryId m.tenantId .hydra m.publicId))))
      (o 0) w).2.agents.base = w.agents.base := congrArg Prod.snd hfound
  refine ⟨_, ⟨.agents (.gateway (.mapping (.getOryId m.tenantId .hydra m.publicId))), o 0, w⟩ :: tr, hbase,
    fun rest => ?_⟩
  have hrun := Prog.run_orThrow_bind (S := TenantSig) (h := (tenantGateway env).traced)
    (f := ServiceError.ofDbError) (.agents (.gateway (.mapping (.getOryId m.tenantId .hydra m.publicId))))
    (fun r => r) rest o (w, tr)
  have hanswer : ((tenantGateway env).traced (.agents (.gateway (.mapping (.getOryId m.tenantId .hydra
      m.publicId)))) (o 0) (w, tr)).1 = .ok m.oryGlobalId := congrArg Prod.fst hfound
  rw [hanswer] at hrun
  exact hrun

/-- The flag is written. -/
theorem run_setCrossTenant {t p : String} {b : Bool} {a : ApplicationRow}
    (ha : a ∈ w.agents.base.db.applications) (hat : a.tenantId = t) (hap : a.publicId = p)
    {o : ℕ → Choice} (ho : (o 0).fault 0 = none) (tr : TenantHistory) :
    ∃ w' tr', w'.agents.base.db.applications = w.agents.base.db.applications.map (flagApplication t p b) ∧
      w'.agents.base.hydra = w.agents.base.hydra ∧ ∀ rest : Unit → TenantMethod Application,
      (writeCrossTenant t p (some b) >>= rest).run.run (tenantGateway env).traced o (w, tr) =
        (rest ()).run.run (tenantGateway env).traced (fun i => o (i + 1)) (w', tr') := by
  obtain ⟨a', hfind⟩ : ∃ a', w.agents.base.db.applications.find?
      (fun a => a.tenantId = t ∧ a.publicId = p) = some a' := by
    refine Option.isSome_iff_exists.mp (List.find?_isSome.mpr ⟨a, ha, ?_⟩)
    simp [hat, hap]
  have hset : tenantGateway env (.setCrossTenant t p b) (o 0) w =
      (.ok (flagApplication t p b a'), w.withDb (w.agents.base.db.setCrossTenant t p b)) := by
    show Fault.answer Fault.sqlx w (w.setCrossTenant t p b) ((o 0).fault 0) = _
    unfold TenantWorld.setCrossTenant
    rw [ho, hfind]
    rfl
  refine ⟨w.withDb (w.agents.base.db.setCrossTenant t p b), ⟨.setCrossTenant t p b, o 0, w⟩ :: tr, rfl, rfl,
    fun rest => ?_⟩
  have hrun := Prog.run_orThrow_bind (S := TenantSig) (h := (tenantGateway env).traced)
    (f := ServiceError.ofDbError) (.setCrossTenant t p b) (fun r => r) (fun _ => rest ()) o (w, tr)
  have hanswer : ((tenantGateway env).traced (.setCrossTenant t p b) (o 0) (w, tr)).1 =
      .ok (flagApplication t p b a') := congrArg Prod.fst hset
  have hafter : ((tenantGateway env).traced (.setCrossTenant t p b) (o 0) (w, tr)).2 =
      (w.withDb (w.agents.base.db.setCrossTenant t p b), ⟨.setCrossTenant t p b, o 0, w⟩ :: tr) :=
    Prod.ext (congrArg Prod.snd hset) rfl
  rw [hanswer, hafter] at hrun
  simp only [writeCrossTenant, bind_assoc, pure_bind]
  exact hrun

/-- Hydra fails to fetch the client: the flag is as it was written. -/
theorem run_exchangeClient_lost {t oryId : String} {o : ℕ → Choice} {f : Fault}
    (ho : (o 0).fault 0 = some f) (tr : TenantHistory) :
    ∃ e w' ev, w'.agents.base.db = w.agents.base.db ∧ FailsAtHydra ev.op (ev.res (tenantGateway env)) ∧
      (exchangeClient req t oryId).run.run (tenantGateway env).traced o (w, tr) =
        (.error e, (w', ev :: tr)) := by
  have hlost : (tenantGateway env (.agents (.gateway (.hydra (.getOauth2Client oryId)))) (o 0) w).1 =
      .error f.error := by
    show (Fault.answer id w.agents.base.hydra _ ((o 0).fault 0)).1 = _
    rw [ho]
    rfl
  refine ⟨mapOryError f.error, (tenantGateway env (.agents (.gateway (.hydra (.getOauth2Client oryId))))
    (o 0) w).2, ⟨.agents (.gateway (.hydra (.getOauth2Client oryId))), o 0, w⟩, ?_, ⟨f.error, hlost⟩, ?_⟩
  · rfl
  · have hrun := Prog.run_orThrow_bind (S := TenantSig) (h := (tenantGateway env).traced) (f := mapOryError)
      (.agents (.gateway (.hydra (.getOauth2Client oryId)))) (fun r => r) (fun existing => do
        let updated ← Prog.orThrow mapOryError
          (gatewayCall (.hydra (.updateOauth2Client oryId (req.payload oryId existing))))
        let row ← Prog.attempt (gatewayCall (.application (.get t req.id)))
        return hydraToApplication updated t req.id (isCrossTenant row)) o (w, tr)
    have hanswer : ((tenantGateway env).traced (.agents (.gateway (.hydra (.getOauth2Client oryId)))) (o 0)
        (w, tr)).1 = .error f.error := hlost
    rw [hanswer] at hrun
    exact hrun

/-- Nothing fails: the new document is sent. -/
theorem run_exchangeClient_sent {t oryId : String} {stored : Value} {o : ℕ → Choice}
    (hstored : w.agents.base.hydra.clients.lookup oryId = some stored) (ho : (o 0).fault 0 = none)
    (tr : TenantHistory) :
    ∃ ev ∈ ((exchangeClient req t oryId).run.run (tenantGateway env).traced o (w, tr)).2.2,
      ev.op = .agents (.gateway (.hydra (.updateOauth2Client oryId (req.payload oryId stored)))) ∧
      ev.before.agents.base.hydra.clients.lookup oryId = some stored := by
  have hfetched : gateway env.gateway (.hydra (.getOauth2Client oryId)) (o 0) w.agents.base =
      (.ok stored, w.agents.base) := by
    have hop : GatewayOp.IsRead (.hydra (.getOauth2Client oryId)) := trivial
    refine Prod.ext ?_ (gateway_of_isRead hop env.gateway (o 0) w.agents.base)
    show (Fault.answer id w.agents.base.hydra (lookupObject w.agents.base.hydra.clients oryId,
      w.agents.base.hydra) ((o 0).fault 0)).1 = _
    simp [ho, lookupObject, hstored]
  have hrun := Prog.run_orThrow_bind (S := TenantSig) (h := (tenantGateway env).traced) (f := mapOryError)
    (.agents (.gateway (.hydra (.getOauth2Client oryId)))) (fun r => r) (fun existing => do
      let updated ← Prog.orThrow mapOryError
        (gatewayCall (.hydra (.updateOauth2Client oryId (req.payload oryId existing))))
      let row ← Prog.attempt (gatewayCall (.application (.get t req.id)))
      return hydraToApplication updated t req.id (isCrossTenant row)) o (w, tr)
  have hanswer : ((tenantGateway env).traced (.agents (.gateway (.hydra (.getOauth2Client oryId)))) (o 0)
      (w, tr)).1 = .ok stored := congrArg Prod.fst hfetched
  rw [hanswer] at hrun
  have hsent : (exchangeClient req t oryId).run.run (tenantGateway env).traced o (w, tr) = _ := hrun
  rw [hsent]
  refine ⟨⟨.agents (.gateway (.hydra (.updateOauth2Client oryId (req.payload oryId stored)))), o 1, _⟩,
    mem_trace List.mem_cons_self _ _, rfl, ?_⟩
  have hbase : (gateway env.gateway (.hydra (.getOauth2Client oryId)) (o 0) w.agents.base).2 =
      w.agents.base := congrArg Prod.snd hfetched
  exact (congrArg (fun v : World => v.hydra.clients.lookup oryId) hbase).trans hstored

end runs

/-! ## The call -/

/-- Hydra is lost when the client is fetched, after the flag is written. -/
def lostFetch (n : ℕ) : Choice :=
  { Choice.plain "" 0 with fault := fun _ => if n = 2 then some ⟨false, .http "lost"⟩ else none }

section frame

variable {env : AgentEnv} {lib : Libraries} {cfg : ApplicationConfig} {ctx : RequestContext}
  {req : UpdateApplicationRequest} {w : TenantWorld} {m : IdMappingRow}

/-- What a run that fails at Hydra leaves shows what the flag was. -/
theorem flag_of_updatesOnlyAsked (hvalid : req.validate lib cfg ctx = .ok m.tenantId)
    (hm : m ∈ w.agents.base.db.idMappings) (hb : m.backend = .hydra) (hp : m.publicId = req.id)
    (hrun : UpdatesOnlyAsked env req w
      ((updateApplication lib cfg ctx req).run.events (tenantGateway env) lostFetch w)
      ((updateApplication lib cfg ctx req).run.run (tenantGateway env) lostFetch w).2)
    {b : Bool} (hcross : req.crossTenant = some b) {a : ApplicationRow}
    (ha : a ∈ w.agents.base.db.applications) (hat : a.tenantId = m.tenantId) (hap : a.publicId = req.id) :
    a.crossTenant = b := by
  obtain ⟨w₁, tr₁, hbase, hrun₁⟩ := run_getOryId hm hb (o := lostFetch) rfl []
  rw [← hbase] at ha
  obtain ⟨w₂, tr₂, happlications, -, hrun₂⟩ := run_setCrossTenant (b := b) ha hat hap
    (o := fun i => lostFetch (i + 1)) rfl tr₁
  obtain ⟨e, w₃, ev, hdb, hfails, hrun₃⟩ := run_exchangeClient_lost (w := w₂)
    (t := m.tenantId) (o := fun i => lostFetch (i + 2)) rfl tr₂
  have hend : (updateApplication lib cfg ctx req).run.run (tenantGateway env).traced lostFetch (w, []) =
      (.error e, (w₃, ev :: tr₂)) := by
    rw [updateApplication_eq hvalid, hcross, ← hp]
    rw [← hp] at hrun₂
    exact (hrun₁ _).trans ((hrun₂ _).trans hrun₃)
  rw [Prog.run_traced, List.append_nil] at hend
  have hworld : ((updateApplication lib cfg ctx req).run.run (tenantGateway env) lostFetch w).2 = w₃ :=
    congrArg (fun r => r.2.1) hend
  have htrace : ((updateApplication lib cfg ctx req).run.events (tenantGateway env) lostFetch w).reverse =
      ev :: tr₂ := congrArg (fun r => r.2.2) hend
  have hev : ev ∈ (updateApplication lib cfg ctx req).run.events (tenantGateway env) lostFetch w := by
    rw [← List.mem_reverse, htrace]
    exact List.mem_cons_self
  have hkept := hrun.flag ⟨ev, hev, hfails⟩
  have hflagged := congrArg (fun v : TenantWorld => v.agents.base.db.applications) hworld
  rw [hkept, hdb, happlications, hbase] at hflagged
  rw [hbase] at ha
  exact flagApplication_eq_self.mp hflagged.symm a ha hat hap

/-- What a run in which nothing fails sends shows what the stored document was. -/
theorem document_of_updatesOnlyAsked (hvalid : req.validate lib cfg ctx = .ok m.tenantId)
    (hm : m ∈ w.agents.base.db.idMappings) (hb : m.backend = .hydra) (hp : m.publicId = req.id)
    (hrun : UpdatesOnlyAsked env req w
      ((updateApplication lib cfg ctx req).run.events (tenantGateway env) (fun _ => .plain "" 0) w)
      ((updateApplication lib cfg ctx req).run.run (tenantGateway env) (fun _ => .plain "" 0) w).2)
    (hrow : req.crossTenant ≠ none → ∃ a ∈ w.agents.base.db.applications, a.tenantId = m.tenantId ∧
      a.publicId = req.id)
    {stored : Value} (hstored : w.agents.base.hydra.clients.lookup m.oryGlobalId = some stored) :
    req.KeepsFields m.oryGlobalId stored := by
  obtain ⟨w₁, tr₁, hbase, hrun₁⟩ := run_getOryId hm hb (o := fun _ => .plain "" 0) rfl []
  obtain ⟨w₂, tr₂, hhydra, hrun₂⟩ : ∃ w₂ tr₂, w₂.agents.base.hydra = w₁.agents.base.hydra ∧
      ∀ rest : Unit → TenantMethod Application,
        (writeCrossTenant m.tenantId m.publicId req.crossTenant >>= rest).run.run (tenantGateway env).traced
          (fun _ => .plain "" 0) (w₁, tr₁) =
        (rest ()).run.run (tenantGateway env).traced (fun _ => .plain "" 0) (w₂, tr₂) := by
    cases hcross : req.crossTenant with
    | none => exact ⟨w₁, tr₁, rfl, fun rest => rfl⟩
    | some b =>
        obtain ⟨a, ha, hat, hap⟩ := hrow (by simp [hcross])
        rw [← hbase] at ha
        obtain ⟨w₂, tr₂, -, hhydra, hset⟩ := run_setCrossTenant (b := b) ha hat
          (hap.trans hp.symm) (o := fun _ => .plain "" 0) rfl tr₁
        exact ⟨w₂, tr₂, hhydra, hset⟩
  have hstored₂ : w₂.agents.base.hydra.clients.lookup m.oryGlobalId = some stored := by
    rw [hhydra, hbase]
    exact hstored
  obtain ⟨ev, hev, hop, hbefore⟩ := run_exchangeClient_sent (t := m.tenantId)
    hstored₂ (o := fun _ => .plain "" 0) rfl tr₂
  have hend : (updateApplication lib cfg ctx req).run.run (tenantGateway env).traced
      (fun _ => .plain "" 0) (w, []) = (exchangeClient req m.tenantId m.oryGlobalId).run.run
        (tenantGateway env).traced (fun _ => .plain "" 0) (w₂, tr₂) := by
    rw [updateApplication_eq hvalid, ← hp]
    exact (hrun₁ _).trans (hrun₂ _)
  rw [← hend, Prog.run_traced, List.append_nil] at hev
  have hagrees := hrun.document ev (List.mem_reverse.mp hev)
  exact UpdateApplicationRequest.payload_agrees_iff.mp (hagrees _ _ hop stored hbefore)

end frame

/-- **A change of an application touches only what was asked**, whatever fails, just if the request asks for
the flag the application has, and the stored document has every field that the request leaves alone and no
field that is not sent. -/
theorem update_application_frame (env : AgentEnv) (lib : Libraries) (cfg : ApplicationConfig)
    (ctx : RequestContext) (req : UpdateApplicationRequest) (w : TenantWorld) :
    (∀ o, UpdatesOnlyAsked env req w ((updateApplication lib cfg ctx req).run.events (tenantGateway env) o w)
        ((updateApplication lib cfg ctx req).run.run (tenantGateway env) o w).2) ↔
      ∀ t, req.validate lib cfg ctx = .ok t → ∀ m ∈ w.agents.base.db.idMappings, m.tenantId = t →
        m.backend = .hydra → m.publicId = req.id → UpdatesCleanly req w.agents.base m := by
  constructor
  · rintro hall t hvalid m hm rfl hb hp
    refine ⟨fun b hcross a ha hat hap => ?_, fun hrow stored hstored => ?_⟩
    · exact flag_of_updatesOnlyAsked hvalid hm hb hp (hall lostFetch) hcross ha hat hap
    · exact document_of_updatesOnlyAsked hvalid hm hb hp (hall _) hrow hstored
  · intro hclean o
    obtain ⟨hdocument, hflag⟩ := (sat_updateApplication_clean hclean).run_events
      (fun _ => rfl) fun _ _ => trivial
    exact ⟨hdocument, fun _ => hflag⟩

/-! ## A change that loses a field -/

/-- The document of `robot`'s client: it may be logged out to a page of acme's. -/
def robotClient : Value :=
  .obj [("client_id", .str "robot-client"), ("client_name", .str "Robot"), ("redirect_uris", .arr []),
    ("grant_types", .arr []), ("response_types", .arr []), ("scope", .str "openid"),
    ("token_endpoint_auth_method", .str "none"), ("skip_consent", .bool false),
    ("post_logout_redirect_uris", .arr [.str "https://acme.test/bye"])]

/-- The flagged application `robot`, with its client. -/
def robotWorld : TenantWorld :=
  { flaggedWorld with
    agents := flaggedWorld.agents.cascade { flaggedWorld.agents.base with
      hydra := ⟨[("robot-client", robotClient)], [], []⟩ } }

/-- A request about `robot`: its new name, and its flag. -/
def robotChange (name : String) (crossTenant : Option Bool) : UpdateApplicationRequest :=
  ⟨"robot", name, [], [], [], [], "", crossTenant, none⟩

/-- A change by an administrator of acme's. -/
def changeRobot (req : UpdateApplicationRequest) : Prog TenantSig (Except ServiceError Application) :=
  (updateApplication noLibraries ⟨"system", [], false⟩
    ⟨some "acme", some ⟨"acme", "root", .user, [scopeApplicationAdmin]⟩⟩ req).run

/-- The application gets a name, and its client loses the page; its flag is to go, and is gone although the
client could not be fetched. -/
theorem update_application_drops :
    ((changeRobot (robotChange "Rover" none)).run (tenantGateway robotEnv) (fun _ => .plain "" 0)
        robotWorld).2.agents.base.hydra.clients.lookup "robot-client" =
      some (.obj [("client_id", .str "robot-client"), ("client_name", .str "Rover"),
        ("redirect_uris", .arr []), ("grant_types", .arr []), ("response_types", .arr []),
        ("scope", .str "openid"), ("token_endpoint_auth_method", .str "none"), ("skip_consent", .bool false)]) ∧
    ((changeRobot (robotChange "" (some false))).run (tenantGateway robotEnv) lostFetch robotWorld).1 =
      .error (.unavailable "lost") ∧
    ((changeRobot (robotChange "" (some false))).run (tenantGateway robotEnv) lostFetch
        robotWorld).2.agents.base.db.applications = [⟨"acme", "robot", false, .admin⟩] ∧
    ¬ UpdatesOnlyAsked robotEnv (robotChange "Rover" none) robotWorld
      ((changeRobot (robotChange "Rover" none)).events (tenantGateway robotEnv) (fun _ => .plain "" 0) robotWorld)
      ((changeRobot (robotChange "Rover" none)).run (tenantGateway robotEnv) (fun _ => .plain "" 0) robotWorld).2 ∧
    ¬ UpdatesOnlyAsked robotEnv (robotChange "" (some false)) robotWorld
      ((changeRobot (robotChange "" (some false))).events (tenantGateway robotEnv) lostFetch robotWorld)
      ((changeRobot (robotChange "" (some false))).run (tenantGateway robotEnv) lostFetch robotWorld).2 := by
  refine ⟨rfl, rfl, rfl, fun honly => ?_, fun honly => ?_⟩
  · have hkeeps := document_of_updatesOnlyAsked rfl (m := ⟨"acme", .hydra, "robot", "robot-client", 0⟩)
      (by decide) rfl rfl honly (by simp [robotChange]) rfl
    exact absurd (hkeeps.others "post_logout_redirect_uris" (by decide)) (by simp [robotClient, Value.get])
  · have hflag := flag_of_updatesOnlyAsked rfl (m := ⟨"acme", .hydra, "robot", "robot-client", 0⟩)
      (by decide) rfl rfl honly rfl (a := ⟨"acme", "robot", true, .admin⟩) (by decide) rfl rfl
    cases hflag

end SsoGateway
