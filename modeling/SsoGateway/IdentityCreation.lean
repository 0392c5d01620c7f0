import SsoGateway.Identities
import SsoGateway.Resolution

/-!
# The creation of an identity

`create_identity` creates the identity at Kratos, then its mapping, then its membership. Where the
membership fails it deletes the identity again; where the mapping fails it deletes nothing.

* `SameIdentityParts` — the identities, mappings and memberships of two worlds are the same.
* `IdentityStored` — identity, mapping and membership are there, under one public id.
* `CreatesCleanly` — no step after the first has failed, and the first one without an effect.
* `create_identity_all_or_nothing` — an error leaves nothing, just if the steps of the run are such.
* `create_identity_leaves_mapping` — a membership that fails.

Source: `services/identity.rs` `create_identity`.
-/

namespace SsoGateway

open Lib

/-- The identities at Kratos, the mappings and the memberships. -/
structure SameIdentityParts (w w' : World) : Prop where
  identities : w'.kratos.identities = w.kratos.identities
  mappings : w'.db.idMappings = w.db.idMappings
  memberships : w'.directory.memberships = w.directory.memberships

/-- The identity is at Kratos, mapped to its public id, and a member of the tenant under that id. -/
def IdentityStored (t publicId : String) (w : World) : Prop :=
  ∃ oryId, (w.kratos.identities.lookup oryId).isSome ∧
    (∃ m ∈ w.db.idMappings, m.tenantId = t ∧ m.backend = .kratos ∧ m.publicId = publicId ∧
      m.oryGlobalId = oryId) ∧
    ∃ r ∈ w.directory.memberships, r.tenantId = t ∧ r.publicId = publicId

/-- The first step reports an error: the creation at Kratos. -/
def FailsFirst : (op : GatewayOp) → op.Res → Prop
  | .kratos (.createIdentity _), r => ∃ e, r = .error e
  | _, _ => False

/-- A later step reports an error: the mapping or the membership. -/
def FailsLater : (op : GatewayOp) → op.Res → Prop
  | .mapping (.create _ _ _ _), r => ∃ e, r = .error e
  | .directory (.upsertMembership _ _ _ _ _), r => ∃ e, r = .error e
  | _, _ => False

/-- No later step has failed, and the first one, where it has failed, has changed nothing. -/
structure CreatesCleanly (env : Env) (tr : History) : Prop where
  later : ∀ ev ∈ tr, ¬ FailsLater ev.op (ev.res (gateway env))
  first : ∀ ev ∈ tr, FailsFirst ev.op (ev.res (gateway env)) →
    SameIdentityParts ev.before (ev.after (gateway env))

/-- None of the steps has failed. -/
def Unfailing (env : Env) (tr : History) : Prop :=
  ∀ ev ∈ tr, ¬ FailsFirst ev.op (ev.res (gateway env)) ∧ ¬ FailsLater ev.op (ev.res (gateway env))

section creation

variable {env : Env} {c : Choice} {w : World} {tr : History}

theorem Unfailing.cleanly (h : Unfailing env tr) : CreatesCleanly env tr where
  later ev hev := (h ev hev).2
  first ev hev hfails := absurd hfails (h ev hev).1

theorem Unfailing.cons (h : Unfailing env tr) {ev : Event Gateway Choice World}
    (hfirst : ¬ FailsFirst ev.op (ev.res (gateway env)))
    (hlater : ¬ FailsLater ev.op (ev.res (gateway env))) : Unfailing env (ev :: tr) :=
  List.forall_mem_cons.mpr ⟨⟨hfirst, hlater⟩, h⟩

/-- A call to the directory that leaves it as it is leaves everything as it is. -/
theorem gateway_directory_same {op : DirectoryOp} (h : (directoryHandler env op c w.directory).2 = w.directory) :
    (gateway env (.directory op) c w).2 = w := by
  show ({ w with directory := (directoryHandler env op c w.directory).2 } : World) = w
  rw [h]

/-- The creation at Kratos fails, or the identity is there under the id in the answer. -/
theorem gateway_createKratosIdentity (env : Env) (c : Choice) (w : World) (payload : Value) :
    (∃ e, (gateway env (.kratos (.createIdentity payload)) c w).1 = .error e) ∨
      ∃ id doc, (gateway env (.kratos (.createIdentity payload)) c w).1 = .ok doc ∧
        doc = payload.insert "id" (.str id) ∧
        (gateway env (.kratos (.createIdentity payload)) c w).2.kratos.identities =
          (id, doc) :: w.kratos.identities := by
  show (∃ e, (kratosHandler (.createIdentity payload) c w.kratos).1 = .error e) ∨
    ∃ id doc, (kratosHandler (.createIdentity payload) c w.kratos).1 = .ok doc ∧
      doc = payload.insert "id" (.str id) ∧
      (kratosHandler (.createIdentity payload) c w.kratos).2.identities = (id, doc) :: w.kratos.identities
  simp only [kratosHandler, oryAnswer, Fault.answer]
  cases c.fault 0 with
  | some f => exact .inl ⟨_, rfl⟩
  | none => exact .inr ⟨_, _, rfl, rfl, rfl⟩

/-- The payload of a new identity is an object. -/
theorem buildKratosIdentityPayload_obj (baseSchemaId email password : String) :
    ∃ fields, buildKratosIdentityPayload baseSchemaId email password = .obj fields := by
  unfold buildKratosIdentityPayload
  dsimp only
  split
  · exact ⟨_, rfl⟩
  · exact ⟨_, rfl⟩

/-- The id in the answer can be read. -/
theorem asStr_index_insert {fields : List (String × Value)} (id : String) :
    (((Value.obj fields).insert "id" (.str id)).index "id").asStr = some id := by
  have hget : ((Value.obj fields).insert "id" (.str id)).get "id" = some (.str id) :=
    Value.lookup_upsert_self "id" _ fields
  simp [Value.index, hget, Value.asStr]

/-- Identity and mapping are made, and nothing has failed. -/
structure Registered (env : Env) (t : String) (w : World) (ids : String × String)
    (s : World × History) : Prop where
  identities : ∃ doc, s.1.kratos.identities = (ids.1, doc) :: w.kratos.identities
  mappings : ∃ m, s.1.db.idMappings = m :: w.db.idMappings ∧ m.tenantId = t ∧ m.backend = .kratos ∧
    m.publicId = ids.2 ∧ m.oryGlobalId = ids.1
  memberships : s.1.directory = w.directory
  unfailing : Unfailing env s.2

theorem ne_cons_self {α : Type} {x : α} {l l' : List α} (h : l' = x :: l) : l' ≠ l := by
  intro heq
  have hlength := congrArg List.length (heq.symm.trans h)
  simp at hlength

/-- Where the mapping fails, the identity is left. -/
theorem sat_mapIdentity (t : String) {id : String} (publicId : String) {doc : Value} {s : World × History}
    (hidentities : s.1.kratos.identities = (id, doc) :: w.kratos.identities) (hdb : s.1.db = w.db)
    (hdirectory : s.1.directory = w.directory) (hs : Unfailing env s.2) :
    (Prog.orThrow ServiceError.ofDbError (IdMappingStore.create t .kratos publicId id)).run.Sat
      (gateway env).traced remembering (fun r s' =>
        (∀ e, r = .error e → ¬ SameIdentityParts w s'.1 ∧ ¬ CreatesCleanly env s'.2) ∧
          ∀ row, r = .ok row → Registered env t w (id, publicId) s') s := by
  refine Prog.sat_run_orThrow.mpr (sat_remembering_perform.mpr fun c => ?_)
  cases hmapping : (gateway env (.mapping (.create t .kratos publicId id)) c s.1).1 with
  | error e =>
      refine ⟨fun e' _ => ⟨fun hsame => ?_, fun hcleanly => ?_⟩, fun row hok => by cases hok⟩
      · exact ne_cons_self hidentities hsame.identities
      · exact hcleanly.later _ List.mem_cons_self ⟨e, hmapping⟩
  | ok row =>
      refine ⟨(fun e he => by cases he), fun row' _ => ?_⟩
      obtain ⟨-, db', hdb', hafter⟩ := Db.write_ok hmapping
      have hafter : (gateway env (.mapping (.create t .kratos publicId id)) c s.1).2.db = db' := hafter
      have hrows : (gateway env (.mapping (.create t .kratos publicId id)) c s.1).2.db.idMappings =
          ⟨t, .kratos, publicId, id, c.now⟩ :: w.db.idMappings := by
        rw [hafter, (Db.insertMapping_ok hdb').1, hdb]
      refine ⟨⟨doc, hidentities⟩, ⟨_, hrows, rfl, rfl, rfl, rfl⟩, hdirectory, hs.cons (fun h => h) ?_⟩
      rintro ⟨e, he⟩
      exact absurd (hmapping.symm.trans he) (by simp)

theorem sat_registerIdentity (t baseSchemaId email password : String) (htr : Unfailing env tr) :
    (registerIdentity t (buildKratosIdentityPayload baseSchemaId email password)).run.Sat
      (gateway env).traced remembering (fun r s =>
        (∀ e, r = .error e → (SameIdentityParts w s.1 ↔ CreatesCleanly env s.2)) ∧
          ∀ ids, r = .ok ids → Registered env t w ids s) (w, tr) := by
  obtain ⟨fields, hpayload⟩ := buildKratosIdentityPayload_obj baseSchemaId email password
  rw [hpayload]
  refine Prog.sat_run_bind.mpr (Prog.sat_run_orThrow.mpr (sat_remembering_perform.mpr fun c => ?_))
  rcases gateway_createKratosIdentity env c w (.obj fields) with ⟨e, h⟩ | ⟨id, doc, h, rfl, hidentities⟩
  · rw [h]
    refine ⟨fun e' _ => ⟨fun hsame => ?_, fun hcleanly => ?_⟩, fun ids hok => by cases hok⟩
    · exact ⟨List.forall_mem_cons.mpr ⟨fun hlater => hlater, htr.cleanly.later⟩,
        List.forall_mem_cons.mpr ⟨fun _ => hsame, htr.cleanly.first⟩⟩
    · exact hcleanly.first _ List.mem_cons_self ⟨e, h⟩
  rw [h]
  have hunfailing : Unfailing env (⟨.kratos (.createIdentity (.obj fields)), c, w⟩ :: tr) := by
    refine htr.cons ?_ fun hlater => hlater
    rintro ⟨e, he⟩
    exact absurd (h.symm.trans he) (by simp)
  refine Prog.sat_run_bind.mpr ?_
  rw [asStr_index_insert]
  refine Prog.sat_run_bind.mpr (Prog.sat_run_attempt.mpr (sat_remembering_perform.mpr fun c₁ => ?_))
  have hmap := sat_mapIdentity t c₁.ulid (w := w) (s := ((gateway env (.kratos (.createIdentity
    (.obj fields))) c w).2, ⟨.newUlid, c₁, (gateway env (.kratos (.createIdentity (.obj fields))) c w).2⟩ ::
      ⟨.kratos (.createIdentity (.obj fields)), c, w⟩ :: tr)) hidentities rfl rfl
    (hunfailing.cons (fun h => h) fun h => h)
  refine Prog.sat_run_bind.mpr (hmap.post fun r s hs => ?_)
  rcases r with e | row
  · exact ⟨fun e' _ => iff_of_false (hs.1 e rfl).1 (hs.1 e rfl).2, fun ids hok => by cases hok⟩
  · refine ⟨(fun e he => by cases he), fun ids hok => ?_⟩
    obtain rfl := Except.ok.inj hok
    exact hs.2 row rfl

/-- Where the membership fails, the mapping is left. -/
theorem sat_enrollIdentity {t : String} {ids : String × String} {s : World × History}
    (hs : Registered env t w ids s) (schema : IdentitySchemaRow) (traits : Value) :
    (enrollIdentity t ids.1 ids.2 schema traits).run.Sat (gateway env).traced remembering (fun r s' =>
      (∀ e, r = .error e → (SameIdentityParts w s'.1 ↔ CreatesCleanly env s'.2)) ∧
        (r = .ok () → IdentityStored t ids.2 s'.1 ∧ Unfailing env s'.2)) s := by
  obtain ⟨doc, hidentities⟩ := hs.identities
  obtain ⟨m, hmappings, ht, hb, hp, hid⟩ := hs.mappings
  refine Prog.sat_run_bind.mpr (Prog.sat_run_attempt.mpr (sat_remembering_perform.mpr fun c => ?_))
  cases hmember : (gateway env (.directory (.upsertMembership t ids.2 schema.schemaId schema.version
      traits)) c s.1).1 with
  | ok row =>
      refine ⟨(fun e he => by cases he), fun _ => ⟨⟨ids.1, ?_, ⟨m, ?_, ht, hb, hp, hid⟩, ?_⟩,
        hs.unfailing.cons (fun h => h) ?_⟩⟩
      · show (s.1.kratos.identities.lookup ids.1).isSome
        rw [hidentities, List.lookup_cons_self]
        rfl
      · show m ∈ s.1.db.idMappings
        rw [hmappings]
        exact List.mem_cons_self
      · have hanswer : (Fault.answer Fault.sqlx s.1.directory
            (.ok ⟨t, ids.2, schema.schemaId, schema.version, traits⟩, s.1.directory.upsertMembership
              ⟨t, ids.2, schema.schemaId, schema.version, traits⟩) (c.fault 0)).1 = .ok row := hmember
        obtain ⟨hfault, -⟩ := Fault.answer_ok hanswer
        refine ⟨⟨t, ids.2, schema.schemaId, schema.version, traits⟩, ?_, rfl, rfl⟩
        show _ ∈ (directoryHandler env _ c s.1.directory).2.memberships
        simp only [directoryHandler, hfault, Fault.answer_none]
        exact Directory.mem_upsertMembership.mpr (.inl rfl)
      · rintro ⟨e, he⟩
        exact absurd (hmember.symm.trans he) (by simp)
  | error e =>
      refine Prog.sat_run_bind.mpr (Prog.sat_run_attempt.mpr (sat_remembering_perform.mpr fun c₁ => ?_))
      refine ⟨fun e' _ => iff_of_false (fun hsame => ?_) fun hcleanly => ?_, fun hok => by cases hok⟩
      · exact ne_cons_self hmappings hsame.mappings
      · exact hcleanly.later _ (List.mem_cons_of_mem _ List.mem_cons_self) ⟨e, hmember⟩

/-- **The creation of an identity** and what it leaves. -/
theorem sat_createIdentity (cfg : IdentityConfig) (ctx : RequestContext) (req : CreateIdentityRequest) :
    (createIdentity cfg ctx req).run.Sat (gateway env).traced remembering (fun r s =>
      ((∀ e, r = .error e → SameIdentityParts w s.1) ↔ CreatesCleanly env s.2) ∧
        ∀ identity, r = .ok identity → requireTenantScope ctx scopeIdentityAdmin = .ok identity.tenantId ∧
          IdentityStored identity.tenantId identity.id s.1) (w, []) := by
  have hnothing : ∀ {tr : History} {e : ServiceError}, Unfailing env tr →
      ((∀ e', (.error e : Except ServiceError Identity) = .error e' → SameIdentityParts w w) ↔
        CreatesCleanly env tr) :=
    fun htr => iff_of_true (fun _ _ => ⟨rfl, rfl, rfl⟩) htr.cleanly
  have hstart : Unfailing env [] := fun ev hev => absurd hev List.not_mem_nil
  refine Prog.sat_run_bind.mpr ?_
  cases ht : requireTenantScope ctx scopeIdentityAdmin with
  | error e => exact ⟨hnothing hstart, fun identity h => by cases h⟩
  | ok t =>
  refine Prog.sat_run_bind.mpr ?_
  have hschema : (resolveSchema t req.schemaId).run.Sat (gateway env).traced remembering
      (fun _ s => s.1 = w ∧ Unfailing env s.2) (w, []) := by
    unfold resolveSchema
    split
    · refine Prog.sat_run_orThrow.mpr (sat_remembering_perform.mpr fun c => ⟨?_, ?_⟩)
      · exact gateway_directory_same ((Fault.answer_snd (c.fault 0)).elim id id)
      · exact hstart.cons (fun h => h) fun h => h
    · refine Prog.sat_run_orThrow.mpr (sat_remembering_perform.mpr fun c => ⟨?_, ?_⟩)
      · exact gateway_directory_same ((Fault.answer_snd (c.fault 0)).elim id id)
      · exact hstart.cons (fun h => h) fun h => h
  refine hschema.post fun r s hs => ?_
  obtain ⟨w', tr⟩ := s
  obtain ⟨rfl, htr⟩ := hs
  cases r with
  | error e => exact ⟨hnothing htr, fun identity h => by cases h⟩
  | ok schema =>
  refine Prog.sat_run_bind.mpr ?_
  cases htraits : requestTraits cfg.compile schema req.traits with
  | error e => exact ⟨hnothing htr, fun identity h => by cases h⟩
  | ok checked =>
  obtain ⟨traits, email⟩ := checked
  refine Prog.sat_run_bind.mpr
    ((sat_registerIdentity t cfg.kratosDefaultSchemaId email req.password htr).post fun r s h => ?_)
  cases r with
  | error e =>
      refine ⟨Iff.trans ⟨fun hall => hall e rfl, fun hsame _ _ => hsame⟩ (h.1 e rfl), fun identity hok => ?_⟩
      cases hok
  | ok ids =>
  refine Prog.sat_run_bind.mpr ((sat_enrollIdentity (h.2 ids rfl) schema traits).post fun r s' h' => ?_)
  cases r with
  | error e =>
      refine ⟨Iff.trans ⟨fun hall => hall e rfl, fun hsame _ _ => hsame⟩ (h'.1 e rfl), fun identity hok => ?_⟩
      cases hok
  | ok u =>
      obtain ⟨hstored, hunfailing⟩ := h'.2 rfl
      refine ⟨iff_of_true (fun e he => by cases he) hunfailing.cleanly, fun identity hok => ?_⟩
      obtain rfl := Except.ok.inj hok
      exact ⟨rfl, hstored⟩

end creation

/-! ## The call -/

/-- An error leaves none of the parts, and a success leaves all of them, under one public id. -/
def CreatedWholly (w : World) (r : Except ServiceError Identity × World) : Prop :=
  (∀ e, r.1 = .error e → SameIdentityParts w r.2) ∧
    ∀ identity, r.1 = .ok identity → IdentityStored identity.tenantId identity.id r.2

/-- **The creation of an identity is all or nothing** just if neither its mapping nor its membership
fails, and the creation at Kratos does not fail with an effect. -/
theorem create_identity_all_or_nothing (env : Env) (cfg : IdentityConfig) (ctx : RequestContext)
    (req : CreateIdentityRequest) (w : World) (o : ℕ → Choice) :
    CreatedWholly w ((createIdentity cfg ctx req).run.run (gateway env) o w) ↔
      CreatesCleanly env ((createIdentity cfg ctx req).run.events (gateway env) o w) := by
  have hsat : (createIdentity cfg ctx req).run.Sat (gateway env).traced remembering _ (w, []) :=
    sat_createIdentity cfg ctx req
  obtain ⟨hnothing, hall⟩ := run_of_remembering hsat o
  have hreverse : ∀ {tr : History}, CreatesCleanly env tr.reverse ↔ CreatesCleanly env tr := by
    intro tr
    constructor
    · intro h
      exact ⟨fun ev hev => h.later ev (List.mem_reverse.mpr hev),
        fun ev hev => h.first ev (List.mem_reverse.mpr hev)⟩
    · intro h
      exact ⟨fun ev hev => h.later ev (List.mem_reverse.mp hev),
        fun ev hev => h.first ev (List.mem_reverse.mp hev)⟩
  unfold CreatedWholly
  rw [← hreverse, ← hnothing]
  exact and_iff_left fun identity hok => (hall identity hok).2

/-! ## A membership that fails -/

/-- The tenant `acme` with its default schema. -/
def acmeWithSchema : World :=
  { World.empty [⟨"acme"⟩] with
    directory := { Directory.empty with schemas := [⟨"acme", "default", 1, .obj [], true⟩] } }

/-- The membership is not written; the steps before it and the compensation succeed. -/
def membershipLost (n : ℕ) : Choice :=
  { Choice.plain "01" 0 with fault := fun _ => if n = 4 then some ⟨false, .http "lost"⟩ else none }

/-- Alice's identity is created, but her membership is not written. -/
def aliceHalfCreated : Except ServiceError Identity × World :=
  (createIdentity ⟨"default", fun _ => .ok fun _ => .ok ()⟩
    ⟨some "acme", some ⟨"acme", "root", .user, [scopeIdentityAdmin]⟩⟩
    ⟨"default", some (.ok (.obj [("email", .str "alice@acme.test")])), ""⟩).run.run
    (gateway .firstRow) membershipLost acmeWithSchema

/-- The call fails and Kratos has no identity any more, but the mapping of the identity is there. -/
theorem create_identity_leaves_mapping :
    aliceHalfCreated.1 = .error (.database "http request failed: lost") ∧
      aliceHalfCreated.2.kratos.identities = [] ∧
      aliceHalfCreated.2.db.idMappings = [⟨"acme", .kratos, "01", "01", 0⟩] ∧
      ¬ CreatedWholly acmeWithSchema aliceHalfCreated := by
  refine ⟨rfl, rfl, rfl, fun h => ?_⟩
  have hsame := (h.1 _ rfl).mappings
  cases hsame

end SsoGateway
