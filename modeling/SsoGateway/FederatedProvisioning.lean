import Mathlib.Data.Fintype.EquivFin
import SsoGateway.Federation
import SsoGateway.Lib.Inside
import SsoGateway.SelfServiceProvisioning
import SsoGateway.SystemPrivilege

/-!
# The identity of an email

A login through an upstream provider ends with the identity of its email: the one Kratos has of it, or a new one.
Kratos is asked for the identifier `tenant:email`; but the identity it is asked to create has the email as its
identifier, and so have those of `CreateIdentity`.

* `HonestKratos` — Kratos filters by the exact identifier, and refuses an email that is taken.
* `RegisteredAs` — what `CreateIdentity` leaves (`createIdentity_registers`).
* `ProvisionsOnce` — a second login finds what the first has left, and a login finds what `CreateIdentity` has left.
* `provisions_once_iff` — just if Kratos has one of the two identifiers, and the tenant has no identity of the email.
* `second_login_refused` — the first login of alice succeeds, and no other does.

Source: `identity_provisioner.rs`, `services/identity.rs`, `ory-client` `kratos.rs`.
-/

namespace SsoGateway

open Lib

/-! ## Kratos and its emails -/

/-- The identities that the filter by an identifier yields. -/
def identifiedBy (identifier : String) (w : World) : List (String × Value) :=
  w.kratos.identities.filter fun kv => kratosEmail kv.2 = some identifier

/-- Kratos has an identity of that identifier. -/
def Taken (identifier : String) (w : World) : Prop :=
  ∃ kv ∈ w.kratos.identities, kratosEmail kv.2 = some identifier

instance (identifier : String) (w : World) : Decidable (Taken identifier w) :=
  inferInstanceAs (Decidable (∃ kv ∈ w.kratos.identities, _))

/-- Each document is under its id, and there is one of each id. -/
structure KratosKeyed (w : World) : Prop where
  ids : ∀ kv ∈ w.kratos.identities, (kv.2.index "id").asStr = some kv.1
  keys : w.kratos.identities.Pairwise fun kv kv' => kv.1 ≠ kv'.1

/-- The email a new identity is created with is taken. -/
def IsTaken (w : World) : GatewayOp → Prop
  | .kratos (.createIdentity payload) => ∃ email, kratosEmail payload = some email ∧ Taken email w
  | _ => False

/-- What is assumed of Kratos: the filter matches an identifier exactly, and an identity whose email is taken is
refused. -/
def HonestKratos (op : GatewayOp) (c : Choice) (w : World) : Prop :=
  (∀ t identifier, op = .kratos (.listIdentitiesByIdentifier t identifier) →
    c.doc = .arr ((identifiedBy identifier w).map (·.2))) ∧
  (IsTaken w op → ∃ message, c.fault 0 = some ⟨false, .ory 409 message⟩)

/-- A call in which nothing goes wrong: Kratos refuses no more than it must, and new ids are new. -/
structure Unhindered (op : GatewayOp) (c : Choice) (w : World) : Prop where
  honest : HonestKratos op c w
  faultless : ¬ IsTaken w op → c.fault 0 = none
  ulid : ∀ m ∈ w.db.idMappings, m.publicId ≠ c.ulid
  assigned : ∀ m ∈ w.db.idMappings, m.oryGlobalId ≠ c.assigned.getD c.ulid

instance : Nonempty Choice := ⟨smoothly 0⟩

/-- The document a listing answers with. -/
def listedDocument (w : World) : GatewayOp → Value
  | .kratos (.listIdentitiesByIdentifier _ identifier) => .arr ((identifiedBy identifier w).map (·.2))
  | _ => .null

/-- Such a call can always be made. -/
theorem exists_unhindered (op : GatewayOp) (w : World) : ∃ c, Unhindered op c w := by
  obtain ⟨p, hp⟩ := Infinite.exists_notMem_finset
    ((w.db.idMappings.map (·.publicId) ++ w.db.idMappings.map (·.oryGlobalId)).toFinset)
  simp only [List.mem_toFinset, List.mem_append, List.mem_map, not_or, not_exists, not_and] at hp
  obtain ⟨hpublic, hory⟩ := hp
  classical
  refine ⟨⟨fun _ => if IsTaken w op then some ⟨false, .ory 409 "taken"⟩ else none, p, none, 0,
    listedDocument w op⟩, ⟨?_, ?_⟩, ?_, fun m hm => hpublic m hm, fun m hm => hory m hm⟩
  · rintro t identifier rfl
    rfl
  · intro htaken
    exact ⟨"taken", if_pos htaken⟩
  · intro hfree
    exact if_neg hfree

theorem taken_iff {identifier : String} {w : World} : Taken identifier w ↔ identifiedBy identifier w ≠ [] := by
  simp [Taken, identifiedBy, List.filter_eq_nil_iff]

/-- `tenant:email` is another text than the email. -/
theorem scoped_ne (t email : String) : t ++ ":" ++ email ≠ email := by
  intro h
  have hlength := congrArg String.length h
  simp only [String.length_append] at hlength
  have hcolon : ":".length = 1 := by decide
  omega

/-! ## One login -/

/-- The claims are those of a verified email, normalized, and meet a schema of the tenant. -/
def Accepts (lib : Libraries) (cfg : IdentityConfig) (t email : String) (w : World) (schemaId : String)
    (claims : Value) : Prop :=
  ∃ schema raw traits, w.directory.schemas.find? (fun s => s.tenantId = t ∧ s.schemaId = schemaId) = some schema ∧
    (claims.index "email").asStr = some raw ∧ requireEmailVerified claims = .ok () ∧
    upstreamTraits lib cfg schema raw (claims.get "name") = .ok traits ∧ extractEmail traits = .ok email

/-- The mapping is of an identity of that email, which is a member of the tenant. -/
structure RegisteredAs (t email : String) (m : IdMappingRow) (w : World) : Prop where
  mapped : m ∈ w.db.idMappings
  tenant : m.tenantId = t
  backend : m.backend = .kratos
  identity : ∃ doc, (m.oryGlobalId, doc) ∈ w.kratos.identities ∧ kratosEmail doc = some email
  enrolled : Enrolled t m.publicId w

/-- The identity is mapped in the tenant and a member of it. -/
def LinkedIn (t oryId p : String) (w : World) : Prop :=
  (∃ m ∈ w.db.idMappings, m.tenantId = t ∧ m.backend = .kratos ∧ m.oryGlobalId = oryId ∧ m.publicId = p) ∧
    Enrolled t p w

section login

variable {env : Env} {lib : Libraries} {cfg : IdentityConfig} {t email schemaId : String} {claims : Value}
  {w : World}

/-- A login by itself, with an honest Kratos. -/
def honestly : Contract Gateway Choice World := .alone HonestKratos fun _ _ _ => True

/-- A login in which nothing goes wrong. -/
def unhindered : Contract Gateway Choice World := .alone Unhindered fun _ _ _ => True

/-- A schema that is looked up is the first of its name, or the lookup fails. -/
theorem gateway_getBySchemaId (env : Env) (c : Choice) {schema : IdentitySchemaRow}
    (hschema : w.directory.schemas.find? (fun s => s.tenantId = t ∧ s.schemaId = schemaId) = some schema) :
    gateway env (.directory (.getBySchemaId t schemaId)) c w = (.ok schema, w) ∨
      ∃ e, (c.fault 0).isSome ∧ gateway env (.directory (.getBySchemaId t schemaId)) c w = (.error e, w) := by
  simp only [gateway, directoryHandler, hschema, orNotFound, id_eq]
  have hread : Fault.answer Fault.sqlx w.directory (.ok schema, w.directory) (c.fault 0) =
      (.ok schema, w.directory) ∨ ∃ e, (c.fault 0).isSome ∧
        Fault.answer Fault.sqlx w.directory (.ok schema, w.directory) (c.fault 0) =
          (.error (Fault.sqlx e), w.directory) := Fault.answer_read (c.fault 0)
  rcases hread with h | ⟨e, hf, h⟩
  · exact .inl (by rw [h])
  · exact .inr ⟨_, hf, by rw [h]⟩

/-- What the filter answers. -/
theorem gateway_listIdentities (env : Env) {c : Choice} {identifier : String}
    (hhonest : HonestKratos (.kratos (.listIdentitiesByIdentifier t identifier)) c w) :
    gateway env (.kratos (.listIdentitiesByIdentifier t identifier)) c w =
        (.ok (.arr ((identifiedBy identifier w).map (·.2))), w) ∨
      ∃ e, (c.fault 0).isSome ∧
        gateway env (.kratos (.listIdentitiesByIdentifier t identifier)) c w = (.error e, w) := by
  rw [← hhonest.1 t identifier rfl]
  simp only [gateway, kratosHandler, oryAnswer]
  have hread : Fault.answer id w.kratos (.ok c.doc, w.kratos) (c.fault 0) = (.ok c.doc, w.kratos) ∨
      ∃ e, (c.fault 0).isSome ∧
        Fault.answer id w.kratos (.ok c.doc, w.kratos) (c.fault 0) = (.error (id e), w.kratos) :=
    Fault.answer_read (c.fault 0)
  rcases hread with h | ⟨e, hf, h⟩
  · exact .inl (by rw [h])
  · exact .inr ⟨_, hf, by rw [h]⟩

/-- The beginning of a login, up to the identities that Kratos finds. -/
theorem sat_provision_found {K : Contract Gateway Choice World} (hK : ∀ w w', K.rely w w' → w = w')
    (hhonest : ∀ op c w, K.assume op c w → HonestKratos op c w) (hguar : ∀ op c w, K.guar op c w)
    (haccepts : Accepts lib cfg t email w schemaId claims) {Q : Except ProvisionError ProvisionedIdentity → World → Prop}
    (hfault : ∀ op c e, K.assume op c w → (c.fault 0).isSome → ¬ IsTaken w op → Q (.error e) w)
    (hlinked : ∀ kv rest, identifiedBy (t ++ ":" ++ email) w = kv :: rest → ∀ schema traits, (do
        let oryId ← ExceptT.mk (pure (documentId "identity missing id" kv.2))
        let publicId ← linkIdentity t oryId
        ensureMembership t publicId schema traits
        return ⟨t, publicId, oryId, email⟩ : Provision ProvisionedIdentity).run.Sat (gateway env) K Q w)
    (hcreated : identifiedBy (t ++ ":" ++ email) w = [] → ∀ schema traits, (do
        let ids ← provisionIdentity cfg t email
        ensureMembership t ids.2 schema traits
        return ⟨t, ids.2, ids.1, email⟩ : Provision ProvisionedIdentity).run.Sat (gateway env) K Q w) :
    (provision lib cfg t schemaId claims).run.Sat (gateway env) K Q w := by
  obtain ⟨schema, raw, traits, hschema, hraw, hverified, htraits, hemail⟩ := haccepts
  unfold provision
  refine Prog.sat_run_bind.mpr (Prog.sat_run_mk.mpr ?_)
  rw [hraw]
  refine Prog.sat_run_bind.mpr (Prog.sat_run_orThrow.mpr (Prog.sat_perform.mpr fun w' hw' c hc => ⟨hguar _ _ _, ?_⟩))
  obtain rfl := hK w w' hw'
  rcases gateway_getBySchemaId env c hschema with h | ⟨e, hf, h⟩
  · rw [h]
    refine Prog.sat_run_bind.mpr (Prog.sat_run_mk.mpr ?_)
    rw [hverified]
    refine Prog.sat_run_bind.mpr (Prog.sat_run_mk.mpr ?_)
    rw [htraits]
    dsimp only
    unfold findOrCreateByEmail
    refine Prog.sat_run_bind.mpr (Prog.sat_run_mk.mpr ?_)
    rw [hemail]
    dsimp only
    unfold linkOrProvision
    refine Prog.sat_run_bind.mpr (Prog.sat_run_bind.mpr (Prog.sat_run_orThrow.mpr (Prog.sat_perform.mpr ?_)))
    intro w' hw' c hc
    refine ⟨hguar _ _ _, ?_⟩
    obtain rfl := hK w w' hw'
    rcases gateway_listIdentities env (hhonest _ c w hc) with h | ⟨e, hf, h⟩
    · rw [h]
      cases hlist : identifiedBy (t ++ ":" ++ email) w with
      | nil =>
          have hsat := hcreated hlist schema traits
          simp only [Prog.sat_run_bind] at hsat ⊢
          exact hsat
      | cons kv rest =>
          have hsat := hlinked kv rest hlist schema traits
          simp only [Except.mapError, Value.asArray, Option.bind_some, List.map_cons, List.head?_cons,
            Prog.sat_run_bind, Prog.sat_run_pure] at hsat ⊢
          exact hsat
    · rw [h]
      exact hfault _ c _ hc hf (fun h => h)
  · rw [h]
    exact hfault _ c _ hc hf (fun h => h)

/-! ### An identity that the filter yields -/

/-- What a login leaves that was linked to an identity: the identity is mapped and a member, Kratos and the schemas are
as before, and no mapping is gone. -/
structure Linked (t oryId p : String) (w w' : World) : Prop where
  linked : LinkedIn t oryId p w'
  kratos : w'.kratos = w.kratos
  schemas : w'.directory.schemas = w.directory.schemas
  mappings : ∀ m ∈ w.db.idMappings, m ∈ w'.db.idMappings

/-- What the mapping of an identity is, or becomes. -/
theorem sat_linkIdentity (env : Env) (t oryId : String) :
    (linkIdentity t oryId).run.Sat (gateway env) honestly (Prog.OnOk fun p w' =>
      (∃ m ∈ w'.db.idMappings, m.tenantId = t ∧ m.backend = .kratos ∧ m.oryGlobalId = oryId ∧ m.publicId = p) ∧
        w'.kratos = w.kratos ∧ w'.directory = w.directory ∧
          ∀ m ∈ w.db.idMappings, m ∈ w'.db.idMappings) w := by
  unfold linkIdentity
  refine Prog.sat_run_bind.mpr (Prog.sat_run_attempt.mpr (Prog.sat_perform.mpr ?_))
  rintro _ rfl c -
  refine ⟨trivial, ?_⟩
  rcases gateway_getPublicId env c w t .kratos oryId with ⟨m, hm, ⟨ht, hb, ho⟩, h⟩ | ⟨-, h⟩ | ⟨e, -, h⟩
  · rw [h]
    exact ⟨⟨m, hm, ht, hb, ho, rfl⟩, rfl, rfl, fun m hm => hm⟩
  · rw [h]
    refine Prog.sat_run_bind.mpr (Prog.sat_run_attempt.mpr (Prog.sat_perform.mpr ?_))
    rintro _ rfl c₁ -
    have hulid : gateway env .newUlid c₁ w = (c₁.ulid, w) := rfl
    simp only [hulid]
    refine ⟨trivial, Prog.sat_run_bind.mpr (Prog.sat_run_orThrow.mpr (Prog.sat_perform.mpr ?_))⟩
    rintro _ rfl c₂ -
    refine ⟨trivial, ?_⟩
    cases hcreate : (gateway env (.mapping (.create t .kratos c₁.ulid oryId)) c₂ w).1 with
    | error e => exact trivial
    | ok row =>
        obtain ⟨-, db', hdb, hafter⟩ := Db.write_ok hcreate
        have hworld : (gateway env (.mapping (.create t .kratos c₁.ulid oryId)) c₂ w).2 = { w with db := db' } :=
          congrArg (fun db => { w with db := db }) hafter
        have hrows := (Db.insertMapping_ok hdb).1
        rw [hworld]
        refine ⟨⟨⟨t, .kratos, c₁.ulid, oryId, c₂.now⟩, ?_, rfl, rfl, rfl, rfl⟩, rfl, rfl, fun m hm => ?_⟩
        · show _ ∈ db'.idMappings
          rw [hrows]
          exact List.mem_cons_self
        · show _ ∈ db'.idMappings
          rw [hrows]
          exact List.mem_cons_of_mem _ hm
  · rw [h]
    exact trivial

/-- A membership is found where there is one, and only there. -/
theorem gateway_getMembership (env : Env) (c : Choice) (w : World) (t p : String) :
    (∀ row, (gateway env (.directory (.getMembership t p)) c w).1 = .ok row → Enrolled t p w) ∧
      (c.fault 0 = none → Enrolled t p w →
        ∃ row, gateway env (.directory (.getMembership t p)) c w = (.ok row, w)) ∧
      (c.fault 0 = none → ¬ Enrolled t p w →
        gateway env (.directory (.getMembership t p)) c w = (.error .membershipNotFound, w)) := by
  have hanswer : gateway env (.directory (.getMembership t p)) c w =
      ((Fault.answer Fault.sqlx w.directory (orNotFound .membershipNotFound id
          (w.directory.memberships.find? fun m => m.tenantId = t ∧ m.publicId = p), w.directory) (c.fault 0)).1,
        { w with directory := (Fault.answer Fault.sqlx w.directory (orNotFound .membershipNotFound id
          (w.directory.memberships.find? fun m => m.tenantId = t ∧ m.publicId = p), w.directory)
            (c.fault 0)).2 }) := rfl
  rw [hanswer]
  refine ⟨?_, ?_, ?_⟩
  · intro row hrow
    obtain ⟨-, hfound⟩ := Fault.answer_ok hrow
    cases hfind : w.directory.memberships.find? fun m => m.tenantId = t ∧ m.publicId = p with
    | none =>
        rw [hfind] at hfound
        cases hfound
    | some r =>
        have hmatch := List.find?_some hfind
        exact ⟨r, List.mem_of_find?_eq_some hfind, by simpa using hmatch⟩
  · rintro hc ⟨r, hr, ht, hp⟩
    cases hfind : w.directory.memberships.find? fun m => m.tenantId = t ∧ m.publicId = p with
    | none =>
        have hno := List.find?_eq_none.mp hfind r hr
        simp [ht, hp] at hno
    | some row =>
        rw [hc]
        exact ⟨row, rfl⟩
  · intro hc hnone
    cases hfind : w.directory.memberships.find? fun m => m.tenantId = t ∧ m.publicId = p with
    | none =>
        rw [hc]
        rfl
    | some r =>
        have hmatch := List.find?_some hfind
        exact absurd ⟨r, List.mem_of_find?_eq_some hfind, by simpa using hmatch⟩ hnone

/-- After it, there is a membership. -/
theorem sat_ensureMembership (env : Env) (t p : String) (schema : IdentitySchemaRow) (traits : Value) :
    (ensureMembership t p schema traits).run.Sat (gateway env) honestly (Prog.OnOk fun _ w' =>
      Enrolled t p w' ∧ w'.kratos = w.kratos ∧ w'.db = w.db ∧
        w'.directory.schemas = w.directory.schemas) w := by
  unfold ensureMembership
  refine Prog.sat_run_bind.mpr (Prog.sat_run_attempt.mpr (Prog.sat_perform.mpr ?_))
  rintro _ rfl c -
  refine ⟨trivial, ?_⟩
  have hsame : (gateway env (.directory (.getMembership t p)) c w).2 = w :=
    gateway_directory_same ((Fault.answer_snd (c.fault 0)).elim id id)
  rw [hsame]
  cases hget : (gateway env (.directory (.getMembership t p)) c w).1 with
  | ok row => exact ⟨(gateway_getMembership env c w t p).1 row hget, rfl, rfl, rfl⟩
  | error e =>
      cases e with
      | membershipNotFound =>
          refine Prog.sat_run_bind.mpr (Prog.sat_run_orThrow.mpr (Prog.sat_perform.mpr ?_))
          rintro _ rfl c₁ -
          refine ⟨trivial, ?_⟩
          cases hc : c₁.fault 0 with
          | none =>
              rw [gateway_upsertMembership_none env w hc]
              exact ⟨⟨_, Directory.mem_upsertMembership.mpr (.inl rfl), rfl, rfl⟩, rfl, rfl, rfl⟩
          | some f =>
              simp only [gateway, directoryHandler, hc, Fault.answer]
              exact trivial
      | _ => exact trivial

/-- Without faults it succeeds. -/
theorem sat_ensureMembership_unhindered (env : Env) (t p : String) (schema : IdentitySchemaRow) (traits : Value) :
    (ensureMembership t p schema traits).run.Sat (gateway env) unhindered (fun r w' =>
      r = .ok () ∧ w'.kratos = w.kratos ∧ w'.directory.schemas = w.directory.schemas) w := by
  unfold ensureMembership
  refine Prog.sat_run_bind.mpr (Prog.sat_run_attempt.mpr (Prog.sat_perform.mpr ?_))
  rintro _ rfl c hc
  refine ⟨trivial, ?_⟩
  have hf : c.fault 0 = none := hc.faultless fun h => h
  by_cases henrolled : Enrolled t p w
  · obtain ⟨row, hrow⟩ := (gateway_getMembership env c w t p).2.1 hf henrolled
    rw [hrow]
    exact ⟨rfl, rfl, rfl⟩
  · rw [(gateway_getMembership env c w t p).2.2 hf henrolled]
    refine Prog.sat_run_bind.mpr (Prog.sat_run_orThrow.mpr (Prog.sat_perform.mpr ?_))
    rintro _ rfl c₁ hc₁
    have hf₁ : c₁.fault 0 = none := hc₁.faultless fun h => h
    rw [gateway_upsertMembership_none env w hf₁]
    exact ⟨trivial, rfl, rfl, rfl⟩

/-- A login that is linked. -/
theorem sat_provision_linked (env : Env) (hkeyed : KratosKeyed w)
    (haccepts : Accepts lib cfg t email w schemaId claims) {kv : String × Value} {rest : List (String × Value)}
    (hlist : identifiedBy (t ++ ":" ++ email) w = kv :: rest) :
    (provision lib cfg t schemaId claims).run.Sat (gateway env) honestly
      (Prog.OnOk fun r w' => Linked t kv.1 r.publicId w w') w := by
  refine sat_provision_found (fun _ _ h => h) (fun _ _ _ h => h) (fun _ _ _ => trivial) haccepts
    (fun _ _ _ _ _ _ => trivial) (fun kv' rest' hlist' schema traits => ?_) fun hlist' schema traits => ?_
  · rw [hlist] at hlist'
    obtain ⟨rfl, rfl⟩ := List.cons_eq_cons.mp hlist'
    have hmem : kv ∈ identifiedBy (t ++ ":" ++ email) w := hlist ▸ List.mem_cons_self
    refine Prog.sat_run_bind.mpr (Prog.sat_run_mk.mpr ?_)
    have hid : documentId "identity missing id" kv.2 = .ok kv.1 := by
      unfold documentId
      rw [hkeyed.ids kv (List.mem_filter.mp hmem).1]
    rw [hid]
    refine Prog.sat_run_bind.mpr ((sat_linkIdentity env t kv.1).post fun r w₁ hr => ?_)
    cases r with
    | error e => exact trivial
    | ok p =>
        obtain ⟨⟨m, hm, hmapped⟩, hkratos, hdirectory, hmappings⟩ := hr
        refine Prog.sat_run_bind.mpr ((sat_ensureMembership env t p schema traits).post fun r w₂ hr => ?_)
        cases r with
        | error e => exact trivial
        | ok _ =>
            obtain ⟨henrolled, hkratos₂, hdb, hschemas⟩ := hr
            refine ⟨⟨⟨m, by rw [hdb]; exact hm, hmapped⟩, henrolled⟩, hkratos₂.trans hkratos, ?_, ?_⟩
            · rw [hschemas, hdirectory]
            · intro m' hm'
              rw [hdb]
              exact hmappings m' hm'
  · rw [hlist] at hlist'
    cases hlist'

/-- A login that was linked before. -/
theorem sat_provision_again (env : Env) (hkeyed : KratosKeyed w)
    (haccepts : Accepts lib cfg t email w schemaId claims) {kv : String × Value} {rest : List (String × Value)}
    (hlist : identifiedBy (t ++ ":" ++ email) w = kv :: rest) {p : String} (hlinked : LinkedIn t kv.1 p w) :
    (provision lib cfg t schemaId claims).run.Sat (gateway env) unhindered
      (fun r w' => w' = w ∧ ∃ identity, r = .ok identity ∧ identity.publicId = p) w := by
  have hfaultless : ∀ {op c w'}, Unhindered op c w' → ¬ IsTaken w' op → c.fault 0 = none := fun h => h.faultless
  refine sat_provision_found (fun _ _ h => h) (fun _ _ _ => Unhindered.honest) (fun _ _ _ => trivial) haccepts
    (fun op c e hc hf hop => ?_) (fun kv' rest' hlist' schema traits => ?_) fun hlist' schema traits => ?_
  · rw [hfaultless hc hop] at hf
    cases hf
  · rw [hlist] at hlist'
    obtain ⟨rfl, rfl⟩ := List.cons_eq_cons.mp hlist'
    have hmem : kv ∈ identifiedBy (t ++ ":" ++ email) w := hlist ▸ List.mem_cons_self
    obtain ⟨⟨m, hm, ht, hb, ho, rfl⟩, henrolled⟩ := hlinked
    refine Prog.sat_run_bind.mpr (Prog.sat_run_mk.mpr ?_)
    have hid : documentId "identity missing id" kv.2 = .ok kv.1 := by
      unfold documentId
      rw [hkeyed.ids kv (List.mem_filter.mp hmem).1]
    rw [hid]
    unfold linkIdentity
    refine Prog.sat_run_bind.mpr (Prog.sat_run_bind.mpr (Prog.sat_run_attempt.mpr (Prog.sat_perform.mpr ?_)))
    rintro _ rfl c hc
    refine ⟨trivial, ?_⟩
    rcases gateway_getPublicId env c w t .kratos kv.1 with ⟨m', hm', ⟨ht', hb', ho'⟩, h⟩ | ⟨hnone, -⟩ | ⟨e, hf, -⟩
    · have hsame : m' = m :=
        Db.mapping_unique hm' hm (.inr ⟨ht'.trans ht.symm, hb'.trans hb.symm, ho'.trans ho.symm⟩)
      subst hsame
      rw [h]
      unfold ensureMembership
      refine Prog.sat_run_bind.mpr (Prog.sat_run_bind.mpr (Prog.sat_run_attempt.mpr (Prog.sat_perform.mpr ?_)))
      rintro _ rfl c₁ hc₁
      obtain ⟨row, hrow⟩ := (gateway_getMembership env c₁ w t m'.publicId).2.1
        (hfaultless hc₁ fun h => h) henrolled
      rw [hrow]
      exact ⟨trivial, rfl, _, rfl, rfl⟩
    · exact absurd ⟨ht, hb, ho⟩ (hnone m hm)
    · rw [hfaultless hc fun h => h] at hf
      cases hf
  · rw [hlist] at hlist'
    cases hlist'

/-! ### No identity that the filter yields -/

/-- The payload of a new identity. -/
def newIdentity (cfg : IdentityConfig) (email : String) : Value :=
  .obj [("schema_id", .str cfg.kratosDefaultSchemaId), ("traits", .obj [("email", .str email)])]

theorem isTaken_newIdentity : IsTaken w (.kratos (.createIdentity (newIdentity cfg email))) ↔ Taken email w := by
  constructor
  · rintro ⟨email', hemail, htaken⟩
    cases hemail
    exact htaken
  · exact fun htaken => ⟨email, rfl, htaken⟩

/-- A login is refused if the email is taken. -/
theorem sat_provision_refused (env : Env) (haccepts : Accepts lib cfg t email w schemaId claims)
    (hlist : identifiedBy (t ++ ":" ++ email) w = []) (htaken : Taken email w) :
    (provision lib cfg t schemaId claims).run.Sat (gateway env) honestly (Prog.OnOk fun _ _ => False) w := by
  refine sat_provision_found (fun _ _ h => h) (fun _ _ _ h => h) (fun _ _ _ => trivial) haccepts
    (fun _ _ _ _ _ _ => trivial) (fun kv' rest' hlist' schema traits => ?_) fun hlist' schema traits => ?_
  · rw [hlist] at hlist'
    cases hlist'
  · unfold provisionIdentity
    refine Prog.sat_run_bind.mpr (Prog.sat_run_bind.mpr (Prog.sat_run_orThrow.mpr (Prog.sat_perform.mpr ?_)))
    rintro _ rfl c hc
    have htaken' : IsTaken w (.kratos (.createIdentity (newIdentity cfg email))) := isTaken_newIdentity.mpr htaken
    obtain ⟨message, hf⟩ := hc.2 htaken'
    have hanswer : (gateway env (.kratos (.createIdentity (newIdentity cfg email))) c w).1 =
        .error (.ory 409 message) := by
      simp only [gateway, kratosHandler, oryAnswer, hf, Fault.answer, id_eq]
    unfold newIdentity at hanswer
    rw [hanswer]
    exact ⟨trivial, trivial⟩

/-- A login whose email Kratos does not have creates an identity. -/
theorem sat_provision_created (env : Env) (haccepts : Accepts lib cfg t email w schemaId claims)
    (hlist : identifiedBy (t ++ ":" ++ email) w = []) (hfree : ¬ Taken email w) (htenant : w.db.HasTenant t) :
    (provision lib cfg t schemaId claims).run.Sat (gateway env) unhindered
      (fun r w' => (∃ identity, r = .ok identity) ∧ w'.directory.schemas = w.directory.schemas ∧
        ∃ id, w'.kratos.identities = (id, (newIdentity cfg email).insert "id" (.str id)) :: w.kratos.identities)
      w := by
  have hfaultless : ∀ {op c w'}, Unhindered op c w' → ¬ IsTaken w' op → c.fault 0 = none := fun h => h.faultless
  refine sat_provision_found (fun _ _ h => h) (fun _ _ _ => Unhindered.honest) (fun _ _ _ => trivial) haccepts
    (fun op c e hc hf hop => ?_) (fun kv' rest' hlist' schema traits => ?_) fun hlist' schema traits => ?_
  · rw [hfaultless hc hop] at hf
    cases hf
  · rw [hlist] at hlist'
    cases hlist'
  · unfold provisionIdentity
    refine Prog.sat_run_bind.mpr (Prog.sat_run_bind.mpr (Prog.sat_run_orThrow.mpr (Prog.sat_perform.mpr ?_)))
    rintro _ rfl c hc
    have hf : c.fault 0 = none := hfaultless hc fun h => hfree (isTaken_newIdentity.mp h)
    obtain ⟨id, hid⟩ : ∃ id, id = c.assigned.getD c.ulid := ⟨_, rfl⟩
    have hcreated : gateway env (.kratos (.createIdentity (newIdentity cfg email))) c w =
        (.ok ((newIdentity cfg email).insert "id" (.str id)), { w with kratos := { w.kratos with identities :=
          (id, (newIdentity cfg email).insert "id" (.str id)) :: w.kratos.identities } }) := by
      simp only [gateway, kratosHandler, oryAnswer, hf, Fault.answer_none, hid]
    have hnew : ∀ m ∈ w.db.idMappings, m.oryGlobalId ≠ id := hid ▸ hc.assigned
    generalize hw₁ : { w with kratos := { w.kratos with identities :=
      (id, (newIdentity cfg email).insert "id" (.str id)) :: w.kratos.identities } } = w₁ at hcreated
    have hdb : w₁.db = w.db := by rw [← hw₁]
    have hdirectory : w₁.directory = w.directory := by rw [← hw₁]
    have hkratos : w₁.kratos.identities =
        (id, (newIdentity cfg email).insert "id" (.str id)) :: w.kratos.identities := by rw [← hw₁]
    have hdocument : documentId "created identity missing id" ((newIdentity cfg email).insert "id" (.str id)) =
        .ok id := by
      unfold documentId newIdentity
      rw [asStr_index_insert]
    unfold newIdentity at hcreated hdocument
    rw [hcreated]
    refine ⟨trivial, ?_⟩
    refine Prog.sat_run_bind.mpr (Prog.sat_run_mk.mpr ?_)
    rw [hdocument]
    refine Prog.sat_run_bind.mpr (Prog.sat_run_attempt.mpr (Prog.sat_perform.mpr ?_))
    rintro _ rfl c₁ hc₁
    have hulid : gateway env .newUlid c₁ w₁ = (c₁.ulid, w₁) := rfl
    simp only [hulid]
    refine ⟨trivial, Prog.sat_run_bind.mpr (Prog.sat_run_orThrow.mpr (Prog.sat_perform.mpr ?_))⟩
    rintro _ rfl c₂ hc₂
    obtain ⟨db', hinsert⟩ := insertMapping_new (x := id) c₂.now (hdb.symm ▸ htenant)
      hc₁.ulid fun m hm h => hnew m (hdb ▸ hm) h.2.2
    have hmapped : gateway env (.mapping (.create t .kratos c₁.ulid id)) c₂ w₁ =
        (.ok ⟨t, .kratos, c₁.ulid, id, c₂.now⟩, { w₁ with db := db' }) := by
      simp only [gateway, mappingHandler, Db.write, hfaultless hc₂ fun h => h, hinsert, Fault.answer_none]
    rw [hmapped]
    refine ⟨trivial, Prog.sat_run_bind.mpr ?_⟩
    refine (sat_ensureMembership_unhindered env t c₁.ulid schema traits).post fun r w₂ hr => ?_
    obtain ⟨rfl, hkratos₂, hschemas⟩ := hr
    refine ⟨⟨_, rfl⟩, ?_, id, ?_⟩
    · rw [hschemas]
      exact congrArg Directory.schemas hdirectory
    · rw [hkratos₂]
      exact hkratos

/-- **What `CreateIdentity` leaves**, after a success: the identity has the email at Kratos, and is mapped and a member
under its public id. -/
theorem createIdentity_registers (env : Env) (ctx : RequestContext) (req : CreateIdentityRequest) :
    (createIdentity cfg ctx req).run.Sat (gateway env) anyGatewayRun (Prog.OnOk fun identity w' =>
      ∃ m email, RegisteredAs identity.tenantId email m w' ∧ m.publicId = identity.id ∧
        identity.traits.bind emailTrait = some email) w := by
  unfold createIdentity
  refine Prog.sat_run_bind.mpr (Prog.sat_run_mk.mpr ?_)
  cases ht : requireTenantScope ctx scopeIdentityAdmin with
  | error e => exact trivial
  | ok t =>
  refine Prog.sat_run_bind.mpr ((Prog.sat_true fun _ _ _ => trivial).post fun r w _ => ?_)
  cases r with
  | error e => exact trivial
  | ok schema =>
  refine Prog.sat_run_bind.mpr (Prog.sat_run_mk.mpr ?_)
  cases htraits : requestTraits cfg.compile schema req.traits with
  | error e => exact trivial
  | ok checked =>
  obtain ⟨traits, email⟩ := checked
  obtain ⟨hemail, -⟩ := requestTraits_email htraits
  obtain ⟨fields, hfields⟩ := buildKratosIdentityPayload_obj cfg.kratosDefaultSchemaId email req.password
  dsimp only
  unfold registerIdentity
  refine Prog.sat_run_bind.mpr (Prog.sat_run_bind.mpr (Prog.sat_run_orThrow.mpr
    (sat_anyGatewayRun_perform fun c => ?_)))
  rcases gateway_createKratosIdentity env c w (buildKratosIdentityPayload cfg.kratosDefaultSchemaId email
    req.password) with ⟨e, he⟩ | ⟨id, doc, hok, hdoc, hidentities⟩
  · rw [he]
    exact trivial
  rw [hok]
  generalize (gateway env (.kratos (.createIdentity (buildKratosIdentityPayload cfg.kratosDefaultSchemaId email
    req.password))) c w).2 = w₁ at hidentities ⊢
  have hkratos : kratosEmail doc = some email := by
    rw [hdoc, kratosEmail_insert_id, kratosEmail_buildKratosIdentityPayload]
  have hid : (doc.index "id").asStr = some id := by rw [hdoc, hfields, asStr_index_insert]
  refine Prog.sat_run_bind.mpr (Prog.sat_run_mk.mpr ?_)
  rw [hid]
  refine Prog.sat_run_bind.mpr (Prog.sat_run_attempt.mpr (sat_anyGatewayRun_perform fun c₁ => ?_))
  have hulid : gateway env .newUlid c₁ w₁ = (c₁.ulid, w₁) := rfl
  simp only [hulid]
  refine Prog.sat_run_bind.mpr (Prog.sat_run_orThrow.mpr (sat_anyGatewayRun_perform fun c₂ => ?_))
  cases hcreate : (gateway env (.mapping (.create t .kratos c₁.ulid id)) c₂ w₁).1 with
  | error e => exact trivial
  | ok row =>
  obtain ⟨-, db', hdb, hafter⟩ := Db.write_ok hcreate
  have hworld : (gateway env (.mapping (.create t .kratos c₁.ulid id)) c₂ w₁).2 = { w₁ with db := db' } :=
    congrArg (fun db => { w₁ with db := db }) hafter
  rw [hworld]
  unfold enrollIdentity
  refine Prog.sat_run_bind.mpr (Prog.sat_run_bind.mpr (Prog.sat_run_attempt.mpr
    (sat_anyGatewayRun_perform fun c₃ => ?_)))
  cases hc₃ : c₃.fault 0 with
  | some f =>
      have hfault : ∃ e, (gateway env (.directory (.upsertMembership t c₁.ulid schema.schemaId schema.version
          traits)) c₃ { w₁ with db := db' }).1 = .error e := by
        refine ⟨Fault.sqlx f.error, ?_⟩
        simp only [gateway, directoryHandler, hc₃, Fault.answer]
      obtain ⟨e, he⟩ := hfault
      rw [he]
      refine Prog.sat_run_bind.mpr (Prog.sat_run_attempt.mpr (sat_anyGatewayRun_perform fun c₄ => ?_))
      exact trivial
  | none =>
      rw [gateway_upsertMembership_none env _ hc₃]
      refine ⟨⟨t, .kratos, c₁.ulid, id, c₂.now⟩, email, ⟨?_, rfl, rfl, ⟨doc, ?_, hkratos⟩, ?_⟩, rfl, ?_⟩
      · show _ ∈ db'.idMappings
        rw [(Db.insertMapping_ok hdb).1]
        exact List.mem_cons_self
      · show _ ∈ w₁.kratos.identities
        rw [hidentities]
        exact List.mem_cons_self
      · exact ⟨_, Directory.mem_upsertMembership.mpr (.inl rfl), rfl, rfl⟩
      · cases traits with
        | obj fields => exact hemail
        | _ => cases hemail

end login

/-! ## One login after another -/

/-- Provisioning is idempotent for the email: if a login succeeds, then every later one with claims of that email
succeeds with the same public id and changes nothing; and a login returns the identity that `CreateIdentity` has
left. -/
structure ProvisionsOnce (env : Env) (lib : Libraries) (cfg : IdentityConfig) (t email : String) (w : World)
    (schemaId : String) (claims : Value) : Prop where
  again : ∀ o identity w', (provision lib cfg t schemaId claims).run.run (gateway env) o w = (.ok identity, w') →
    (∀ ev ∈ (provision lib cfg t schemaId claims).run.events (gateway env) o w,
      HonestKratos ev.op ev.choice ev.before) →
    ∀ schemaId' claims' o', Accepts lib cfg t email w' schemaId' claims' →
      (∀ ev ∈ (provision lib cfg t schemaId' claims').run.events (gateway env) o' w',
        Unhindered ev.op ev.choice ev.before) →
      ∃ identity', (provision lib cfg t schemaId' claims').run.run (gateway env) o' w' = (.ok identity', w') ∧
        identity'.publicId = identity.publicId
  created : ∀ m o, RegisteredAs t email m w →
    (∀ ev ∈ (provision lib cfg t schemaId claims).run.events (gateway env) o w,
      Unhindered ev.op ev.choice ev.before) →
    ∃ identity w', (provision lib cfg t schemaId claims).run.run (gateway env) o w = (.ok identity, w') ∧
      identity.publicId = m.publicId

section logins

variable {env : Env} {lib : Libraries} {cfg : IdentityConfig} {t email schemaId : String} {claims : Value}
  {w : World}

/-- A login is not linked to the identity that has the email. -/
theorem Linked.not_registered (hkeyed : KratosKeyed w) {w' : World} {kv : String × Value}
    (hkv : kv ∈ identifiedBy (t ++ ":" ++ email) w) {p : String} (h : Linked t kv.1 p w w') {m : IdMappingRow}
    (hm : RegisteredAs t email m w) : p ≠ m.publicId := by
  intro hp
  obtain ⟨⟨m', hm', -, -, ho, hp'⟩, -⟩ := h.linked
  have hsame : m' = m := Db.mapping_unique hm' (h.mappings m hm.mapped) (.inl (hp'.trans hp))
  subst hsame
  obtain ⟨doc, hdoc, hemail⟩ := hm.identity
  obtain ⟨hmem, hscoped⟩ := List.mem_filter.mp hkv
  have hscoped : kratosEmail kv.2 = some (t ++ ":" ++ email) := of_decide_eq_true hscoped
  have hkey : (m'.oryGlobalId, doc) = kv := by
    by_contra hne
    have hsymm : Std.Symm fun kv kv' : String × Value => kv.1 ≠ kv'.1 := ⟨fun _ _ h => h.symm⟩
    exact hkeyed.keys.forall hdoc hmem hne ho
  rw [← hkey] at hscoped
  exact scoped_ne t email (Option.some.inj (hscoped.symm.trans hemail))

/-- **Provisioning is idempotent for an email** just if Kratos has an identity under `tenant:email` or under the email,
and the tenant has none of the email: in particular not when the first login creates the identity, nor when
`CreateIdentity` did. -/
theorem provisions_once_iff (env : Env) (hkeyed : KratosKeyed w) (htenant : w.db.HasTenant t)
    (haccepts : Accepts lib cfg t email w schemaId claims) :
    ProvisionsOnce env lib cfg t email w schemaId claims ↔
      (Taken (t ++ ":" ++ email) w ∨ Taken email w) ∧ ∀ m, ¬ RegisteredAs t email m w := by
  have hrefused : ∀ {w schemaId claims o}, Accepts lib cfg t email w schemaId claims →
      ¬ Taken (t ++ ":" ++ email) w → Taken email w →
      (∀ ev ∈ (provision lib cfg t schemaId claims).run.events (gateway env) o w,
        HonestKratos ev.op ev.choice ev.before) →
      ∀ identity, ((provision lib cfg t schemaId claims).run.run (gateway env) o w).1 ≠ .ok identity := by
    intro w schemaId claims o haccepts hscoped htaken hhonest identity hok
    have hlist : identifiedBy (t ++ ":" ++ email) w = [] := not_not.mp fun h => hscoped (taken_iff.mpr h)
    have hend := ((sat_provision_refused env haccepts hlist htaken).run_events (fun _ => rfl) hhonest).2
    rw [hok] at hend
    exact hend
  constructor
  · intro h
    obtain ⟨o, ho⟩ := Prog.exists_choices (h := gateway env) exists_unhindered
      (provision lib cfg t schemaId claims).run w
    have hhonest := fun ev hev => (ho ev hev).honest
    constructor
    · by_contra hfree
      rw [not_or] at hfree
      have hlist : identifiedBy (t ++ ":" ++ email) w = [] := not_not.mp fun h => hfree.1 (taken_iff.mpr h)
      obtain ⟨⟨identity, hok⟩, hschemas, id, hidentities⟩ :=
        ((sat_provision_created env haccepts hlist hfree.2 htenant).run_events (fun _ => rfl) ho).2
      -- the second login finds nothing under `tenant:email`, and is refused
      generalize hrun : (provision lib cfg t schemaId claims).run.run (gateway env) o w = run at hok hschemas hidentities
      obtain ⟨r, w'⟩ := run
      subst hok
      have haccepts' : Accepts lib cfg t email w' schemaId claims := by
        unfold Accepts
        rw [hschemas]
        exact haccepts
      have hemail : kratosEmail ((newIdentity cfg email).insert "id" (.str id)) = some email :=
        kratosEmail_insert_id _ _
      have hscoped : ¬ Taken (t ++ ":" ++ email) w' := by
        rintro ⟨kv, hkv, hscoped⟩
        rw [hidentities] at hkv
        rcases List.mem_cons.mp hkv with rfl | hkv
        · exact scoped_ne t email (Option.some.inj (hscoped.symm.trans hemail))
        · exact hfree.1 ⟨kv, hkv, hscoped⟩
      have htaken : Taken email w' := by
        refine ⟨(id, _), ?_, hemail⟩
        rw [hidentities]
        exact List.mem_cons_self
      obtain ⟨o', ho'⟩ := Prog.exists_choices (h := gateway env) exists_unhindered
        (provision lib cfg t schemaId claims).run w'
      obtain ⟨identity', hrun', -⟩ := h.again o identity w' hrun hhonest schemaId claims o' haccepts' ho'
      exact hrefused haccepts' hscoped htaken (fun ev hev => (ho' ev hev).honest) identity'
        (congrArg Prod.fst hrun')
    · intro m hm
      obtain ⟨identity, w', hrun, hp⟩ := h.created m o hm ho
      obtain ⟨doc, hdoc, hemail⟩ := hm.identity
      by_cases hscoped : Taken (t ++ ":" ++ email) w
      · cases hlist : identifiedBy (t ++ ":" ++ email) w with
        | nil => exact taken_iff.mp hscoped hlist
        | cons kv rest =>
            have hlinked := ((sat_provision_linked env hkeyed haccepts hlist).run_events (fun _ => rfl) hhonest).2
            rw [hrun] at hlinked
            exact hlinked.not_registered hkeyed (hlist ▸ List.mem_cons_self) hm hp
      · exact hrefused haccepts hscoped ⟨_, hdoc, hemail⟩ hhonest identity (congrArg Prod.fst hrun)
  · rintro ⟨htaken, hnone⟩
    refine ⟨fun o identity w' hrun hhonest schemaId' claims' o' haccepts' ho' => ?_, fun m o hm => absurd hm (hnone m)⟩
    by_cases hscoped : Taken (t ++ ":" ++ email) w
    · cases hlist : identifiedBy (t ++ ":" ++ email) w with
      | nil => exact absurd hlist (taken_iff.mp hscoped)
      | cons kv rest =>
          have hlinked := ((sat_provision_linked env hkeyed haccepts hlist).run_events (fun _ => rfl) hhonest).2
          rw [hrun] at hlinked
          have hkratos := hlinked.kratos
          have hkeyed' : KratosKeyed w' := ⟨by rw [hkratos]; exact hkeyed.ids, by rw [hkratos]; exact hkeyed.keys⟩
          have hlist' : identifiedBy (t ++ ":" ++ email) w' = kv :: rest := by
            unfold identifiedBy at hlist ⊢
            rw [hkratos]
            exact hlist
          obtain ⟨hsame, identity', hok, hp⟩ := ((sat_provision_again env hkeyed' haccepts' hlist'
            hlinked.linked).run_events (fun _ => rfl) ho').2
          exact ⟨identity', Prod.ext hok hsame, hp⟩
    · exact absurd (congrArg Prod.fst hrun)
        (hrefused haccepts hscoped (htaken.resolve_left hscoped) hhonest identity)

/-- What the upstream provider says of alice. -/
def aliceClaims : Value := .obj [("email", .str " Alice@acme.test"), ("email_verified", .bool true)]

/-- Every schema accepts everything. -/
def anyTraits : IdentityConfig := ⟨"default", fun _ => .ok fun _ => .ok ()⟩

theorem accepts_aliceClaims {w : World} (hw : w.directory = acmeWithSchema.directory) :
    Accepts noLibraries anyTraits "acme" "alice@acme.test" w "default" aliceClaims := by
  unfold Accepts
  rw [hw]
  exact ⟨_, _, _, rfl, rfl, rfl, rfl, rfl⟩

/-- The tenant acme, and an identity whose email at Kratos begins with the tenant. -/
def acmeScoped : World :=
  { acmeWithSchema with kratos := ⟨[("ory-alice", .obj [("id", .str "ory-alice"),
    ("traits", .obj [("email", .str "acme:alice@acme.test")])])], []⟩ }

/-- Alice's logins find that identity every time. -/
theorem provisions_scoped_once :
    ProvisionsOnce .firstRow noLibraries anyTraits "acme" "alice@acme.test" acmeScoped "default" aliceClaims := by
  have hkeyed : KratosKeyed acmeScoped := by
    refine ⟨?_, List.pairwise_singleton _ _⟩
    intro kv hkv
    rw [List.mem_singleton.mp hkv]
    rfl
  refine (provisions_once_iff .firstRow hkeyed ⟨_, List.mem_cons_self, rfl⟩ (accepts_aliceClaims rfl)).mpr
    ⟨.inl ⟨_, List.mem_cons_self, rfl⟩, ?_⟩
  rintro m hm
  cases hm.mapped

/-- A first login of alice: Kratos has no identity under `acme:alice@acme.test`. -/
def firstLogin : Except ProvisionError ProvisionedIdentity × World :=
  (provision noLibraries anyTraits "acme" "default" aliceClaims).run.run (gateway .firstRow)
    (fun _ => { Choice.plain "01" 0 with doc := .arr [] }) acmeWithSchema

/-- The answers of Kratos to the second login: there is still none, and the email is taken. -/
def secondAnswers (n : ℕ) : Choice :=
  { Choice.plain "02" 0 with
    doc := .arr [], fault := fun _ => if n = 2 then some ⟨false, .ory 409 "taken"⟩ else none }

/-- The second login of alice is refused. -/
theorem second_login_refused :
    firstLogin.1 = .ok ⟨"acme", "01", "01", "alice@acme.test"⟩ ∧
      firstLogin.2.kratos.identities.map (fun kv => (kv.1, kratosEmail kv.2)) = [("01", some "alice@acme.test")] ∧
      (∀ ev ∈ (provision noLibraries anyTraits "acme" "default" aliceClaims).run.events (gateway .firstRow)
        secondAnswers firstLogin.2, HonestKratos ev.op ev.choice ev.before) ∧
      ((provision noLibraries anyTraits "acme" "default" aliceClaims).run.run (gateway .firstRow) secondAnswers
        firstLogin.2).1 = .error (.kratos (.ory 409 "taken")) := by
  refine ⟨rfl, rfl, ?_, rfl⟩
  have hevents : (provision noLibraries anyTraits "acme" "default" aliceClaims).run.events (gateway .firstRow)
      secondAnswers firstLogin.2 =
      [⟨.directory (.getBySchemaId "acme" "default"), secondAnswers 0, firstLogin.2⟩,
        ⟨.kratos (.listIdentitiesByIdentifier "acme" "acme:alice@acme.test"), secondAnswers 1, firstLogin.2⟩,
        ⟨.kratos (.createIdentity (newIdentity anyTraits "alice@acme.test")), secondAnswers 2, firstLogin.2⟩] := rfl
  rw [hevents]
  intro ev hev
  simp only [List.mem_cons, List.not_mem_nil, or_false] at hev
  rcases hev with rfl | rfl | rfl
  · exact ⟨(fun t identifier h => by cases h), fun h => h.elim⟩
  · refine ⟨fun t identifier h => ?_, fun h => h.elim⟩
    cases h
    rfl
  · exact ⟨(fun t identifier h => by cases h), fun _ => ⟨"taken", rfl⟩⟩

end logins

end SsoGateway
