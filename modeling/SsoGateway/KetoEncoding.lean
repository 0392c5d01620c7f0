import SsoGateway.MirrorEffects
import SsoGateway.PermissionReads

/-!
# Tuples on their way through Keto

A key of a tenant is written to Keto with the tenant in front of its objects, a reference to a subject set as
that set; and read back as the key. A check asks for the subject by its text, whatever it refers to.

* `ketoTupleKey_ketoTuple` — what was written reads as the key.
* `ketoChecked`, `check_asks` — the tuple that a check asks about.
* `keto_kept_iff` — the key comes back, and is checked as it was written, just where its subject is no set.
* `group_unchecked` — a group that was given a relation, and is denied it.

Source: `services/permission.rs`, `sso-ory-client/src/keto.rs`.
-/

namespace SsoGateway

open Lib

/-! ## Writing and reading -/

section codec

variable {tenantId : String}

@[simp] theorem stripTenantObjectPrefix_tenantObject (tenantId object : String) :
    stripTenantObjectPrefix tenantId (tenantObject tenantId object) = some object :=
  stripStart_append (tenantId ++ ":") object

/-- What was written reads as the key. -/
theorem ketoTupleKey_ketoTuple (tenantId : String) (key : RelationTupleKey) :
    ketoTupleKey tenantId (ketoTuple tenantId key) = key := by
  obtain ⟨n, o, r, subjectId⟩ := key
  rcases hset : subjectSet subjectId with _ | ⟨n', o', r'⟩
  · simp [ketoTupleKey, ketoTuple, ketoSubject, hset]
  · simp [ketoTupleKey, ketoTuple, ketoSubject, hset, ← subjectSet_eq_some hset]

end codec

/-! ## Checking -/

/-- The tuple that a check asks Keto about. Source: `KetoClient` `check_permission`. -/
def ketoChecked (tenantId : String) (key : RelationTupleKey) : KetoTuple :=
  ⟨key.nspace, tenantObject tenantId key.object, key.relation, .id key.subjectId⟩

/-- A check of a tuple by its subject id. -/
def KetoEngine.ask (engine : KetoEngine) (tuples : List KetoTuple) (x : KetoTuple) : Option KetoReply :=
  match x.subject with
  | .id i => some (engine.check tuples x.nspace x.object x.relation i)
  | .set _ _ _ => none

/-- A check of a key asks about that tuple. -/
theorem check_asks (env : ReadEnv) (tuples : List KetoTuple) (tenantId : String) (key : RelationTupleKey)
    (opts : QueryOptions) : ∃ reply, env.engine.ask tuples (ketoChecked tenantId key) = some reply ∧
      Keto.check env tuples tenantId key.nspace key.object key.relation key.subjectId opts = (do
        rejectUnsupportedOpts opts
        Except.mapError .ofOryClientError do
          let reply ← env.ask reply
          reply.allowed) :=
  ⟨_, rfl, rfl⟩

/-- The key reads as it was written, and is checked as it was written. -/
def KeptByKeto (tenantId : String) (key : RelationTupleKey) : Prop :=
  ketoTupleKey tenantId (ketoTuple tenantId key) = key ∧ ketoChecked tenantId key = ketoTuple tenantId key

/-- **Checked as written.** A key comes back from Keto as it was written, and a check of it asks about the tuple
that was written, exactly if its subject is not read as a subject set. -/
theorem keto_kept_iff (tenantId : String) (key : RelationTupleKey) :
    KeptByKeto tenantId key ↔ subjectSet key.subjectId = none := by
  unfold KeptByKeto
  rw [and_iff_right (ketoTupleKey_ketoTuple tenantId key)]
  rcases hset : subjectSet key.subjectId with _ | ⟨n, o, r⟩
  · simp [ketoChecked, ketoTuple, ketoSubject, hset]
  · simp [ketoChecked, ketoTuple, ketoSubject, hset]

/-- The members of the group of engineers, as viewers of a document. -/
def engineersView : RelationTupleKey := ⟨"document", "1", "viewer", "group:engineers#member"⟩

/-- Keto follows subject sets, and nothing fails. -/
def ketoReads : ReadEnv where
  engine := .traversing 5 100 (by decide)
  publicId _ _ _ := none
  base64Encode := id
  base64Decode := some
  fault := none

/-- The group is made a viewer; asked whether it is one, Keto says no. -/
theorem group_unchecked :
    ¬ KeptByKeto "acme" engineersView ∧
    (Keto.check ketoReads [ketoTuple "acme" engineersView] "acme" "document" "1" "viewer"
      "group:engineers#member" ⟨none, [], none⟩) = .ok false ∧
    ketoTuple "acme" engineersView =
      ⟨"document", "acme:1", "viewer", .set "group" "acme:engineers" "member"⟩ ∧
    ketoChecked "acme" engineersView = ⟨"document", "acme:1", "viewer", .id "group:engineers#member"⟩ := by
  refine ⟨?_, by rfl, by decide, by decide⟩
  rw [KeptByKeto]
  decide

end SsoGateway
