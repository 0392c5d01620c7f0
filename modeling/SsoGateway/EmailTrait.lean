import SsoGateway.IdentityUpdates
import SsoGateway.MappingIdentity
import SsoGateway.ScimCalls

/-!
# One identity, one email

The email of an identity is kept twice: in Kratos, and in the traits of its membership. Five
operations write them: `createIdentity` and `updateIdentity` of the admin service, `createUser` and
`updateUser` of SCIM, and `submitSettingsFlow` of self-service.

* `OneEmail`, `EmailKept` — the copies agree on a canonical email; one that is set stays.
* `EmailStep`, `emailStates` — sequences of operations, failed ones included.
* `Considerate` — the condition on a step: SCIM leaves the email of a membership alone, a membership
  is made from a canonical email, and the two writes of a first email are not torn apart.
* `one_email` — under it the copies agree in every state, and an email that is set stays.
* `scim_update_user_changes_email` — SCIM gives an identity with a membership another email.
-/

namespace SsoGateway

open Lib

/-! ## Emails -/

/-- The form `normalize_traits` gives an email. -/
def Canonical (email : String) : Prop := toAsciiLowercase (trim email) = email

instance (email : String) : Decidable (Canonical email) := inferInstanceAs (Decidable (_ = _))

/-- The email of an identity document of Kratos. -/
def kratosEmail (identity : Value) : Option String := emailTrait (identity.index "traits")

theorem emailTrait_eq_of_extractEmail {traits : Value} {email : String}
    (h : extractEmail traits = .ok email) : emailTrait traits = some email ∧ email ≠ "" := by
  unfold extractEmail at h
  split at h
  · rename_i found hfound
    cases h
    obtain ⟨hemail, hne⟩ := Option.filter_eq_some_iff.mp hfound
    exact ⟨hemail, by simpa using hne⟩
  · cases h

/-- A normalized document has a canonical email, if it has one. -/
theorem canonical_of_normalizeTraits {traits : Value} {email : String}
    (h : emailTrait (normalizeTraits traits) = some email) : Canonical email := by
  unfold normalizeTraits at h
  split at h
  · rename_i found hfound
    dsimp only at h
    split at h
    · unfold emailTrait at h
      rcases Value.get_setIndex_self traits "email"
          (.str (toAsciiLowercase (trim found))) with hget | hget
      · rw [hget] at h
        have heq : toAsciiLowercase (trim found) = email := Option.some.inj h
        rw [← heq]
        exact normalize_normalize found
      · rw [hget] at h
        cases h
    · rename_i hsame
      have heq : found = email := Option.some.inj (hfound.symm.trans h)
      rw [← heq]
      exact not_not.mp hsame
  · rename_i hnone
    exact absurd (hnone.symm.trans h) nofun

/-- The traits of a request that passed the checks, and their email. -/
theorem requestTraits_email {compile : SchemaCompiler} {schema : IdentitySchemaRow}
    {request : Option (Except String Value)} {traits : Value} {email : String}
    (h : requestTraits compile schema request = .ok (traits, email)) :
    emailTrait traits = some email ∧ Canonical email := by
  have hchecked : ∀ document, (do
      validateTraits compile schema.schemaJson (normalizeTraits document)
      let found ← extractEmail (normalizeTraits document)
      return (normalizeTraits document, found)) = .ok (traits, email) →
      emailTrait traits = some email ∧ Canonical email := by
    intro document h
    obtain ⟨-, -, h⟩ := except_bind_eq_ok.mp h
    obtain ⟨found, hfound, h⟩ := except_bind_eq_ok.mp h
    cases h
    have hemail := (emailTrait_eq_of_extractEmail hfound).1
    exact ⟨hemail, canonical_of_normalizeTraits hemail⟩
  unfold requestTraits at h
  rcases request with _ | (e | document)
  · exact hchecked _ h
  · cases h
  · exact hchecked _ h

/-- Inserting fields into an object leaves an object. -/
theorem exists_foldl_insert (fields : List (String × Value)) (entries : List (String × Value)) :
    ∃ entries', fields.foldl (fun (doc : Value) field => doc.insert field.1 field.2)
      (.obj entries) = .obj entries' := by
  induction fields generalizing entries with
  | nil => exact ⟨entries, rfl⟩
  | cons field fields ih => exact ih _

/-- An update ends with the traits it was given. -/
theorem kratosEmail_updatedIdentity (id : String) (old traits : Value)
    (fields : List (String × Value)) :
    kratosEmail (updatedIdentity id old (.obj (fields ++ [("traits", traits)]))) =
      emailTrait traits := by
  obtain ⟨entries, hentries⟩ := exists_foldl_insert fields (old.asObject.getD [])
  have hget : (updatedIdentity id old (.obj (fields ++ [("traits", traits)]))).get "traits" =
      some traits := by
    unfold updatedIdentity
    rw [Value.get_insert_of_ne (by decide)]
    show Value.get (List.foldl _ _ (fields ++ [("traits", traits)])) "traits" = some traits
    rw [List.foldl_append, hentries]
    exact Value.lookup_upsert_self "traits" _ entries
  simp [kratosEmail, Value.index, hget]

/-- A new identity has the traits it was given. -/
theorem kratosEmail_insert_id (payload : Value) (id : String) :
    kratosEmail (payload.insert "id" (.str id)) = kratosEmail payload := by
  unfold kratosEmail Value.index
  rw [Value.get_insert_of_ne (by decide)]

theorem kratosEmail_buildKratosIdentityPayload (schemaId email password : String) :
    kratosEmail (buildKratosIdentityPayload schemaId email password) = some email := by
  unfold kratosEmail Value.index buildKratosIdentityPayload
  dsimp only
  split
  · rfl
  · rw [Value.get_setIndex_of_ne (by decide)]
    rfl

theorem emailTrait_identityTraits (identity : Value) :
    emailTrait (identityTraits identity) = kratosEmail identity := by
  unfold identityTraits kratosEmail
  split
  · rename_i fields hfields
    rw [hfields]
  · rename_i hother
    rcases htraits : identity.index "traits" with _ | _ | _ | _ | _ | fields
    case obj => exact absurd htraits (hother fields)
    all_goals rfl

/-- A profile update keeps the email that is stored. -/
theorem emailTrait_mergeProfile {stored : Value} {email : String}
    (h : emailTrait stored = some email) (submitted : Value) :
    emailTrait (mergeProfile stored submitted) = some email := by
  cases stored with
  | obj entries =>
      obtain ⟨entries', hentries⟩ := exists_foldl_insert (submitted.asObject.getD []) entries
      have hget : (mergeProfile (.obj entries) submitted).get "email" = some (.str email) := by
        unfold mergeProfile
        dsimp only
        rw [hentries, h]
        exact Value.lookup_upsert_self "email" _ entries'
      unfold emailTrait
      rw [hget]
      rfl
  | _ => cases h

/-! ## The two copies -/

/-- The copies of a mapped identity agree, on a canonical email. -/
def SameEmail (w : World) (m : IdMappingRow) : Prop :=
  ∀ r ∈ w.directory.memberships, r.tenantId = m.tenantId → r.publicId = m.publicId →
    ∀ identity, w.kratos.identities.lookup m.oryGlobalId = some identity →
      ∃ email, emailTrait r.traits = some email ∧ kratosEmail identity = some email ∧
        Canonical email

/-- Every identity that has a membership has one canonical email. -/
def OneEmail (w : World) : Prop :=
  ∀ m ∈ w.db.idMappings, m.backend = .kratos → SameEmail w m

/-- An email that a membership has stays. -/
def EmailKept (w w' : World) : Prop :=
  ∀ r ∈ w.directory.memberships, ∀ email, emailTrait r.traits = some email → email ≠ "" →
    ∃ r' ∈ w'.directory.memberships, r'.tenantId = r.tenantId ∧ r'.publicId = r.publicId ∧
      emailTrait r'.traits = some email

theorem EmailKept.refl (w : World) : EmailKept w w :=
  fun r hr _ hemail _ => ⟨r, hr, rfl, rfl, hemail⟩

theorem EmailKept.trans {w₁ w₂ w₃ : World} (h : EmailKept w₁ w₂) (h' : EmailKept w₂ w₃) :
    EmailKept w₁ w₃ := by
  intro r hr email hemail hne
  obtain ⟨r₂, hr₂, ht₂, hp₂, hemail₂⟩ := h r hr email hemail hne
  obtain ⟨r₃, hr₃, ht₃, hp₃, hemail₃⟩ := h' r₂ hr₂ email hemail₂ hne
  exact ⟨r₃, hr₃, ht₃.trans ht₂, hp₃.trans hp₂, hemail₃⟩

/-- What holds between two operations, of the identities in `P`. -/
structure EmailInv (P : IdMappingRow → Prop) (w : World) : Prop where
  /-- No object of a backend is mapped twice. -/
  sole : SoleRows w
  /-- A membership belongs to a mapped identity. -/
  owned : ∀ r ∈ w.directory.memberships, ∃ m ∈ w.db.idMappings,
    m.backend = .kratos ∧ m.tenantId = r.tenantId ∧ m.publicId = r.publicId
  agreed : ∀ m ∈ w.db.idMappings, m.backend = .kratos → P m → SameEmail w m

/-- The mappings, the memberships and the identities are the same. -/
structure SameRecords (w w' : World) : Prop where
  idMappings : w'.db.idMappings = w.db.idMappings
  memberships : w'.directory.memberships = w.directory.memberships
  identities : w'.kratos.identities = w.kratos.identities

theorem SameRecords.refl (w : World) : SameRecords w w := ⟨rfl, rfl, rfl⟩

theorem SameRecords.trans {w₁ w₂ w₃ : World} (h : SameRecords w₁ w₂) (h' : SameRecords w₂ w₃) :
    SameRecords w₁ w₃ where
  idMappings := h'.idMappings.trans h.idMappings
  memberships := h'.memberships.trans h.memberships
  identities := h'.identities.trans h.identities

section writes

variable {P P' : IdMappingRow → Prop} {w w' : World}

theorem SameRecords.emailKept (h : SameRecords w w') : EmailKept w w' := by
  unfold EmailKept
  rw [h.memberships]
  exact EmailKept.refl w

theorem EmailInv.mono (hw : EmailInv P w) (h : ∀ m, P' m → P m) : EmailInv P' w :=
  ⟨hw.sole, hw.owned, fun m hm hb hP => hw.agreed m hm hb (h m hP)⟩

theorem EmailInv.same (hw : EmailInv P w) (h : SameRecords w w') : EmailInv P w' := by
  refine ⟨?_, ?_, ?_⟩
  · unfold SoleRows
    rw [h.idMappings]
    exact hw.sole
  · rw [h.idMappings, h.memberships]
    exact hw.owned
  · unfold SameEmail
    rw [h.idMappings, h.memberships, h.identities]
    exact hw.agreed

/-- A public id belongs to one mapping. -/
theorem mapping_eq_of_publicId {db : Db} {m m' : IdMappingRow} (hm : m ∈ db.idMappings)
    (hm' : m' ∈ db.idMappings) (h : m.publicId = m'.publicId) : m = m' :=
  db.mapping_unique hm hm' (.inl h)

/-- A mapping is added for an object that had none. -/
theorem EmailInv.insertMapping (hw : EmailInv P w) {m : IdMappingRow} {db' : Db}
    (hnew : Unmapped m.backend m.oryGlobalId w) (h : w.db.insertMapping m = .ok db') :
    EmailInv P { w with db := db' } := by
  obtain ⟨hmappings, -, -, -, hfree, -⟩ := Db.insertMapping_ok h
  refine ⟨?_, ?_, ?_⟩
  · intro m₁ hm₁ m₂ hm₂ hb ho
    dsimp only at hm₁ hm₂
    rw [hmappings] at hm₁ hm₂
    rcases List.mem_cons.mp hm₁ with rfl | hold₁
    · rcases List.mem_cons.mp hm₂ with rfl | hold₂
      · rfl
      · exact absurd ⟨hb.symm, ho.symm⟩ (hnew m₂ hold₂)
    · rcases List.mem_cons.mp hm₂ with rfl | hold₂
      · exact absurd ⟨hb, ho⟩ (hnew m₁ hold₁)
      · exact hw.sole m₁ hold₁ m₂ hold₂ hb ho
  · intro r hr
    obtain ⟨m', hm', hrest⟩ := hw.owned r hr
    refine ⟨m', ?_, hrest⟩
    dsimp only
    rw [hmappings]
    exact List.mem_cons_of_mem m hm'
  · intro m' hm' hb hP
    dsimp only at hm'
    rw [hmappings] at hm'
    rcases List.mem_cons.mp hm' with rfl | hm'
    · -- a membership of the new public id would have a mapping already
      intro r hr _ hp
      obtain ⟨m₁, hm₁, -, -, hp₁⟩ := hw.owned r hr
      exact absurd (.inl (hp₁.trans hp).symm) (hfree m₁ hm₁)
    · exact hw.agreed m' hm' hb hP

/-- The identities that are mapped are the same, or gone. -/
theorem EmailInv.identities (hw : EmailInv P w) {identities : List (String × Value)}
    (h : ∀ m ∈ w.db.idMappings, m.backend = .kratos → ∀ identity,
      identities.lookup m.oryGlobalId = some identity →
        w.kratos.identities.lookup m.oryGlobalId = some identity) :
    EmailInv P { w with kratos := { w.kratos with identities := identities } } :=
  ⟨hw.sole, hw.owned, fun m hm hb hP r hr ht hp identity hidentity =>
    hw.agreed m hm hb hP r hr ht hp identity (h m hm hb identity hidentity)⟩

/-- The identities after one of them was replaced. -/
def replaceIdentity (w : World) (id : String) (identity : Value) : World :=
  { w with kratos := { w.kratos with identities :=
    (id, identity) :: w.kratos.identities.filter fun kv => kv.1 ≠ id } }

theorem lookup_replaceIdentity_self (id : String) (identity : Value) :
    (replaceIdentity w id identity).kratos.identities.lookup id = some identity := by
  simp [replaceIdentity]

theorem lookup_replaceIdentity_of_ne {id id' : String} (hne : id' ≠ id) (identity : Value) :
    (replaceIdentity w id identity).kratos.identities.lookup id' =
      w.kratos.identities.lookup id' := by
  show List.lookup id' (_ :: _) = _
  rw [List.lookup_cons, beq_false_of_ne hne]
  exact lookup_filter_of_ne hne _

/-- An identity is replaced, and the identities in `P'` keep their email. -/
theorem EmailInv.replaceIdentity (hw : EmailInv P w) (hP : ∀ m, P' m → P m) {id : String}
    {old identity : Value} (hold : w.kratos.identities.lookup id = some old)
    (h : ∀ m ∈ w.db.idMappings, m.backend = .kratos → m.oryGlobalId = id → P' m →
      ∀ r ∈ w.directory.memberships, r.tenantId = m.tenantId → r.publicId = m.publicId →
        kratosEmail identity = kratosEmail old) :
    EmailInv P' (replaceIdentity w id identity) := by
  refine ⟨hw.sole, hw.owned, fun m hm hb hP' r hr ht hp found hfound => ?_⟩
  by_cases hid : m.oryGlobalId = id
  · rw [hid, lookup_replaceIdentity_self] at hfound
    cases hfound
    rw [h m hm hb hid hP' r hr ht hp]
    exact hw.agreed m hm hb (hP m hP') r hr ht hp old (by rw [hid, hold])
  · rw [lookup_replaceIdentity_of_ne hid] at hfound
    exact hw.agreed m hm hb (hP m hP') r hr ht hp found hfound

/-- A membership is written: with the canonical email that Kratos has, if Kratos has the identity. -/
theorem EmailInv.upsertMembership (hw : EmailInv P w) {m : IdMappingRow} (hm : m ∈ w.db.idMappings)
    (hb : m.backend = .kratos) {row : TenantMembershipRow} (ht : row.tenantId = m.tenantId)
    (hp : row.publicId = m.publicId)
    (h : ∀ identity, w.kratos.identities.lookup m.oryGlobalId = some identity →
      ∃ email, emailTrait row.traits = some email ∧ kratosEmail identity = some email ∧
        Canonical email) :
    EmailInv (fun m' => P m' ∨ m' = m)
      { w with directory := w.directory.upsertMembership row } := by
  refine ⟨hw.sole, fun r hr => ?_, fun m' hm' hb' hP r hr ht' hp' identity hidentity => ?_⟩
  · rcases Directory.mem_upsertMembership.mp hr with rfl | ⟨hr, -⟩
    · exact ⟨m, hm, hb, ht.symm, hp.symm⟩
    · exact hw.owned r hr
  · rcases Directory.mem_upsertMembership.mp hr with rfl | ⟨hr, hother⟩
    · have hsame : m' = m := mapping_eq_of_publicId hm' hm (hp'.symm.trans hp)
      subst hsame
      exact h identity hidentity
    · rcases hP with hP | rfl
      · exact hw.agreed m' hm' hb' hP r hr ht' hp' identity hidentity
      · exact absurd ⟨ht'.trans ht.symm, hp'.trans hp.symm⟩ hother

/-- A membership is written with the email it has. -/
theorem emailKept_upsertMembership {row : TenantMembershipRow}
    (h : ∀ r ∈ w.directory.memberships, r.tenantId = row.tenantId → r.publicId = row.publicId →
      ∀ email, emailTrait r.traits = some email → email ≠ "" →
        emailTrait row.traits = some email) :
    EmailKept w { w with directory := w.directory.upsertMembership row } := by
  intro r hr email hemail hne
  by_cases hsame : r.tenantId = row.tenantId ∧ r.publicId = row.publicId
  · exact ⟨row, Directory.mem_upsertMembership.mpr (.inl rfl), hsame.1.symm, hsame.2.symm,
      h r hr hsame.1 hsame.2 email hemail hne⟩
  · exact ⟨r, Directory.mem_upsertMembership.mpr (.inr ⟨hr, hsame⟩), rfl, rfl, hemail⟩

end writes

/-! ## The contract -/

/-- The email a session shows of its identity. -/
def sessionEmail (session : Value) : Option String :=
  (session.get "identity").bind fun identity => ((identity.index "traits").index "email").asStr

/-- What Kratos promises of its answers: the id of a new identity is not one that is mapped, and a
session shows the email that its identity has. -/
def KratosFaithful (op : GatewayOp) (c : Choice) (w : World) : Prop :=
  match op with
  | .kratos (.createIdentity _) => Unmapped .kratos (c.assigned.getD c.ulid) w
  | .kratos (.toSession cookie) =>
      ∀ session ∈ cookie.bind fun s => w.kratos.sessions.lookup s,
        ∀ id ∈ sessionIdentityId session, ∀ identity ∈ w.kratos.identities.lookup id,
          sessionEmail session = kratosEmail identity
  | _ => True

/-- The writes of an update are not torn apart: Kratos carries out what it confirms and no more, and
the membership is written. -/
def GatewayOp.Lands (c : Choice) : GatewayOp → Prop
  | .kratos (.updateIdentity _ _) => ∀ f ∈ c.fault 0, f.applied = false
  | .directory (.upsertMembership _ _ _ _ _) => ∀ f ∈ c.fault 0, f.applied = true
  | _ => True

/-- An operation runs alone, on a faithful Kratos; its writes land if they are `whole`. -/
def emailContract (whole : Prop) : Contract Gateway Choice World :=
  Contract.alone (fun op c w => KratosFaithful op c w ∧ (whole → op.Lands c)) fun _ _ _ => True

/-- The calls that leave the mappings, the memberships and Kratos alone. -/
def GatewayOp.SparesEmails : GatewayOp → Prop
  | .mapping (.create _ _ _ _) => False
  | .mapping (.delete _ _ _) => False
  | .mapping (.updateTenant _ _ _) => False
  | .application _ => False
  | .agent _ => False
  | .directory (.upsertMembership _ _ _ _ _) => False
  | .kratos (.getIdentity _) => True
  | .kratos (.listIdentitiesByIdentifier _ _) => True
  | .kratos (.toSession _) => True
  | .kratos _ => False
  | _ => True

/-- The records are the same, and so is the rest of Kratos. -/
def Spared (w w' : World) : Prop := SameRecords w w' ∧ w'.kratos = w.kratos

theorem Spared.refl (w : World) : Spared w w := ⟨.refl w, rfl⟩

theorem Spared.trans {w₁ w₂ w₃ : World} (h : Spared w₁ w₂) (h' : Spared w₂ w₃) : Spared w₁ w₃ :=
  ⟨h.1.trans h'.1, h'.2.trans h.2⟩

theorem memberships_directoryHandler (env : Env) (op : DirectoryOp) (c : Choice) (d : Directory)
    (hop : GatewayOp.SparesEmails (.directory op)) :
    (directoryHandler env op c d).2.memberships = d.memberships := by
  have hanswer : ∀ {ε α : Type} (report : OryClientError → ε) (r : Except ε α × Directory),
      r.2.memberships = d.memberships →
      (Fault.answer report d r (c.fault 0)).2.memberships = d.memberships := by
    intro ε α report r hr
    have hcases : (Fault.answer report d r (c.fault 0)).2 = d ∨
        (Fault.answer report d r (c.fault 0)).2 = r.2 := Fault.answer_snd (c.fault 0)
    rcases hcases with h | h
    · rw [h]
    · rw [h, hr]
  have hwrite : ∀ {α : Type} (r : Except DbError Directory) (a : α),
      (∀ d', r = .ok d' → d'.memberships = d.memberships) →
      (d.write c r a).2.memberships = d.memberships := by
    intro α r a hr
    apply hanswer
    cases r with
    | ok d' => exact hr d' rfl
    | error e => rfl
  cases op with
  | upsertMembership => exact hop.elim
  | createGroup t n =>
      apply hwrite
      intro d' hd'
      unfold Directory.insertGroup at hd'
      split at hd'
      · cases hd'
        rfl
      · cases hd'
  | updateGroup t i n =>
      apply hanswer
      split <;> rfl
  | deleteGroup t i =>
      apply hwrite
      intro d' hd'
      unfold Directory.deleteGroup at hd'
      split at hd'
      · cases hd'
        rfl
      · cases hd'
  | addMember t g u =>
      apply hwrite
      intro d' hd'
      unfold Directory.insertMember at hd'
      split at hd'
      · cases hd'
        rfl
      · cases hd'
  | removeMember g u =>
      apply hwrite
      intro d' hd'
      cases hd'
      rfl
  | removeUserFromAllGroups u =>
      apply hwrite
      intro d' hd'
      cases hd'
      rfl
  | createGroupTuple t g u =>
      apply hanswer
      split <;> rfl
  | deleteGroupTuple t g u =>
      apply hanswer
      split <;> rfl
  | _ => exact hanswer _ _ rfl

theorem spared_of_sparesEmails (env : Env) {op : GatewayOp} (hop : op.SparesEmails) (c : Choice)
    (w : World) : Spared w (gateway env op c w).2 := by
  have hread : (gateway env op c w).2 = w → Spared w (gateway env op c w).2 := by
    intro h
    rw [h]
    exact .refl w
  cases op with
  | mapping op =>
      cases op with
      | create | delete | updateTenant => exact hop.elim
      | _ => exact hread (congrArg (fun db => { w with db := db }) (Db.read_snd _ _ _))
  | application | agent => exact hop.elim
  | directory op => exact ⟨⟨rfl, memberships_directoryHandler env op c w.directory hop, rfl⟩, rfl⟩
  | kratos op =>
      have hkratos : (kratosHandler op c w.kratos).2 = w.kratos := by
        cases op with
        | createIdentity | updateIdentity | deleteIdentity | submitSettingsFlow => exact hop.elim
        | _ => exact (Fault.answer_snd (c.fault 0)).elim id id
      exact hread (congrArg (fun k => { w with kratos := k }) hkratos)
  | listTenants => exact hread ((Fault.answer_snd (c.fault 0)).elim id id)
  | getOryToken => exact hread ((Fault.answer_snd (c.fault 0)).elim id id)
  | getOryTokenGlobal => exact hread ((Fault.answer_snd (c.fault 0)).elim id id)
  | _ => exact ⟨⟨rfl, rfl, rfl⟩, rfl⟩

theorem sparesEmails_of_isScimRead (op : GatewayOp) (hop : op.IsScimRead) : op.SparesEmails := by
  unfold GatewayOp.IsScimRead at hop
  split at hop
  case h_7 => exact hop.elim
  all_goals trivial

theorem sparesEmails_of_isGroupCall (op : GatewayOp) (hop : op.IsGroupCall) :
    op.SparesEmails := by
  unfold GatewayOp.IsGroupCall at hop
  split at hop
  case h_6 => exact sparesEmails_of_isScimRead op hop
  all_goals trivial

section rules

variable {env : Env} {whole : Prop} {w w₀ : World}

theorem sat_email {op : GatewayOp} {Q : op.Res → World → Prop} :
    (Prog.perform (S := Gateway) op).Sat (gateway env) (emailContract whole) Q w ↔
      ∀ c, KratosFaithful op c w → (whole → op.Lands c) →
        Q (gateway env op c w).1 (gateway env op c w).2 := by
  rw [Prog.sat_perform]
  constructor
  · intro h c hfaithful hlands
    exact (h w rfl c ⟨hfaithful, hlands⟩).2
  · rintro h w rfl c ⟨hfaithful, hlands⟩
    exact ⟨trivial, h c hfaithful hlands⟩

theorem sat_sparing {α : Type} {p : Prog Gateway α} (hp : p.Calls GatewayOp.SparesEmails)
    (hw : Spared w₀ w) :
    p.Sat (gateway env) (emailContract whole) (fun _ w' => Spared w₀ w') w := by
  refine hp.sat (I := Spared w₀) ?_ ?_ hw
  · rintro w' _ hw' rfl
    exact hw'
  · intro op c w' hop hw' _
    exact ⟨trivial, hw'.trans (spared_of_sparesEmails env hop c w')⟩

/-- A part that only makes such calls. -/
theorem Spared.keeps {ε α : Type} (hw : Spared w₀ w) {x : ExceptT ε (Prog Gateway) α}
    (hx : x.run.Calls GatewayOp.SparesEmails) :
    x.run.Sat (gateway env) (emailContract whole) (Prog.Keeps (Spared w₀) fun _ _ => True) w :=
  (sat_sparing hx hw).post fun _ _ hw' => ⟨hw', Prog.onOk_iff.mpr fun _ _ => trivial⟩

end rules

/-! ## What the reads answer -/

section reads

variable {env : Env} {c : Choice} {w : World}

theorem gateway_getMembership_ok {t p : String} {r : TenantMembershipRow}
    (h : (gateway env (.directory (.getMembership t p)) c w).1 = .ok r) :
    r ∈ w.directory.memberships ∧ r.tenantId = t ∧ r.publicId = p := by
  simp only [gateway, directoryHandler] at h
  obtain ⟨-, hfound⟩ := Fault.answer_ok h
  rcases hrow : w.directory.memberships.find? fun m => m.tenantId = t ∧ m.publicId = p with _ | row
  · rw [hrow] at hfound
    cases hfound
  · rw [hrow] at hfound
    cases hfound
    exact ⟨List.mem_of_find?_eq_some hrow, by simpa using List.find?_some hrow⟩

/-- The answer that there is no membership is true. -/
theorem gateway_getMembership_none {t p : String}
    (h : (gateway env (.directory (.getMembership t p)) c w).1 = .error .membershipNotFound) :
    ∀ r ∈ w.directory.memberships, ¬ (r.tenantId = t ∧ r.publicId = p) := by
  simp only [gateway, directoryHandler] at h
  rcases hf : c.fault 0 with _ | f
  · rw [hf, Fault.answer_none] at h
    rcases hrow : w.directory.memberships.find? fun m => m.tenantId = t ∧ m.publicId = p with _ | row
    · intro r hr
      simpa using List.find?_eq_none.mp hrow r hr
    · rw [hrow] at h
      cases h
  · rw [hf] at h
    cases h

theorem gateway_getIdentity_ok {o : String} {identity : Value}
    (h : (gateway env (.kratos (.getIdentity o)) c w).1 = .ok identity) :
    w.kratos.identities.lookup o = some identity := by
  simp only [gateway, kratosHandler] at h
  obtain ⟨-, hfound⟩ := Fault.answer_ok h
  unfold lookupObject at hfound
  split at hfound
  · rename_i found hlookup
    cases hfound
    exact hlookup
  · cases hfound

theorem gateway_toSession_ok {cookie : Option String} {session : Value}
    (h : (gateway env (.kratos (.toSession cookie)) c w).1 = .ok session) :
    cookie.bind (fun s => w.kratos.sessions.lookup s) = some session := by
  simp only [gateway, kratosHandler] at h
  obtain ⟨-, hfound⟩ := Fault.answer_ok h
  dsimp only at hfound
  split at hfound
  · rename_i found hlookup
    cases hfound
    exact hlookup
  · cases hfound

end reads

/-! ## The operations -/

/-- After an operation: the invariant, and the emails of the memberships before it. -/
def EmailSettled (w w' : World) : Prop := EmailInv (fun _ => True) w' ∧ EmailKept w w'

theorem EmailInv.settled {w w' : World} (hw : EmailInv (fun _ => True) w) (h : Spared w w') :
    EmailSettled w w' := ⟨hw.same h.1, h.1.emailKept⟩

theorem EmailSettled.spared {w w' w'' : World} (h : EmailSettled w w') (h' : Spared w' w'') :
    EmailSettled w w'' := ⟨h.1.same h'.1, h.2.trans h'.1.emailKept⟩

/-- The identity of a tenant's public id, in the mappings. -/
def MappedAs (w : World) (t p o : String) : Prop :=
  ∃ m ∈ w.db.idMappings, m.backend = .kratos ∧ m.tenantId = t ∧ m.publicId = p ∧ m.oryGlobalId = o

section programs

variable {env : Env} {whole : Prop} {w w₀ : World}

theorem Spared.keeps_getOryId (hw : Spared w₀ w) (t p : String) :
    (Prog.orThrow ServiceError.ofDbError (IdMappingStore.getOryId t .kratos p)).run.Sat
      (gateway env) (emailContract whole)
      (Prog.Keeps (Spared w₀) fun o _ => MappedAs w₀ t p o) w := by
  refine Prog.keeps_run_orThrow (sat_email.mpr fun c _ _ => ⟨?_, Prog.onOk_iff.mpr ?_⟩)
  · exact hw.trans (spared_of_sparesEmails env (by trivial) c w)
  · intro o ho
    rcases gateway_getOryId env c w t .kratos p with ⟨m, hm, ⟨ht, hb, hp⟩, h⟩ | ⟨-, h⟩ | ⟨e, -, h⟩
    · rw [h] at ho
      rw [hw.1.idMappings] at hm
      exact ⟨m, hm, hb, ht, hp, Except.ok.inj ho⟩
    · rw [h] at ho
      cases ho
    · rw [h] at ho
      cases ho

/-- The id in the document of a new identity. -/
theorem asStr_index_insert_id {payload : Value} {id o : String}
    (h : ((payload.insert "id" (.str id)).index "id").asStr = some o) : o = id := by
  cases payload with
  | obj fields =>
      have hget : ((Value.obj fields).insert "id" (.str id)).get "id" = some (.str id) :=
        Value.lookup_upsert_self "id" _ fields
      simpa [Value.index, hget, Value.asStr, eq_comm] using h
  | _ => cases h

/-- A new identity at Kratos is not mapped. -/
theorem keeps_createIdentity (hw : EmailInv (fun _ => True) w) (payload : Value) :
    (Prog.orThrow mapOryError (callKratos (.createIdentity payload))).run.Sat (gateway env)
      (emailContract whole) (Prog.Keeps (EmailSettled w) fun created w' => ∀ o,
        (created.index "id").asStr = some o → Unmapped .kratos o w' ∧
          ∃ identity, w'.kratos.identities.lookup o = some identity ∧
            kratosEmail identity = kratosEmail payload) w := by
  refine Prog.keeps_run_orThrow (sat_email.mpr fun c hnew _ => ⟨?_, Prog.onOk_iff.mpr ?_⟩)
  · have hkratos : ∀ w', (w' = w ∨ w' = { w with kratos := { w.kratos with identities :=
        (c.assigned.getD c.ulid, payload.insert "id" (.str (c.assigned.getD c.ulid))) ::
          w.kratos.identities } }) → EmailSettled w w' := by
      rintro w' (rfl | rfl)
      · exact ⟨hw, .refl w'⟩
      · refine ⟨hw.identities fun m hm hb identity hidentity => ?_, EmailKept.refl w⟩
        have hne : m.oryGlobalId ≠ c.assigned.getD c.ulid := fun h => hnew m hm ⟨hb, h⟩
        rw [List.lookup_cons, beq_false_of_ne hne] at hidentity
        exact hidentity
    apply hkratos
    simp only [gateway, kratosHandler, oryAnswer]
    rcases hf : c.fault 0 with _ | f
    · exact .inr rfl
    · rcases happlied : f.applied with _ | _
      · exact .inl (by simp [Fault.answer, happlied])
      · exact .inr (by simp [Fault.answer, happlied])
  · intro created hcreated o ho
    simp only [gateway, kratosHandler, oryAnswer] at hcreated ⊢
    obtain ⟨hf, hdoc⟩ := Fault.answer_ok hcreated
    have hdoc := Except.ok.inj hdoc
    subst hdoc
    obtain rfl := asStr_index_insert_id ho
    rw [hf, Fault.answer_none]
    refine ⟨hnew, _, List.lookup_cons_self, kratosEmail_insert_id _ _⟩

/-- The mapping of an identity that has none. -/
theorem keeps_createMapping (hw : EmailSettled w₀ w) {o : String} (hnew : Unmapped .kratos o w)
    (t p : String) :
    (Prog.orThrow ServiceError.ofDbError (IdMappingStore.create t .kratos p o)).run.Sat (gateway env)
      (emailContract whole) (Prog.Keeps (EmailSettled w₀) fun _ w' =>
        MappedAs w' t p o ∧ w'.kratos = w.kratos) w := by
  refine Prog.keeps_run_orThrow (sat_email.mpr fun c _ _ => ⟨?_, Prog.onOk_iff.mpr ?_⟩)
  · simp only [gateway, mappingHandler]
    rcases Db.write_snd c (w.db.insertMapping ⟨t, .kratos, p, o, c.now⟩) _ with h | ⟨db', hdb', h⟩
    · rw [h]
      exact hw
    · rw [h]
      exact ⟨hw.1.insertMapping hnew hdb', hw.2⟩
  · intro row hrow
    obtain ⟨-, db', hdb', hafter⟩ := Db.write_ok hrow
    refine ⟨⟨⟨t, .kratos, p, o, c.now⟩, ?_, rfl, rfl, rfl, rfl⟩, rfl⟩
    show _ ∈ (Db.write _ _ _ _).2.idMappings
    rw [hafter, (Db.insertMapping_ok hdb').1]
    exact List.mem_cons_self

/-- A registered identity is mapped, and Kratos has it with the traits it was given. -/
theorem keeps_registerIdentity (hw : EmailInv (fun _ => True) w) (t : String) (payload : Value) :
    (registerIdentity t payload).run.Sat (gateway env) (emailContract whole)
      (Prog.Keeps (EmailSettled w) fun ids w' => MappedAs w' t ids.2 ids.1 ∧
        ∃ identity, w'.kratos.identities.lookup ids.1 = some identity ∧
          kratosEmail identity = kratosEmail payload) w := by
  refine Prog.keeps_run_bind (keeps_createIdentity hw payload) (fun _ h => h)
    fun created w₁ hw₁ hcreated => ?_
  refine Prog.keeps_run_bind (J := EmailSettled w) (P := fun o w' => Unmapped .kratos o w' ∧
      ∃ identity, w'.kratos.identities.lookup o = some identity ∧
        kratosEmail identity = kratosEmail payload)
    (Prog.keeps_run_mk hw₁ fun o ho => ?_) (fun _ h => h) fun o w₂ hw₂ hnew => ?_
  · split at ho
    · rename_i found hfound
      cases ho
      exact hcreated _ hfound
    · cases ho
  obtain ⟨hnew, identity, hidentity, hemail⟩ := hnew
  refine Prog.keeps_run_bind ((Spared.refl w₂).keeps (Prog.calls_run_attempt
    (Prog.calls_perform trivial))) (fun _ h => hw₂.spared h) fun p w₃ hw₃ _ => ?_
  have hnew₃ : Unmapped .kratos o w₃ := by
    unfold Unmapped
    rw [hw₃.1.idMappings]
    exact hnew
  refine Prog.keeps_run_bind (keeps_createMapping (hw₂.spared hw₃) hnew₃ t p) (fun _ h => h)
    fun _ w₄ hw₄ hmapped => ?_
  refine Prog.keeps_run_pure hw₄ ⟨hmapped.1, identity, ?_, hemail⟩
  rw [hmapped.2, hw₃.1.identities]
  exact hidentity

/-- The world after a membership was written, or not. -/
theorem gateway_upsertMembership (env : Env) (c : Choice) (w : World) (t p i : String) (v : ℕ)
    (traits : Value) :
    (gateway env (.directory (.upsertMembership t p i v traits)) c w).2 = w ∨
      (gateway env (.directory (.upsertMembership t p i v traits)) c w).2 =
        { w with directory := w.directory.upsertMembership ⟨t, p, i, v, traits⟩ } := by
  have hcases : (directoryHandler env (.upsertMembership t p i v traits) c w.directory).2 =
      w.directory ∨ (directoryHandler env (.upsertMembership t p i v traits) c w.directory).2 =
        w.directory.upsertMembership ⟨t, p, i, v, traits⟩ := Fault.answer_snd (c.fault 0)
  rcases hcases with h | h
  · exact .inl (congrArg (fun d => { w with directory := d }) h)
  · exact .inr (congrArg (fun d => { w with directory := d }) h)

/-- The email that Kratos has of an identity, if it has the identity, is canonical and the given
one. -/
def KratosHas (w : World) (o : String) (email : Option String) : Prop :=
  ∀ identity, w.kratos.identities.lookup o = some identity →
    ∃ e, email = some e ∧ kratosEmail identity = some e ∧ Canonical e

/-- The membership of the public id, if there is one, has no email but the given one. -/
def MembershipHas (w : World) (t p : String) (email : Option String) : Prop :=
  ∀ r ∈ w.directory.memberships, r.tenantId = t → r.publicId = p →
    ∀ e, emailTrait r.traits = some e → e ≠ "" → email = some e

/-- A membership written with the email of both copies. -/
theorem EmailSettled.upsertMembership {t p o i : String} {v : ℕ} {traits : Value} (hw : EmailSettled w₀ w)
    (hmapped : MappedAs w t p o) (hkratos : KratosHas w o (emailTrait traits))
    (hmembership : MembershipHas w t p (emailTrait traits)) :
    EmailSettled w₀ { w with directory := w.directory.upsertMembership ⟨t, p, i, v, traits⟩ } := by
  obtain ⟨m, hm, hb, rfl, rfl, rfl⟩ := hmapped
  have hinv : EmailInv (fun m' => True ∨ m' = m)
      { w with directory := w.directory.upsertMembership ⟨m.tenantId, m.publicId, i, v, traits⟩ } :=
    hw.1.upsertMembership hm hb rfl rfl hkratos
  exact ⟨hinv.mono fun _ _ => .inl trivial, hw.2.trans (emailKept_upsertMembership hmembership)⟩

theorem sat_upsertMembership {t p o i : String} {v : ℕ} {traits : Value} (hw : EmailSettled w₀ w)
    (hmapped : MappedAs w t p o) (hkratos : KratosHas w o (emailTrait traits))
    (hmembership : MembershipHas w t p (emailTrait traits)) :
    (callDirectory (.upsertMembership t p i v traits)).Sat (gateway env) (emailContract whole)
      (Prog.Keeps (fun w' => EmailSettled w₀ w' ∧ w'.db = w.db ∧ w'.kratos = w.kratos) fun r w' =>
        r = ⟨t, p, i, v, traits⟩ ∧ r ∈ w'.directory.memberships) w := by
  refine sat_email.mpr fun c _ _ => ⟨?_, Prog.onOk_iff.mpr fun r hr => ?_⟩
  · rcases gateway_upsertMembership env c w t p i v traits with h | h
    · rw [h]
      exact ⟨hw, rfl, rfl⟩
    · rw [h]
      exact ⟨hw.upsertMembership hmapped hkratos hmembership, rfl, rfl⟩
  · simp only [gateway, directoryHandler] at hr ⊢
    obtain ⟨hf, hr⟩ := Fault.answer_ok hr
    have hr := Except.ok.inj hr
    subst hr
    rw [hf, Fault.answer_none]
    exact ⟨rfl, Directory.mem_upsertMembership.mpr (.inl rfl)⟩

/-- A deleted identity has no email. -/
theorem sat_deleteIdentity (hw : EmailSettled w₀ w) (o : String) :
    (callKratos (.deleteIdentity o)).Sat (gateway env) (emailContract whole)
      (fun _ w' => EmailSettled w₀ w') w := by
  refine sat_email.mpr fun c _ _ => ?_
  have hdeleted : EmailSettled w₀ { w with kratos := { w.kratos with identities :=
      (w.kratos.identities.filter fun kv => kv.1 ≠ o) } } := by
    refine ⟨hw.1.identities fun m _ _ identity hidentity => ?_, hw.2⟩
    by_cases hid : m.oryGlobalId = o
    · rw [hid, lookup_filter_self] at hidentity
      cases hidentity
    · rw [lookup_filter_of_ne hid] at hidentity
      exact hidentity
  simp only [gateway, kratosHandler]
  refine oryAnswer_snd (P := fun k => EmailSettled w₀ { w with kratos := k }) hw ?_
  split
  · exact hw
  · exact hdeleted

theorem keeps_enrollIdentity {t o p : String} {traits : Value} (hw : EmailSettled w₀ w)
    (hmapped : MappedAs w t p o) (hkratos : KratosHas w o (emailTrait traits))
    (hmembership : MembershipHas w t p (emailTrait traits)) (schema : IdentitySchemaRow) :
    (enrollIdentity t o p schema traits).run.Sat (gateway env) (emailContract whole)
      (Prog.Keeps (EmailSettled w₀) fun _ _ => True) w := by
  refine Prog.keeps_run_bind (J := EmailSettled w₀) (P := fun _ _ => True)
    (Prog.keeps_run_attempt ((sat_upsertMembership hw hmapped hkratos hmembership).post
      fun _ _ h => ⟨h.1.1, trivial⟩)) (fun _ h => h) fun r w₁ hw₁ _ => ?_
  cases r with
  | ok _ => exact Prog.keeps_run_pure hw₁ trivial
  | error e =>
      refine Prog.keeps_run_bind (J := EmailSettled w₀) (P := fun _ _ => True)
        (Prog.keeps_run_attempt ((sat_deleteIdentity hw₁ o).post fun _ _ h => ⟨h, trivial⟩))
        (fun _ h => h) fun _ w₂ hw₂ _ => ?_
      exact ⟨hw₂, trivial⟩

/-- From a world with the same records. -/
theorem EmailSettled.of_spared {w' : World} (hw : Spared w₀ w) (h : EmailSettled w w') :
    EmailSettled w₀ w' := ⟨h.1, hw.1.emailKept.trans h.2⟩

/-- The check at the beginning of an operation. -/
theorem keeps_check {α : Type} (w : World) (r : Except ServiceError α) :
    (check r).run.Sat (gateway env) (emailContract whole)
      (Prog.Keeps (Spared w) fun a _ => r = .ok a) w :=
  Prog.keeps_run_mk (.refl w) fun _ ha => ha

/-- A check further on. -/
theorem Spared.keeps_check {α : Type} (hw : Spared w₀ w) (r : Except ServiceError α) :
    (check r).run.Sat (gateway env) (emailContract whole)
      (Prog.Keeps (Spared w₀) fun a _ => r = .ok a) w :=
  Prog.keeps_run_mk hw fun _ ha => ha

theorem keeps_createIdentityCall (hw : EmailInv (fun _ => True) w) (cfg : IdentityConfig)
    (ctx : RequestContext) (req : CreateIdentityRequest) :
    (createIdentity cfg ctx req).run.Sat (gateway env) (emailContract whole)
      (Prog.Keeps (EmailSettled w) fun _ _ => True) w := by
  refine Prog.keeps_run_bind (keeps_check w _) (fun _ h => hw.settled h) fun t w₁ hw₁ _ => ?_
  refine Prog.keeps_run_bind (hw₁.keeps (calls_resolveSchema sparesEmails_of_isScimRead t _))
    (fun _ h => hw.settled h) fun schema w₂ hw₂ _ => ?_
  refine Prog.keeps_run_bind (hw₂.keeps_check _) (fun _ h => hw.settled h)
    fun pair w₃ hw₃ htraits => ?_
  obtain ⟨hemail, hcanonical⟩ := requestTraits_email htraits
  refine Prog.keeps_run_bind (keeps_registerIdentity (hw.same hw₃.1) t _)
    (fun _ h => h.of_spared hw₃) fun ids w₄ hw₄ hids => ?_
  obtain ⟨hmapped, identity, hidentity, hkratos⟩ := hids
  rw [kratosEmail_buildKratosIdentityPayload] at hkratos
  have hhas : KratosHas w₄ ids.1 (emailTrait pair.1) := by
    intro found hfound
    rw [hidentity] at hfound
    cases hfound
    exact ⟨pair.2, hemail, hkratos, hcanonical⟩
  -- a membership of that public id would have the email that Kratos has
  have hmembership : MembershipHas w₄ t ids.2 (emailTrait pair.1) := by
    intro r hr ht hp e he _
    obtain ⟨m, hm, hb, htm, hpm, hom⟩ := hmapped
    obtain ⟨e', he', hkratos', -⟩ := hw₄.1.agreed m hm hb trivial r hr (ht.trans htm.symm)
      (hp.trans hpm.symm) identity (by rw [hom, hidentity])
    rw [he] at he'
    cases he'
    rw [hemail, ← hkratos, hkratos']
  refine Prog.keeps_run_bind (keeps_enrollIdentity hw₄ hmapped hhas hmembership schema)
    (fun _ h => h.of_spared hw₃) fun _ w₅ hw₅ _ => ?_
  exact Prog.keeps_run_pure (hw₅.of_spared hw₃) trivial

/-- A new user of SCIM has no membership. -/
theorem keeps_createUser (hw : EmailInv (fun _ => True) w) (compile : SchemaCompiler)
    (ctx : RequestContext) (user : Option ScimUser) :
    (createUser compile ctx user).run.Sat (gateway env) (emailContract whole)
      (Prog.Keeps (EmailSettled w) fun _ _ => True) w := by
  refine Prog.keeps_run_bind (keeps_check w _) (fun _ h => hw.settled h) fun pair w₁ hw₁ _ => ?_
  refine Prog.keeps_run_bind (hw₁.keeps (calls_resolveSchema sparesEmails_of_isScimRead _ _))
    (fun _ h => hw.settled h) fun schema w₂ hw₂ _ => ?_
  refine Prog.keeps_run_bind (hw₂.keeps_check _) (fun _ h => hw.settled h) fun _ w₃ hw₃ _ => ?_
  refine Prog.keeps_run_bind (keeps_registerIdentity (hw.same hw₃.1) pair.1 _)
    (fun _ h => h.of_spared hw₃) fun ids w₄ hw₄ _ => ?_
  have hw₄ := hw₄.of_spared hw₃
  refine Prog.keeps_run_bind ((Spared.refl w₄).keeps (Prog.calls_run_forM fun groupId _ =>
    calls_addUserToGroup sparesEmails_of_isGroupCall _ _ groupId)) (fun _ h => hw₄.spared h)
    fun _ w₅ hw₅ _ => ?_
  refine (hw₅.keeps (calls_loadUser sparesEmails_of_isScimRead _ _)).post fun _ w₆ h => ?_
  exact ⟨hw₄.spared h.1, h.2⟩

/-- An identity is updated, is updated although the answer is lost, or is not. -/
theorem gateway_updateIdentity (env : Env) (c : Choice) (w : World) (o : String) (payload : Value) :
    (∃ e, gateway env (.kratos (.updateIdentity o payload)) c w = (.error e, w)) ∨
      ∃ old, w.kratos.identities.lookup o = some old ∧ ∃ answer,
        gateway env (.kratos (.updateIdentity o payload)) c w =
          (answer, replaceIdentity w o (updatedIdentity o old payload)) ∧
        ((∃ v, answer = .ok v) ∨ ∃ f ∈ c.fault 0, f.applied = true) := by
  rcases hold : w.kratos.identities.lookup o with _ | old
  · refine .inl ?_
    simp only [gateway, kratosHandler, oryAnswer, hold]
    rcases hf : c.fault 0 with _ | f
    · exact ⟨_, rfl⟩
    · exact ⟨f.error, by simp [Fault.answer]⟩
  · simp only [gateway, kratosHandler, oryAnswer, hold]
    rcases hf : c.fault 0 with _ | f
    · exact .inr ⟨old, rfl, _, rfl, .inl ⟨_, rfl⟩⟩
    · by_cases happlied : f.applied = true
      · exact .inr ⟨old, rfl, .error f.error, by simp [Fault.answer, happlied, replaceIdentity],
          .inr ⟨f, rfl, happlied⟩⟩
      · exact .inl ⟨f.error, by simp [Fault.answer, happlied]⟩

/-- Other traits at Kratos, with the email of the membership. -/
theorem sat_updateIdentity {o : String} {traits : Value} (fields : List (String × Value))
    (hw : EmailSettled w₀ w)
    (h : ∀ m ∈ w.db.idMappings, m.backend = .kratos → m.oryGlobalId = o →
      ∀ r ∈ w.directory.memberships, r.tenantId = m.tenantId → r.publicId = m.publicId →
        emailTrait traits = emailTrait r.traits) :
    (callKratos (.updateIdentity o (.obj (fields ++ [("traits", traits)])))).Sat (gateway env)
      (emailContract whole) (Prog.Keeps (EmailSettled w₀) fun _ _ => True) w := by
  refine sat_email.mpr fun c _ _ => ⟨?_, Prog.onOk_iff.mpr fun _ _ => trivial⟩
  rcases gateway_updateIdentity env c w o (.obj (fields ++ [("traits", traits)])) with
    ⟨e, hafter⟩ | ⟨old, hold, answer, hafter, -⟩
  · rw [hafter]
    exact hw
  · rw [hafter]
    refine ⟨hw.1.replaceIdentity (fun _ h => h) hold fun m hm hb ho _ r hr ht hp => ?_, hw.2⟩
    obtain ⟨e, he, hkratos, -⟩ := hw.1.agreed m hm hb trivial r hr ht hp old (by rw [ho, hold])
    rw [kratosEmail_updatedIdentity, h m hm hb ho r hr ht hp, he, hkratos]

theorem requireUser_eq_ok {ctx : RequestContext} {user : Option ScimUser} {t : String}
    {input : ScimUser} (h : requireUser ctx user = .ok (t, input)) :
    requireTenantScope ctx scopeScimAdmin = .ok t ∧ user = some input := by
  unfold requireUser at h
  obtain ⟨t', ht', h⟩ := except_bind_eq_ok.mp h
  cases user with
  | none => cases h
  | some found =>
      cases h
      exact ⟨ht', rfl⟩

theorem Spared.keeps_resolveUser (hw : Spared w₀ w) (t p : String) :
    (resolveUser t p).run.Sat (gateway env) (emailContract whole)
      (Prog.Keeps (Spared w₀) fun o _ => MappedAs w₀ t p o) w := by
  refine Prog.keeps_run_bind (hw.keeps_getOryId t p) (fun _ h => h) fun o w₁ hw₁ ho => ?_
  refine Prog.keeps_run_bind (hw₁.keeps (Prog.calls_run_attempt (Prog.calls_perform trivial)))
    (fun _ h => h) fun _ w₂ hw₂ _ => ?_
  exact Prog.keeps_run_pure hw₂ ho

/-- An update of SCIM does not give a membership's identity another email. -/
def ScimKeepsEmail (ctx : RequestContext) (id : String) (user : Option ScimUser) (w : World) :
    Prop :=
  ∀ t ∈ (requireTenantScope ctx scopeScimAdmin).toOption, ∀ input ∈ user,
    ∀ r ∈ w.directory.memberships, r.tenantId = t → r.publicId = id →
      emailTrait (scimUserToTraits input) = emailTrait r.traits

theorem keeps_updateUser (hw : EmailInv (fun _ => True) w) (compile : SchemaCompiler)
    (ctx : RequestContext) {id : String} {user : Option ScimUser}
    (hkeeps : ScimKeepsEmail ctx id user w) :
    (updateUser compile ctx id user).run.Sat (gateway env) (emailContract whole)
      (Prog.Keeps (EmailSettled w) fun _ _ => True) w := by
  refine Prog.keeps_run_bind (keeps_check w _) (fun _ h => hw.settled h)
    fun pair w₁ hw₁ hpair => ?_
  obtain ⟨htenant, huser⟩ := requireUser_eq_ok hpair
  refine Prog.keeps_run_bind (hw₁.keeps_resolveUser _ id) (fun _ h => hw.settled h)
    fun o w₂ hw₂ hmapped => ?_
  refine Prog.keeps_run_bind (hw₂.keeps (calls_resolveSchema sparesEmails_of_isScimRead _ _))
    (fun _ h => hw.settled h) fun schema w₃ hw₃ _ => ?_
  refine Prog.keeps_run_bind (hw₃.keeps_check _) (fun _ h => hw.settled h) fun _ w₄ hw₄ _ => ?_
  have hsame : ∀ m ∈ w₄.db.idMappings, m.backend = .kratos → m.oryGlobalId = o →
      ∀ r ∈ w₄.directory.memberships, r.tenantId = m.tenantId → r.publicId = m.publicId →
        emailTrait (scimUserToTraits pair.2) = emailTrait r.traits := by
    rw [hw₄.1.idMappings, hw₄.1.memberships]
    intro m hm hb ho r hr ht hp
    obtain ⟨m', hm', hb', ht', hp', ho'⟩ := hmapped
    have hsame : m = m' := hw.sole m hm m' hm' (hb.trans hb'.symm) (ho.trans ho'.symm)
    subst hsame
    exact hkeeps pair.1 (by rw [htenant]; rfl) pair.2 huser r hr (ht.trans ht') (hp.trans hp')
  refine Prog.keeps_run_bind (Prog.keeps_run_orThrow (sat_updateIdentity
    [("schema_id", .str schema.schemaId)] (hw.settled hw₄) hsame)) (fun _ h => h)
    fun _ w₅ hw₅ _ => ?_
  refine Prog.keeps_run_bind ((Spared.refl w₅).keeps
    (calls_replaceGroups sparesEmails_of_isGroupCall _ _ _)) (fun _ h => hw₅.spared h)
    fun _ w₆ hw₆ _ => ?_
  refine (hw₆.keeps (calls_loadUser sparesEmails_of_isScimRead _ _)).post fun _ w₇ h => ?_
  exact ⟨hw₅.spared h.1, h.2⟩

/-- Where the public id has no membership, Kratos has a canonical email to make one from. -/
def Adoptable (t p : String) (w : World) : Prop :=
  (∃ r ∈ w.directory.memberships, r.tenantId = t ∧ r.publicId = p) ∨
    ∀ m ∈ w.db.idMappings, m.backend = .kratos → m.tenantId = t → m.publicId = p →
      ∀ identity ∈ w.kratos.identities.lookup m.oryGlobalId,
        ∃ e ∈ kratosEmail identity, Canonical e

/-- What Kratos has can become the membership. -/
theorem Adoptable.kratosHas {t p o : String} (h : Adoptable t p w) (hmapped : MappedAs w t p o)
    (hnone : ∀ r ∈ w.directory.memberships, ¬ (r.tenantId = t ∧ r.publicId = p))
    {identity : Value} (hidentity : w.kratos.identities.lookup o = some identity) :
    KratosHas w o (kratosEmail identity) := by
  rcases h with ⟨r, hr, hkey⟩ | h
  · exact absurd hkey (hnone r hr)
  · intro found hfound
    rw [hidentity] at hfound
    cases hfound
    obtain ⟨m, hm, hb, ht, hp, rfl⟩ := hmapped
    obtain ⟨e, he, hcanonical⟩ := h m hm hb ht hp identity hidentity
    exact ⟨e, he, he, hcanonical⟩

theorem KratosHas.spared {o : String} {email : Option String} (h : KratosHas w₀ o email)
    (hw : Spared w₀ w) : KratosHas w o email := by
  unfold KratosHas
  rw [hw.1.identities]
  exact h

theorem MappedAs.spared {t p o : String} (h : MappedAs w₀ t p o) (hw : Spared w₀ w) :
    MappedAs w t p o := by
  unfold MappedAs
  rw [hw.1.idMappings]
  exact h

/-- The membership of a public id, in a world where at most memberships are new. -/
def MembershipFound (t p : String) (w₀ : World) (r : TenantMembershipRow) (w : World) : Prop :=
  r ∈ w.directory.memberships ∧ r.tenantId = t ∧ r.publicId = p ∧
    w.db.idMappings = w₀.db.idMappings ∧ w.kratos = w₀.kratos

/-- A membership that is looked up. -/
theorem Spared.keeps_getMembership {ε : Type} (hw : Spared w₀ w) (t p : String) :
    (Prog.attempt (callDirectory (.getMembership t p)) :
      ExceptT ε (Prog Gateway) (Except DbError TenantMembershipRow)).run.Sat (gateway env)
      (emailContract whole) (Prog.Keeps (Spared w₀) fun answer w' =>
        (∀ r, answer = .ok r → MembershipFound t p w₀ r w') ∧
        (answer = .error .membershipNotFound →
          ∀ r ∈ w₀.directory.memberships, ¬ (r.tenantId = t ∧ r.publicId = p))) w := by
  have hop : GatewayOp.SparesEmails (.directory (.getMembership t p)) := trivial
  refine Prog.keeps_run_attempt (sat_email.mpr fun c _ _ => ?_)
  have hspared := hw.trans (spared_of_sparesEmails env hop c w)
  refine ⟨hspared, fun r hr => ?_, fun hnone => ?_⟩
  · obtain ⟨hr, ht, hp⟩ := gateway_getMembership_ok hr
    refine ⟨?_, ht, hp, hspared.1.idMappings, hspared.2⟩
    rw [hspared.1.memberships, ← hw.1.memberships]
    exact hr
  · rw [← hw.1.memberships]
    exact gateway_getMembership_none hnone

theorem Spared.keeps_getIdentity (hw : Spared w₀ w) (o : String) :
    (Prog.orThrow mapOryError (callKratos (.getIdentity o))).run.Sat (gateway env)
      (emailContract whole) (Prog.Keeps (Spared w₀) fun identity _ =>
        w₀.kratos.identities.lookup o = some identity) w := by
  have hop : GatewayOp.SparesEmails (.kratos (.getIdentity o)) := trivial
  refine Prog.keeps_run_orThrow (sat_email.mpr fun c _ _ => ⟨?_, Prog.onOk_iff.mpr ?_⟩)
  · exact hw.trans (spared_of_sparesEmails env hop c w)
  · intro identity hidentity
    rw [← hw.1.identities]
    exact gateway_getIdentity_ok hidentity

theorem keeps_resolveIdentity (hw : EmailInv (fun _ => True) w₀) (hsame : Spared w₀ w) {t p : String}
    (hadopt : Adoptable t p w₀) :
    (resolveIdentity t p).run.Sat (gateway env) (emailContract whole)
      (Prog.Keeps (EmailSettled w₀) fun found w' =>
        MappedAs w₀ t p found.1 ∧ MembershipFound t p w₀ found.2 w') w := by
  refine Prog.keeps_run_bind (hsame.keeps_getOryId t p) (fun _ h => hw.settled h)
    fun o w₁ hw₁ hmapped => ?_
  refine Prog.keeps_run_bind (hw₁.keeps_getMembership t p) (fun _ h => hw.settled h)
    fun answer w₂ hw₂ hanswer => ?_
  split
  · exact Prog.keeps_run_pure (hw.settled hw₂) ⟨hmapped, hanswer.1 _ rfl⟩
  · have hnone := hanswer.2 rfl
    refine Prog.keeps_run_bind (hw₂.keeps_getIdentity o) (fun _ h => hw.settled h)
      fun identity w₃ hw₃ hidentity => ?_
    have hkratos : KratosHas w₃ o (emailTrait (identityTraits identity)) := by
      rw [emailTrait_identityTraits]
      exact (hadopt.kratosHas hmapped hnone hidentity).spared hw₃
    have hmembership : MembershipHas w₃ t p (emailTrait (identityTraits identity)) := by
      intro r hr ht hp
      rw [hw₃.1.memberships] at hr
      exact absurd ⟨ht, hp⟩ (hnone r hr)
    refine Prog.keeps_run_bind (Prog.keeps_run_orThrow (sat_upsertMembership (hw.settled hw₃)
      (hmapped.spared hw₃) hkratos hmembership)) (fun _ h => h.1) fun r w₄ hw₄ hr => ?_
    refine Prog.keeps_run_pure hw₄.1 ⟨hmapped, hr.2, ?_, ?_, ?_, ?_⟩
    · rw [hr.1]
    · rw [hr.1]
    · rw [hw₄.2.1, hw₃.1.idMappings]
    · rw [hw₄.2.2, hw₃.2]
  · exact ⟨hw.settled hw₂, trivial⟩

/-- Kratos has the identity of the public id without an email. -/
def Unset (t p : String) (w : World) : Prop :=
  ∃ m ∈ w.db.idMappings, m.backend = .kratos ∧ m.tenantId = t ∧ m.publicId = p ∧
    ∃ identity ∈ w.kratos.identities.lookup m.oryGlobalId, kratosEmail identity = some ""

/-- A first email that Kratos has and the membership has not. -/
structure HalfStored (w₀ : World) (m : IdMappingRow) (email : String) (w : World) : Prop where
  others : EmailInv (fun m' => m' ≠ m) w
  kept : EmailKept w₀ w
  mapped : m ∈ w.db.idMappings ∧ m.backend = .kratos
  kratosHas : KratosHas w m.oryGlobalId (some email)
  membershipHas : MembershipHas w m.tenantId m.publicId (some email)

/-- The membership makes it whole. -/
theorem HalfStored.upsertMembership {m : IdMappingRow} {email i : String} {v : ℕ} {traits : Value}
    (hw : HalfStored w₀ m email w) (hemail : emailTrait traits = some email) :
    EmailSettled w₀ { w with directory :=
      (w.directory.upsertMembership ⟨m.tenantId, m.publicId, i, v, traits⟩) } := by
  have hkratos := hw.kratosHas
  have hmembership := hw.membershipHas
  rw [← hemail] at hkratos hmembership
  have hinv : EmailInv (fun m' => m' ≠ m ∨ m' = m)
      { w with directory := w.directory.upsertMembership ⟨m.tenantId, m.publicId, i, v, traits⟩ } :=
    hw.others.upsertMembership hw.mapped.1 hw.mapped.2 rfl rfl hkratos
  refine ⟨hinv.mono fun m' _ => (em (m' = m)).symm, ?_⟩
  exact hw.kept.trans (emailKept_upsertMembership hmembership)

theorem kratosEmail_updated (id : String) (old : Value) (schemaId email : String) :
    kratosEmail (updatedIdentity id old (buildKratosIdentityPayload schemaId email "")) =
      some email :=
  kratosEmail_updatedIdentity id old (.obj [("email", .str email)]) [("schema_id", .str schemaId)]

/-- Kratos has the email, and the membership has it or none. -/
theorem EmailSettled.halfStored {m : IdMappingRow} {email : String} {old : Value}
    (hw : EmailSettled w₀ w) (hm : m ∈ w.db.idMappings) (hb : m.backend = .kratos)
    (hcanonical : Canonical email) {r : TenantMembershipRow} (hr : r ∈ w.directory.memberships)
    (ht : r.tenantId = m.tenantId) (hp : r.publicId = m.publicId)
    (hsame : ∀ e, emailTrait r.traits = some e → e ≠ "" → e = email)
    (hold : w.kratos.identities.lookup m.oryGlobalId = some old) (schemaId : String) :
    HalfStored w₀ m email (replaceIdentity w m.oryGlobalId
      (updatedIdentity m.oryGlobalId old (buildKratosIdentityPayload schemaId email ""))) where
  others := by
    refine hw.1.replaceIdentity (fun _ _ => trivial) hold fun m' hm' hb' ho' hne => ?_
    exact absurd (hw.1.sole m' hm' m hm (hb'.trans hb.symm) ho') hne
  kept := hw.2
  mapped := ⟨hm, hb⟩
  kratosHas := by
    intro identity hidentity
    rw [lookup_replaceIdentity_self] at hidentity
    cases hidentity
    exact ⟨email, rfl, kratosEmail_updated _ _ _ _, hcanonical⟩
  membershipHas := by
    intro r' hr' ht' hp' e he hne
    obtain ⟨e₁, he₁, hkratos₁, -⟩ := hw.1.agreed m hm hb trivial r' hr' ht' hp' old hold
    obtain ⟨e₂, he₂, hkratos₂, -⟩ := hw.1.agreed m hm hb trivial r hr ht hp old hold
    rw [he] at he₁
    rw [hkratos₁, ← he₁] at hkratos₂
    rw [hsame e (he₂.trans hkratos₂.symm) hne]

/-- The email at Kratos is the same, or it is the first one: then the update did what it says. -/
theorem sat_storeEmail {m : IdMappingRow} {email schemaId : String} (hw : EmailSettled w₀ w)
    (hm : m ∈ w.db.idMappings) (hb : m.backend = .kratos) (hcanonical : Canonical email)
    {r : TenantMembershipRow} (hr : r ∈ w.directory.memberships) (ht : r.tenantId = m.tenantId)
    (hp : r.publicId = m.publicId)
    (hsame : ∀ e, emailTrait r.traits = some e → e ≠ "" → e = email)
    (hfirst : (∃ identity ∈ w.kratos.identities.lookup m.oryGlobalId,
      kratosEmail identity = some "") → whole) :
    (callKratos (.updateIdentity m.oryGlobalId
      (buildKratosIdentityPayload schemaId email ""))).Sat (gateway env) (emailContract whole)
      (fun answer w' => (∀ e, answer = .error e → EmailSettled w₀ w') ∧ Prog.OnOk (fun _ w' =>
        HalfStored w₀ m email w' ∧ (whole ∨ EmailSettled w₀ w')) answer w') w := by
  refine sat_email.mpr fun c _ hlands => ?_
  rcases gateway_updateIdentity env c w m.oryGlobalId (buildKratosIdentityPayload schemaId email "")
    with ⟨e, hafter⟩ | ⟨old, hold, answer, hafter, hanswer⟩
  · rw [hafter]
    exact ⟨fun _ _ => hw, trivial⟩
  · obtain ⟨e, he, hkratos, -⟩ := hw.1.agreed m hm hb trivial r hr ht hp old hold
    have hhalf := hw.halfStored hm hb hcanonical hr ht hp hsame hold schemaId
    have hsettled : e ≠ "" → EmailSettled w₀ (replaceIdentity w m.oryGlobalId
        (updatedIdentity m.oryGlobalId old (buildKratosIdentityPayload schemaId email ""))) := by
      intro hne
      obtain rfl := hsame e he hne
      refine ⟨hw.1.replaceIdentity (fun _ h => h) hold fun _ _ _ _ _ _ _ _ _ => ?_, hw.2⟩
      rw [kratosEmail_updated, hkratos]
    rw [hafter]
    by_cases hne : e = ""
    · subst hne
      have hwhole := hfirst ⟨old, hold, hkratos⟩
      rcases hanswer with ⟨v, rfl⟩ | ⟨f, hf, happlied⟩
      · refine ⟨fun _ h => ?_, hhalf, .inl hwhole⟩
        cases h
      · -- the update was to be carried out as confirmed
        have hunapplied : f.applied = false := hlands hwhole f hf
        rw [happlied] at hunapplied
        cases hunapplied
    · exact ⟨fun _ _ => hsettled hne, Prog.onOk_iff.mpr fun _ _ => ⟨hhalf, .inr (hsettled hne)⟩⟩

/-- Writing the email to the membership. -/
theorem sat_storeMembership {m : IdMappingRow} {email i : String} {v : ℕ} {traits : Value}
    (hw : HalfStored w₀ m email w) (hor : whole ∨ EmailSettled w₀ w)
    (hemail : emailTrait traits = some email) :
    (callDirectory (.upsertMembership m.tenantId m.publicId i v traits)).Sat (gateway env)
      (emailContract whole) (Prog.Keeps (EmailSettled w₀) fun _ _ => True) w := by
  refine sat_email.mpr fun c _ hlands => ⟨?_, Prog.onOk_iff.mpr fun _ _ => trivial⟩
  rcases gateway_upsertMembership env c w m.tenantId m.publicId i v traits with hafter | hafter
  · rcases hor with hwhole | hsettled
    · -- the write lands, fault or not
      have happlied : (directoryHandler env (.upsertMembership m.tenantId m.publicId i v traits) c
          w.directory).2 = w.directory.upsertMembership ⟨m.tenantId, m.publicId, i, v, traits⟩ := by
        simp only [directoryHandler]
        rcases hf : c.fault 0 with _ | f
        · rfl
        · simp [Fault.answer, hlands hwhole f hf]
      simp only [gateway, happlied]
      exact hw.upsertMembership hemail
    · rw [hafter]
      exact hsettled
  · rw [hafter]
    exact hw.upsertMembership hemail

theorem requireSameEmail_ok {current : Value} {email : String} {a : Unit}
    (h : requireSameEmail current email = .ok a) {e : String} (he : emailTrait current = some e)
    (hne : e ≠ "") : e = email := by
  unfold requireSameEmail refuseIf at h
  split at h
  · cases h
  · rename_i hallowed
    rw [he] at hallowed
    by_contra hother
    exact hallowed ⟨hne, fun h => hother h.symm⟩

theorem keeps_updateIdentity (hw : EmailInv (fun _ => True) w) (cfg : IdentityConfig)
    (ctx : RequestContext) (req : UpdateIdentityRequest)
    (hadopt : ∀ t, requireTenantScope ctx scopeIdentityAdmin = .ok t → Adoptable t req.id w)
    (hfirst : ∀ t, requireTenantScope ctx scopeIdentityAdmin = .ok t → Unset t req.id w → whole) :
    (updateIdentity cfg ctx req).run.Sat (gateway env) (emailContract whole)
      (Prog.Keeps (EmailSettled w) fun _ _ => True) w := by
  refine Prog.keeps_run_bind (keeps_check w _) (fun _ h => hw.settled h) fun t w₁ hw₁ ht => ?_
  refine Prog.keeps_run_bind (keeps_resolveIdentity hw hw₁ (hadopt t ht)) (fun _ h => h)
    fun found w₂ hw₂ hfound => ?_
  obtain ⟨⟨m, hm, hb, rfl, hp, ho⟩, hr, htr, hpr, hmappings, hkratos⟩ := hfound
  refine Prog.keeps_run_bind ((Spared.refl w₂).keeps
    (calls_resolveSchema sparesEmails_of_isScimRead _ _)) (fun _ h => hw₂.spared h)
    fun schema w₃ hw₃ _ => ?_
  refine Prog.keeps_run_bind (hw₃.keeps_check _) (fun _ h => hw₂.spared h)
    fun pair w₄ hw₄ htraits => ?_
  obtain ⟨hemail, hcanonical⟩ := requestTraits_email htraits
  refine Prog.keeps_run_bind (hw₄.keeps_check _) (fun _ h => hw₂.spared h)
    fun _ w₅ hw₅ hallowed => ?_
  have hm₅ : m ∈ w₅.db.idMappings := by
    rw [hw₅.1.idMappings, hmappings]
    exact hm
  have hr₅ : found.2 ∈ w₅.directory.memberships := by
    rw [hw₅.1.memberships]
    exact hr
  have hunset : (∃ identity ∈ w₅.kratos.identities.lookup m.oryGlobalId,
      kratosEmail identity = some "") → whole := by
    rw [hw₅.2, hkratos]
    exact fun h => hfirst m.tenantId ht ⟨m, hm, hb, rfl, hp, h⟩
  rw [← ho]
  refine Prog.keeps_run_bind_of_error (P := fun _ w' =>
      HalfStored w m pair.2 w' ∧ (whole ∨ EmailSettled w w'))
    (Prog.sat_run_orThrow.mpr ((sat_storeEmail (hw₂.spared hw₅) hm₅ hb hcanonical hr₅ htr
      (hpr.trans hp.symm) (fun e he hne => requireSameEmail_ok hallowed he hne) hunset).post
      fun answer w' h => ?_)) fun _ w₆ hw₆ => ?_
  · cases answer with
    | ok v =>
        refine ⟨fun e he => ?_, h.2⟩
        cases he
    | error e => exact ⟨fun _ _ => h.1 e rfl, trivial⟩
  · rw [← hp]
    refine Prog.keeps_run_bind (Prog.keeps_run_orThrow (sat_storeMembership hw₆.1 hw₆.2 hemail))
      (fun _ h => h) fun _ w₇ hw₇ _ => ?_
    exact Prog.keeps_run_pure hw₇ trivial

/-! ## The settings flow -/

/-- A membership is determined by its tenant and public id. -/
theorem Directory.membership_unique {d : Directory} {r r' : TenantMembershipRow}
    (hr : r ∈ d.memberships) (hr' : r' ∈ d.memberships) (ht : r.tenantId = r'.tenantId)
    (hp : r.publicId = r'.publicId) : r = r' := by
  have hsymm : Std.Symm fun r r' : TenantMembershipRow =>
      ¬ (r.tenantId = r'.tenantId ∧ r.publicId = r'.publicId) :=
    ⟨fun _ _ h h' => h ⟨h'.1.symm, h'.2.symm⟩⟩
  by_contra hne
  exact d.membershipKey.forall hr hr' hne ⟨ht, hp⟩

theorem calls_resolveFlow (tenantId flowId : String) :
    (resolveFlow tenantId flowId).run.Calls GatewayOp.SparesEmails := by
  refine Prog.calls_run_bind (calls_check _) fun _ => ?_
  refine Prog.calls_run_bind (Prog.calls_run_attempt (Prog.calls_perform trivial)) fun r => ?_
  split
  · trivial
  · exact Prog.calls_run_bind (Prog.calls_run_orThrow (Prog.calls_perform trivial)) fun _ => trivial
  · trivial

/-- The session of the cookie is that of the identity, and shows its email. -/
def SessionOf (cookie : Option String) (w : World) (session : Value) : Prop :=
  cookie.bind (fun s => w.kratos.sessions.lookup s) = some session ∧
    ∀ o ∈ sessionIdentityId session, ∀ identity ∈ w.kratos.identities.lookup o,
      sessionEmail session = kratosEmail identity

theorem Spared.keeps_toSession (hw : Spared w₀ w) (cookie : Option String) :
    (Prog.orThrow mapSelfServiceOryError (callKratos (.toSession cookie))).run.Sat (gateway env)
      (emailContract whole) (Prog.Keeps (Spared w₀) fun session _ =>
        SessionOf cookie w₀ session) w := by
  have hop : GatewayOp.SparesEmails (.kratos (.toSession cookie)) := trivial
  refine Prog.keeps_run_orThrow (sat_email.mpr fun c hfaithful _ => ⟨?_, Prog.onOk_iff.mpr ?_⟩)
  · exact hw.trans (spared_of_sparesEmails env hop c w)
  · intro session hsession
    have hlookup := gateway_toSession_ok hsession
    have hshows : ∀ session ∈ cookie.bind fun s => w.kratos.sessions.lookup s,
        ∀ id ∈ sessionIdentityId session, ∀ identity ∈ w.kratos.identities.lookup id,
          sessionEmail session = kratosEmail identity := hfaithful
    unfold SessionOf
    rw [← hw.2]
    exact ⟨hlookup, hshows session hlookup⟩

theorem Spared.keeps_getPublicId (hw : Spared w₀ w) (t o : String) :
    (Prog.orThrow ServiceError.ofDbError (IdMappingStore.getPublicId t .kratos o)).run.Sat
      (gateway env) (emailContract whole)
      (Prog.Keeps (Spared w₀) fun p _ => MappedAs w₀ t p o) w := by
  refine Prog.keeps_run_orThrow (sat_email.mpr fun c _ _ => ⟨?_, Prog.onOk_iff.mpr ?_⟩)
  · exact hw.trans (spared_of_sparesEmails env (by trivial) c w)
  · intro p hp
    rcases gateway_getPublicId env c w t .kratos o with ⟨m, hm, ⟨ht, hb, ho⟩, h⟩ | ⟨-, h⟩ | ⟨e, -, h⟩
    · rw [h] at hp
      rw [hw.1.idMappings] at hm
      exact ⟨m, hm, hb, ht, Except.ok.inj hp, ho⟩
    · rw [h] at hp
      cases hp
    · rw [h] at hp
      cases hp

theorem keeps_settingsMembership (hw : EmailInv (fun _ => True) w₀) (hsame : Spared w₀ w)
    {t p o : String} {cookie : Option String} {session : Value} (hmapped : MappedAs w₀ t p o)
    (hsession : SessionOf cookie w₀ session) (hidentity : sessionIdentityId session = some o)
    (hadopt : Adoptable t p w₀) :
    (settingsMembership t p session).run.Sat (gateway env) (emailContract whole)
      (Prog.Keeps (EmailSettled w₀) fun r w' => MembershipFound t p w₀ r w') w := by
  refine Prog.keeps_run_bind (hsame.keeps_getMembership t p) (fun _ h => hw.settled h)
    fun answer w₁ hw₁ hanswer => ?_
  split
  · exact Prog.keeps_run_pure (hw.settled hw₁) (hanswer.1 _ rfl)
  · have hnone := hanswer.2 rfl
    refine Prog.keeps_run_bind (hw₁.keeps (Prog.calls_run_orThrow (Prog.calls_perform trivial)))
      (fun _ h => hw.settled h) fun schema w₂ hw₂ _ => ?_
    -- the session shows the canonical email that Kratos has
    have hkratos : KratosHas w₂ o
        (emailTrait (.obj [("email", .str ((sessionEmail session).getD ""))])) := by
      refine KratosHas.spared (fun identity hlookup => ?_) hw₂
      obtain ⟨e, he, hkratos, hcanonical⟩ :=
        hadopt.kratosHas hmapped hnone hlookup identity hlookup
      refine ⟨e, ?_, he, hcanonical⟩
      rw [hsession.2 o hidentity identity hlookup, he]
      rfl
    have hmembership : MembershipHas w₂ t p
        (emailTrait (.obj [("email", .str ((sessionEmail session).getD ""))])) := by
      intro r hr ht hp
      rw [hw₂.1.memberships] at hr
      exact absurd ⟨ht, hp⟩ (hnone r hr)
    refine (Prog.keeps_run_orThrow (sat_upsertMembership (hw.settled hw₂)
      (hmapped.spared hw₂) hkratos hmembership)).post fun answer w₃ hr => ⟨hr.1.1, ?_⟩
    refine Prog.onOk_iff.mpr fun r hanswer => ?_
    obtain ⟨heq, hr'⟩ := Prog.onOk_iff.mp hr.2 r hanswer
    refine ⟨hr', ?_, ?_, ?_, ?_⟩
    · rw [heq]
    · rw [heq]
    · rw [hr.1.2.1, hw₂.1.idMappings]
    · rw [hr.1.2.2, hw₂.2]
  · exact ⟨hw.settled hw₁, trivial⟩

/-- The traits of a body, if the session's identity has a membership, keep the email. -/
def KeepsEmail (cookie : Option String) (body : Value) (w : World) : Prop :=
  ∀ session ∈ cookie.bind fun s => w.kratos.sessions.lookup s,
    ∀ o ∈ sessionIdentityId session, ∀ traits ∈ (body.get "traits").bind Value.asObject,
      ∀ m ∈ w.db.idMappings, m.backend = .kratos → m.oryGlobalId = o →
        ∀ r ∈ w.directory.memberships, r.tenantId = m.tenantId → r.publicId = m.publicId →
          ∀ identity ∈ w.kratos.identities.lookup o, emailTrait (.obj traits) = kratosEmail identity

/-- Submitting such a body. -/
theorem sat_submitSettings (hw : EmailSettled w₀ w) {cookie : Option String} {body : Value}
    (hbody : KeepsEmail cookie body w) (flowId : String) :
    (callKratos (.submitSettingsFlow flowId cookie body)).Sat (gateway env) (emailContract whole)
      (fun _ w' => EmailSettled w₀ w') w := by
  refine sat_email.mpr fun c _ _ => ?_
  simp only [gateway, kratosHandler]
  refine oryAnswer_snd (P := fun k => EmailSettled w₀ { w with kratos := k }) hw ?_
  split
  · rename_i session hsession
    unfold submittedSettings
    split
    · rename_i o traits ho htraits
      split
      · rename_i old hold
        refine ⟨hw.1.replaceIdentity (fun _ h => h) hold fun m hm hb hid _ r hr ht hp => ?_, hw.2⟩
        rw [← hbody session hsession o ho traits htraits m hm hb hid r hr ht hp old hold]
        exact kratosEmail_updatedIdentity o old (.obj traits) []
      · exact hw
    · exact hw
  · exact hw

/-- A profile update makes no membership from an email that is not canonical. -/
def SettingsAdopt (ctx : RequestContext) (cookie : Option String) (body : Value) (w : World) :
    Prop :=
  ((body.get "traits").bind Value.asObject).isSome →
    ∀ session ∈ cookie.bind fun s => w.kratos.sessions.lookup s,
      ∀ o ∈ sessionIdentityId session, ∀ m ∈ w.db.idMappings, m.backend = .kratos →
        m.tenantId = ctx.tenant.getD "" → m.oryGlobalId = o → Adoptable m.tenantId m.publicId w

theorem settingsIdentity_ok {session : Value} {o : String} (h : settingsIdentity session = .ok o) :
    sessionIdentityId session = some o := by
  unfold settingsIdentity at h
  split at h
  · rename_i id hid
    cases h
    exact (Option.filter_eq_some_iff.mp hid).1
  · cases h

/-- The merged traits, next to what Kratos and the memberships have. -/
theorem merged_has {t p o : String} {r : TenantMembershipRow} (hw : EmailSettled w₀ w)
    (hmapped : MappedAs w t p o) (hr : r ∈ w.directory.memberships) (ht : r.tenantId = t)
    (hp : r.publicId = p) (submitted : Value) :
    KratosHas w o (emailTrait (mergeProfile r.traits submitted)) ∧
      MembershipHas w t p (emailTrait (mergeProfile r.traits submitted)) := by
  constructor
  · intro identity hidentity
    obtain ⟨m, hm, hb, htm, hpm, rfl⟩ := hmapped
    obtain ⟨e, he, hkratos, hcanonical⟩ := hw.1.agreed m hm hb trivial r hr (ht.trans htm.symm)
      (hp.trans hpm.symm) identity hidentity
    exact ⟨e, emailTrait_mergeProfile he submitted, hkratos, hcanonical⟩
  · intro r' hr' ht' hp' e he _
    have hsame := Directory.membership_unique hr' hr (ht'.trans ht.symm) (hp'.trans hp.symm)
    subst hsame
    exact emailTrait_mergeProfile he submitted

/-- The body that goes to Kratos has the traits that were put in. -/
theorem get_insert_traits {body : Value} {fields traits : List (String × Value)}
    (h : (body.get "traits").bind Value.asObject = some fields) :
    ((body.insert "traits" (.obj traits)).get "traits").bind Value.asObject = some traits := by
  cases body with
  | obj entries =>
      have hget : ((Value.obj entries).insert "traits" (.obj traits)).get "traits" =
          some (.obj traits) := Value.lookup_upsert_self "traits" _ entries
      rw [hget]
      rfl
  | _ => cases h

theorem keeps_interceptSettingsProfile (hw : EmailInv (fun _ => True) w₀) (hsame : Spared w₀ w)
    (compile : SchemaCompiler) (ctx : RequestContext) {cookie : Option String} {body : Value}
    (hadopt : SettingsAdopt ctx cookie body w₀) :
    (interceptSettingsProfile compile (ctx.tenant.getD "") cookie body).run.Sat (gateway env)
      (emailContract whole) (Prog.Keeps (EmailSettled w₀) fun sent w' => KeepsEmail cookie sent w')
      w := by
  unfold interceptSettingsProfile
  split
  · rename_i hnone
    refine Prog.keeps_run_pure (hw.settled hsame) fun session _ o _ traits htraits => ?_
    rw [hnone] at htraits
    cases htraits
  rename_i fields hfields
  refine Prog.keeps_run_bind (hsame.keeps_toSession cookie) (fun _ h => hw.settled h)
    fun session w₁ hw₁ hsession => ?_
  refine Prog.keeps_run_bind (hw₁.keeps_check _) (fun _ h => hw.settled h) fun o w₂ hw₂ ho => ?_
  have ho := settingsIdentity_ok ho
  refine Prog.keeps_run_bind (hw₂.keeps_getPublicId _ o) (fun _ h => hw.settled h)
    fun p w₃ hw₃ hmapped => ?_
  have hadopted : Adoptable (ctx.tenant.getD "") p w₀ := by
    obtain ⟨m, hm, hb, ht, rfl, hid⟩ := hmapped
    rw [← ht]
    exact hadopt (by rw [hfields]; rfl) session hsession.1 o ho m hm hb ht hid
  refine Prog.keeps_run_bind (keeps_settingsMembership hw hw₃ hmapped hsession ho hadopted)
    (fun _ h => h) fun r w₄ hw₄ hfound => ?_
  obtain ⟨hr, ht, hp, hmappings, hkratos⟩ := hfound
  refine Prog.keeps_run_bind ((Spared.refl w₄).keeps
    (Prog.calls_run_orThrow (Prog.calls_perform trivial))) (fun _ h => hw₄.spared h)
    fun schema w₅ hw₅ _ => ?_
  refine Prog.keeps_run_bind (hw₅.keeps_check _) (fun _ h => hw₄.spared h) fun _ w₆ hw₆ _ => ?_
  refine Prog.keeps_run_bind (hw₆.keeps_check _) (fun _ h => hw₄.spared h) fun e w₇ hw₇ _ => ?_
  refine Prog.keeps_run_bind (hw₇.keeps_check _) (fun _ h => hw₄.spared h) fun _ w₈ hw₈ _ => ?_
  have hmapped₈ : MappedAs w₈ (ctx.tenant.getD "") p o := by
    refine MappedAs.spared ?_ hw₈
    unfold MappedAs
    rw [hmappings]
    exact hmapped
  have hr₈ : r ∈ w₈.directory.memberships := by
    rw [hw₈.1.memberships]
    exact hr
  obtain ⟨hkratosHas, hmembershipHas⟩ := merged_has (hw₄.spared hw₈) hmapped₈ hr₈ ht hp
    (normalizeTraits (.obj fields))
  refine Prog.keeps_run_bind (Prog.keeps_run_orThrow (sat_upsertMembership (hw₄.spared hw₈)
    hmapped₈ hkratosHas hmembershipHas)) (fun _ h => h.1) fun _ w₉ hw₉ _ => ?_
  refine Prog.keeps_run_pure hw₉.1 ?_
  intro session' hsession' o' ho' traits htraits m hm hb hid _ _ _ _ identity hidentity
  have hkratos₉ : w₉.kratos = w₀.kratos := by rw [hw₉.2.2, hw₈.2, hkratos]
  have hmappings₉ : w₉.db.idMappings = w₀.db.idMappings := by
    rw [hw₉.2.1, hw₈.1.idMappings, hmappings]
  -- the session is still that of the identity
  rw [hkratos₉] at hsession' hidentity
  have hsame' : session' = session := Option.some.inj (hsession'.symm.trans hsession.1)
  rw [hsame'] at ho'
  have hid' : o' = o := Option.some.inj (ho'.symm.trans ho)
  rw [hid'] at hid hidentity
  obtain ⟨m', hm', hb', ht', hp', ho''⟩ := hmapped
  rw [hmappings₉] at hm
  have hm'' : m = m' := hw.sole m hm m' hm' (hb.trans hb'.symm) (hid.trans ho''.symm)
  subst hm''
  have hm₄ : m ∈ w₄.db.idMappings := by
    rw [hmappings]
    exact hm
  have hidentity₄ : w₄.kratos.identities.lookup m.oryGlobalId = some identity := by
    rw [hkratos, hid]
    exact hidentity
  obtain ⟨e, he, hemail, -⟩ := hw₄.1.agreed m hm₄ hb trivial r hr (ht.trans ht'.symm)
    (hp.trans hp'.symm) identity hidentity₄
  rw [get_insert_traits hfields] at htraits
  cases htraits
  rw [hemail, he]
  rfl

theorem keeps_submitSettingsFlow (hw : EmailInv (fun _ => True) w) (compile : SchemaCompiler)
    (ctx : RequestContext) {cookie : Option String} (flowId : String) {body : Value}
    (hadopt : SettingsAdopt ctx cookie body w) :
    (submitSettingsFlow compile ctx cookie flowId body).run.Sat (gateway env) (emailContract whole)
      (Prog.Keeps (EmailSettled w) fun _ _ => True) w := by
  refine Prog.keeps_run_bind ((Spared.refl w).keeps (calls_resolveFlow _ _))
    (fun _ h => hw.settled h) fun oryFlowId w₁ hw₁ _ => ?_
  refine Prog.keeps_run_bind (keeps_interceptSettingsProfile hw hw₁ compile ctx hadopt)
    (fun _ h => h) fun sent w₂ hw₂ hsent => ?_
  exact Prog.keeps_run_attempt ((sat_submitSettings hw₂ hsent oryFlowId).post
    fun _ _ h => ⟨h, trivial⟩)

end programs

/-! ## Sequences of operations -/

/-- The operations that write the email of an identity. -/
inductive EmailCall where
  | createIdentity (cfg : IdentityConfig) (req : CreateIdentityRequest)
  | updateIdentity (cfg : IdentityConfig) (req : UpdateIdentityRequest)
  | createUser (compile : SchemaCompiler) (user : Option ScimUser)
  | updateUser (compile : SchemaCompiler) (id : String) (user : Option ScimUser)
  | submitSettingsFlow (compile : SchemaCompiler) (cookie : Option String) (flowId : String)
      (body : Value)

/-- The program of an operation; what it answers is not looked at. -/
def EmailCall.prog (ctx : RequestContext) : EmailCall → Service Unit
  | .createIdentity cfg req => (fun _ => ()) <$> SsoGateway.createIdentity cfg ctx req
  | .updateIdentity cfg req => (fun _ => ()) <$> SsoGateway.updateIdentity cfg ctx req
  | .createUser compile user => (fun _ => ()) <$> SsoGateway.createUser compile ctx user
  | .updateUser compile id user => (fun _ => ()) <$> SsoGateway.updateUser compile ctx id user
  | .submitSettingsFlow compile cookie flowId body =>
      (fun _ => ()) <$> SsoGateway.submitSettingsFlow compile ctx cookie flowId body

/-- A step: an operation, with its caller and the choices for its calls, or a change elsewhere, such
as a login or a new schema. -/
inductive EmailStep where
  | operation (ctx : RequestContext) (call : EmailCall) (choices : ℕ → Choice)
  | elsewhere (change : World → World) (hchange : ∀ w, SameRecords w (change w))

/-- The world after a step, whether or not the operation succeeds. -/
def EmailStep.after (env : Env) (w : World) : EmailStep → World
  | .operation ctx call choices => ((call.prog ctx).run.run (gateway env) choices w).2
  | .elsewhere change _ => change w

/-- The calls of a step. -/
def EmailStep.calls (env : Env) (w : World) : EmailStep → List (Event Gateway Choice World)
  | .operation ctx call choices => (call.prog ctx).run.events (gateway env) choices w
  | .elsewhere _ _ => []

/-- The states of a sequence, the first and the last one included. -/
def emailStates (env : Env) : List EmailStep → World → List World
  | [], w => [w]
  | step :: steps, w => w :: emailStates env steps (step.after env w)

/-- The calls of a sequence. -/
def emailCalls (env : Env) : List EmailStep → World → List (Event Gateway Choice World)
  | [], _ => []
  | step :: steps, w => step.calls env w ++ emailCalls env steps (step.after env w)

/-- SCIM does not change the email of an identity with a membership, and a membership is only made
from a canonical email. -/
def EmailCall.Considerate (ctx : RequestContext) (w : World) : EmailCall → Prop
  | .updateIdentity _ req =>
      ∀ t ∈ (requireTenantScope ctx scopeIdentityAdmin).toOption, Adoptable t req.id w
  | .updateUser _ id user => ScimKeepsEmail ctx id user w
  | .submitSettingsFlow _ cookie _ body => SettingsAdopt ctx cookie body w
  | _ => True

/-- The operation may set an email where there is none. -/
def EmailCall.SetsFirst (ctx : RequestContext) (w : World) : EmailCall → Prop
  | .updateIdentity _ req =>
      ∃ t ∈ (requireTenantScope ctx scopeIdentityAdmin).toOption, Unset t req.id w
  | _ => False

/-- The condition on a step; the two writes of a first email land. -/
def EmailStep.Considerate (env : Env) (w : World) : EmailStep → Prop
  | .operation ctx call choices => call.Considerate ctx w ∧ (call.SetsFirst ctx w →
      ∀ ev ∈ (call.prog ctx).run.events (gateway env) choices w, ev.op.Lands ev.choice)
  | .elsewhere _ _ => True

/-- The condition on a sequence. -/
def ConsiderateRun (env : Env) : List EmailStep → World → Prop
  | [], _ => True
  | step :: steps, w => step.Considerate env w ∧ ConsiderateRun env steps (step.after env w)

/-- **One operation** keeps the invariant and the emails that are set, whether or not it succeeds. -/
theorem keeps_prog {env : Env} {whole : Prop} {w : World} (hw : EmailInv (fun _ => True) w)
    {ctx : RequestContext} {call : EmailCall} (hcall : call.Considerate ctx w)
    (hfirst : call.SetsFirst ctx w → whole) :
    (call.prog ctx).run.Sat (gateway env) (emailContract whole)
      (Prog.Keeps (EmailSettled w) fun _ _ => True) w := by
  cases call with
  | createIdentity cfg req => exact Prog.keeps_run_map (keeps_createIdentityCall hw cfg ctx req)
  | createUser compile user => exact Prog.keeps_run_map (keeps_createUser hw compile ctx user)
  | updateUser compile id user => exact Prog.keeps_run_map (keeps_updateUser hw compile ctx hcall)
  | submitSettingsFlow compile cookie flowId body =>
      exact Prog.keeps_run_map (keeps_submitSettingsFlow hw compile ctx flowId hcall)
  | updateIdentity cfg req =>
      refine Prog.keeps_run_map (keeps_updateIdentity hw cfg ctx req (fun t ht => ?_) fun t ht h => ?_)
      · exact hcall t (by rw [ht]; rfl)
      · exact hfirst ⟨t, by rw [ht]; rfl, h⟩

theorem settled_step {env : Env} {w : World} (hw : EmailInv (fun _ => True) w) {step : EmailStep}
    (hstep : step.Considerate env w)
    (hkratos : ∀ ev ∈ step.calls env w, KratosFaithful ev.op ev.choice ev.before) :
    EmailSettled w (step.after env w) := by
  cases step with
  | operation ctx call choices =>
      have hsat : (call.prog ctx).run.Sat (gateway env) (emailContract (call.SetsFirst ctx w))
          (Prog.Keeps (EmailSettled w) fun _ _ => True) w := keeps_prog hw hstep.1 id
      obtain ⟨-, hafter⟩ := hsat.run_events (fun _ => rfl) fun ev hev =>
        ⟨hkratos ev hev, fun hfirst => hstep.2 hfirst ev hev⟩
      exact hafter.1
  | elsewhere change hchange => exact ⟨hw.same (hchange w), (hchange w).emailKept⟩

/-- What the memberships have at the beginning of a sequence they have in every state of it. -/
theorem one_email_from (env : Env) (steps : List EmailStep) {w : World}
    (hw : EmailInv (fun _ => True) w)
    (hkratos : ∀ ev ∈ emailCalls env steps w, KratosFaithful ev.op ev.choice ev.before)
    (hsteps : ConsiderateRun env steps w) :
    (∀ v ∈ emailStates env steps w, OneEmail v ∧ EmailKept w v) ∧
      (emailStates env steps w).Pairwise EmailKept := by
  have honeEmail : ∀ {w : World}, EmailInv (fun _ => True) w → OneEmail w :=
    fun hw m hm hb => hw.agreed m hm hb trivial
  induction steps generalizing w with
  | nil =>
      refine ⟨fun v hv => ?_, List.pairwise_singleton _ _⟩
      rw [List.mem_singleton.mp hv]
      exact ⟨honeEmail hw, .refl w⟩
  | cons step steps ih =>
      obtain ⟨hstep, hsteps⟩ := hsteps
      obtain ⟨hinv, hkept⟩ := settled_step hw hstep fun ev hev =>
        hkratos ev (List.mem_append_left _ hev)
      obtain ⟨hstates, hpairwise⟩ := ih hinv
        (fun ev hev => hkratos ev (List.mem_append_right _ hev)) hsteps
      have hrest : ∀ v ∈ emailStates env steps (step.after env w), EmailKept w v :=
        fun v hv => hkept.trans (hstates v hv).2
      refine ⟨fun v hv => ?_, List.pairwise_cons.mpr ⟨hrest, hpairwise⟩⟩
      rcases List.mem_cons.mp hv with rfl | hv
      · exact ⟨honeEmail hw, .refl v⟩
      · exact ⟨(hstates v hv).1, hrest v hv⟩

/-- **One identity, one email.** From a state without identities, and in every state of every
sequence of operations, failed ones included: if the operations meet the condition, then an identity
with a membership has one canonical email in the membership and in Kratos, and a membership never
loses or changes an email that is not empty. -/
theorem one_email (env : Env) (steps : List EmailStep) {w : World}
    (hempty : w.db.idMappings = [] ∧ w.directory.memberships = [])
    (hkratos : ∀ ev ∈ emailCalls env steps w, KratosFaithful ev.op ev.choice ev.before)
    (hsteps : ConsiderateRun env steps w) :
    (∀ v ∈ emailStates env steps w, OneEmail v) ∧
      (emailStates env steps w).Pairwise EmailKept := by
  have hw : EmailInv (fun _ => True) w := by
    refine ⟨?_, ?_, ?_⟩
    · intro m hm
      rw [hempty.1] at hm
      exact absurd hm List.not_mem_nil
    · intro r hr
      rw [hempty.2] at hr
      exact absurd hr List.not_mem_nil
    · intro m hm
      rw [hempty.1] at hm
      exact absurd hm List.not_mem_nil
  obtain ⟨hstates, hpairwise⟩ := one_email_from env steps hw hkratos hsteps
  exact ⟨fun v hv => (hstates v hv).1, hpairwise⟩

/-! ## An identity and its emails -/

section decidable

variable (ctx : RequestContext) (w : World)

instance : Decidable (OneEmail w) :=
  inferInstanceAs (Decidable (∀ m ∈ w.db.idMappings, m.backend = .kratos →
    ∀ r ∈ w.directory.memberships, r.tenantId = m.tenantId → r.publicId = m.publicId →
      ∀ identity ∈ w.kratos.identities.lookup m.oryGlobalId,
        ∃ e ∈ emailTrait r.traits, kratosEmail identity = some e ∧ Canonical e))

instance (t p : String) : Decidable (Adoptable t p w) := inferInstanceAs (Decidable (_ ∨ _))

instance (t p : String) : Decidable (Unset t p w) :=
  inferInstanceAs (Decidable (∃ m ∈ w.db.idMappings, _))

instance (id : String) (user : Option ScimUser) : Decidable (ScimKeepsEmail ctx id user w) :=
  inferInstanceAs (Decidable (∀ t ∈ (requireTenantScope ctx scopeScimAdmin).toOption, _))

instance (cookie : Option String) (body : Value) : Decidable (SettingsAdopt ctx cookie body w) :=
  inferInstanceAs (Decidable (_ → _))

instance (call : EmailCall) : Decidable (call.Considerate ctx w) := by
  unfold EmailCall.Considerate
  split <;> exact inferInstance

instance (call : EmailCall) : Decidable (call.SetsFirst ctx w) := by
  unfold EmailCall.SetsFirst
  split <;> exact inferInstance

instance (op : GatewayOp) (c : Choice) : Decidable (op.Lands c) := by
  unfold GatewayOp.Lands
  split <;> exact inferInstance

instance (op : GatewayOp) (c : Choice) : Decidable (KratosFaithful op c w) := by
  unfold KratosFaithful
  split <;> exact inferInstance

instance (env : Env) (step : EmailStep) : Decidable (step.Considerate env w) := by
  unfold EmailStep.Considerate
  split <;> exact inferInstance

instance (env : Env) : (steps : List EmailStep) → (w : World) →
    Decidable (ConsiderateRun env steps w)
  | [], _ => isTrue trivial
  | step :: steps, w =>
      have := instDecidableConsiderateRun env steps (step.after env w)
      inferInstanceAs (Decidable (_ ∧ _))

end decidable

/-- An admin of a tenant's identities. -/
def identityAdmin : RequestContext :=
  ⟨some "acme", some ⟨"acme", "root", .user, ["identity:admin", "scim:admin"]⟩⟩

/-- An identity is created under an email that is not in normal form. -/
def aliceCreated : EmailStep :=
  .operation identityAdmin (.createIdentity ⟨"default", fun _ => .ok fun _ => .ok ()⟩
    ⟨"", some (.ok (.obj [("email", .str " Alice@Example.com")])), ""⟩) (numbered 0 "ory-alice")

/-- SCIM updates it, with the given email. -/
def aliceUpdated (email : String) : EmailStep :=
  .operation identityAdmin (.updateUser (fun _ => .ok fun _ => .ok ()) "2"
    (some ⟨"", "alice", none, [.obj [("value", .str email)]], true, [], none⟩)) (numbered 100 "")

/-- The email of a membership is set once: SCIM repeats it. -/
theorem one_email_alice :
    (∃ v ∈ emailStates .firstRow [aliceCreated, aliceUpdated "alice@example.com"] twoTenants,
      v.directory.memberships.map (fun r => emailTrait r.traits) = [some "alice@example.com"] ∧
      v.kratos.identities.map (fun kv => kratosEmail kv.2) = [some "alice@example.com"]) ∧
    (∀ v ∈ emailStates .firstRow [aliceCreated, aliceUpdated "alice@example.com"] twoTenants,
      OneEmail v) ∧
    (emailStates .firstRow [aliceCreated, aliceUpdated "alice@example.com"] twoTenants).Pairwise
      EmailKept :=
  ⟨by decide, one_email .firstRow _ ⟨rfl, rfl⟩ (by decide) (by decide)⟩

/-- Another email from SCIM goes to Kratos alone. -/
theorem scim_update_user_changes_email :
    (twoTenants.db.idMappings = [] ∧ twoTenants.directory.memberships = []) ∧
    (∀ ev ∈ emailCalls .firstRow [aliceCreated, aliceUpdated "bob@example.com"] twoTenants,
      KratosFaithful ev.op ev.choice ev.before) ∧
    ∃ v ∈ emailStates .firstRow [aliceCreated, aliceUpdated "bob@example.com"] twoTenants,
      ¬ OneEmail v ∧
      v.directory.memberships.map (fun r => emailTrait r.traits) = [some "alice@example.com"] ∧
      v.kratos.identities.map (fun kv => kratosEmail kv.2) = [some "bob@example.com"] := by
  decide

end SsoGateway
