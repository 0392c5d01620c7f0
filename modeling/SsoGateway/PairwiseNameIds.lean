import SsoGateway.Errors
import SsoGateway.Lib.Base64Url
import SsoGateway.Lib.Table
import SsoGateway.Lib.Text
import SsoGateway.Lib.Utf8

/-!
# Pairwise NameIDs

The NameID of an identity at a service provider is a hash of the tenant, the provider and the identity.
It is kept in a table, one row a triple; where the table cannot be asked, it is computed again.

* `computePairwiseNameId`, `SamlNameIdMappings.getOrCreate`, `SamlNameIdMappings.findByNameId`,
  `resolvePairwiseNameId` — the functions.
* `Computed` — what holds of the table after any calls: each row has the NameID of its triple.
* `pairwise_name_ids` — a NameID is stable, and stands for one triple.

Source: `db/saml_nameid_mapping.rs`, `services/handlers/saml_idp.rs`, `saml_nameid_lookup.sql`.
-/

namespace SsoGateway

open Lib

/-- Source: `compute_pairwise_name_id`, with SHA-256 as a parameter. -/
def computePairwiseNameId (sha256 : List UInt8 → List UInt8) (tenantId spEntityId identityId : String) :
    String :=
  base64UrlEncode (sha256 (utf8Bytes (tenantId ++ ":" ++ spEntityId ++ ":" ++ identityId)))

/-! ## The table -/

/-- Source: `SamlNameIdMappingRow`. -/
structure SamlNameIdMappingRow where
  tenantId : String
  spEntityId : String
  identityId : String
  nameId : String
deriving DecidableEq, Repr

namespace SamlNameIdMappingRow

/-- The row of this triple. -/
def IsOf (tenantId spEntityId identityId : String) (r : SamlNameIdMappingRow) : Prop :=
  r.tenantId = tenantId ∧ r.spEntityId = spEntityId ∧ r.identityId = identityId

instance (t sp i : String) : DecidablePred (IsOf t sp i) := fun r =>
  inferInstanceAs (Decidable (r.tenantId = t ∧ r.spEntityId = sp ∧ r.identityId = i))

/-- `UNIQUE (tenant_id, sp_entity_id, identity_id)` and `name_id UNIQUE`. -/
def Conflicts (r r' : SamlNameIdMappingRow) : Prop :=
  r'.IsOf r.tenantId r.spEntityId r.identityId ∨ r.nameId = r'.nameId

instance : DecidableRel Conflicts := fun r r' =>
  inferInstanceAs (Decidable (r'.IsOf r.tenantId r.spEntityId r.identityId ∨ r.nameId = r'.nameId))

theorem Conflicts.symm {r r' : SamlNameIdMappingRow} (h : r.Conflicts r') : r'.Conflicts r := by
  rcases h with ⟨ht, hsp, hi⟩ | hname
  · exact .inl ⟨ht.symm, hsp.symm, hi.symm⟩
  · exact .inr hname.symm

end SamlNameIdMappingRow

/-- The table `saml_nameid_mappings`. -/
abbrev SamlNameIdMappings := Table SamlNameIdMappingRow SamlNameIdMappingRow.Conflicts

namespace SamlNameIdMappings

/-- The statement of `get_or_create`: the row that is there, or the new one. The row of another triple
with that NameID refuses it. -/
def upsert (sha256 : List UInt8 → List UInt8) (tenantId spEntityId identityId : String)
    (m : SamlNameIdMappings) : Except DbError String × SamlNameIdMappings :=
  match m.find? (SamlNameIdMappingRow.IsOf tenantId spEntityId identityId) with
  | some row => (.ok row.nameId, m)
  | none =>
      let nameId := computePairwiseNameId sha256 tenantId spEntityId identityId
      match m.insert? ⟨tenantId, spEntityId, identityId, nameId⟩ with
      | some m' => (.ok nameId, m')
      | none => (.error (.sqlx "duplicate key value violates unique constraint"), m)

/-- Source: `get_or_create`. -/
def getOrCreate (sha256 : List UInt8 → List UInt8) (fault : Option Fault)
    (tenantId spEntityId identityId : String) (m : SamlNameIdMappings) :
    Except DbError String × SamlNameIdMappings :=
  Fault.answer Fault.sqlx m (upsert sha256 tenantId spEntityId identityId m) fault

/-- Source: `find_by_name_id`. -/
def findByNameId (fault : Option Fault) (tenantId spEntityId nameId : String) (m : SamlNameIdMappings) :
    Except DbError String :=
  match fault with
  | some f => .error (Fault.sqlx f.error)
  | none =>
      match m.find? fun r => r.tenantId = tenantId ∧ r.spEntityId = spEntityId ∧ r.nameId = nameId with
      | some row => .ok row.identityId
      | none => .error .samlNameIdMappingNotFound

end SamlNameIdMappings

/-- One call: the triple, whether there is a store, and what happens to the call of it. -/
structure NameIdCall where
  tenantId : String
  spEntityId : String
  identityId : String
  store : Bool
  fault : Option Fault
deriving DecidableEq, Repr

/-- Source: `resolve_pairwise_name_id`. -/
def resolvePairwiseNameId (sha256 : List UInt8 → List UInt8) (call : NameIdCall) (m : SamlNameIdMappings) :
    String × SamlNameIdMappings :=
  let computed := computePairwiseNameId sha256 call.tenantId call.spEntityId call.identityId
  if call.store then
    let r := m.getOrCreate sha256 call.fault call.tenantId call.spEntityId call.identityId
    match r.1 with
    | .ok nameId => (nameId, r.2)
    | .error _ => (computed, r.2)
  else (computed, m)

/-- The answers of some calls, one after the other, and the table after them. -/
def resolveNameIds (sha256 : List UInt8 → List UInt8) :
    List NameIdCall → SamlNameIdMappings → List String × SamlNameIdMappings
  | [], m => ([], m)
  | call :: calls, m =>
      let first := resolvePairwiseNameId sha256 call m
      let rest := resolveNameIds sha256 calls first.2
      (first.1 :: rest.1, rest.2)

/-! ## A NameID stands for one triple -/

/-- **Different triples have different NameIDs.** The tenant ends at the first colon, and the identity
begins after the last one; colons of the provider are between the two. -/
theorem computePairwiseNameId_inj {sha256 : List UInt8 → List UInt8} (hsha : Function.Injective sha256)
    {t sp i t' sp' i' : String} (ht : ':' ∉ t.toList) (hi : ':' ∉ i.toList) (ht' : ':' ∉ t'.toList)
    (hi' : ':' ∉ i'.toList)
    (h : computePairwiseNameId sha256 t sp i = computePairwiseNameId sha256 t' sp' i') :
    t = t' ∧ sp = sp' ∧ i = i' := by
  have htext := congrArg String.toList (utf8Bytes_injective (hsha (base64UrlEncode_injective h)))
  have hcolon : ":".toList = [':'] := by decide
  simp only [String.toList_append, hcolon, List.append_assoc, List.cons_append, List.nil_append] at htext
  obtain ⟨htenant, hrest⟩ := cons_sep_inj ht ht' htext
  have hreverse := congrArg List.reverse hrest
  simp only [List.reverse_append, List.reverse_cons, List.append_assoc, List.cons_append,
    List.nil_append] at hreverse
  obtain ⟨hidentity, hprovider⟩ := cons_sep_inj (by simpa using hi) (by simpa using hi') hreverse
  exact ⟨String.toList_inj.mp htenant, String.toList_inj.mp (List.reverse_inj.mp hprovider),
    String.toList_inj.mp (List.reverse_inj.mp hidentity)⟩

/-! ## What the table holds -/

variable {sha256 : List UInt8 → List UInt8} {m : SamlNameIdMappings}

/-- Each row has the NameID of its triple. -/
def Computed (sha256 : List UInt8 → List UInt8) (m : SamlNameIdMappings) : Prop :=
  ∀ r ∈ m.rows, r.nameId = computePairwiseNameId sha256 r.tenantId r.spEntityId r.identityId

theorem computed_empty : Computed sha256 Table.empty := by
  intro r hr
  simp at hr

/-- What the statement does: it finds the row of the triple, inserts it, or is refused. -/
theorem upsert_cases (t sp i : String) (m : SamlNameIdMappings) :
    (∃ row ∈ m.rows, row.IsOf t sp i ∧ m.upsert sha256 t sp i = (.ok row.nameId, m)) ∨
    (∃ m', m'.rows = ⟨t, sp, i, computePairwiseNameId sha256 t sp i⟩ :: m.rows ∧
      m.upsert sha256 t sp i = (.ok (computePairwiseNameId sha256 t sp i), m')) ∨
    ((∃ row ∈ m.rows, ¬ row.IsOf t sp i ∧ row.nameId = computePairwiseNameId sha256 t sp i) ∧
      ∃ e, m.upsert sha256 t sp i = (.error e, m)) := by
  unfold SamlNameIdMappings.upsert
  cases hfind : m.find? (SamlNameIdMappingRow.IsOf t sp i) with
  | some row =>
      obtain ⟨hrow, hof⟩ := Table.find?_eq_some hfind
      exact .inl ⟨row, hrow, hof, rfl⟩
  | none =>
      have hnone := Table.find?_eq_none.mp hfind
      cases hinsert : m.insert? ⟨t, sp, i, computePairwiseNameId sha256 t sp i⟩ with
      | some m' => exact .inr (.inl ⟨m', (Table.insert?_eq_some hinsert).1, by simp [hinsert]⟩)
      | none =>
          obtain ⟨row, hrow, hconflict⟩ := Table.insert?_eq_none hinsert
          have hof : ¬ row.IsOf t sp i := fun hof => hnone ⟨row, hrow, hof⟩
          refine .inr (.inr ⟨⟨row, hrow, hof, (hconflict.resolve_left hof).symm⟩,
            .sqlx "duplicate key value violates unique constraint", ?_⟩)
          simp [hinsert]

/-- A statement keeps the rows computed, and answers with the NameID of its triple. -/
theorem upsert_computed (h : Computed sha256 m) (t sp i : String) :
    Computed sha256 (m.upsert sha256 t sp i).2 ∧
      (∀ n, (m.upsert sha256 t sp i).1 = .ok n → n = computePairwiseNameId sha256 t sp i) ∧
      ∀ r ∈ m.rows, r ∈ (m.upsert sha256 t sp i).2.rows := by
  rcases upsert_cases t sp i m with ⟨row, hrow, ⟨rfl, rfl, rfl⟩, heq⟩ | ⟨m', hrows, heq⟩ | ⟨-, e, heq⟩
  · rw [heq]
    refine ⟨h, fun n hn => ?_, fun r hr => hr⟩
    rw [← h row hrow]
    exact (Except.ok.inj hn).symm
  · rw [heq]
    refine ⟨?_, fun n hn => (Except.ok.inj hn).symm, ?_⟩
    · intro r hr
      rw [hrows] at hr
      rcases List.mem_cons.mp hr with rfl | hr
      · rfl
      · exact h r hr
    · intro r hr
      rw [hrows]
      exact List.mem_cons_of_mem _ hr
  · rw [heq]
    refine ⟨h, fun n hn => ?_, fun r hr => hr⟩
    simp at hn

/-- A call that fails has had its effect, or none. -/
theorem getOrCreate_table (fault : Option Fault) (t sp i : String) (m : SamlNameIdMappings) :
    (m.getOrCreate sha256 fault t sp i).2 = m ∨
      (m.getOrCreate sha256 fault t sp i).2 = (m.upsert sha256 t sp i).2 :=
  Fault.answer_snd fault

/-- **A step.** A call keeps the rows computed, takes none away, and answers with the NameID of its
triple, whatever happens to it. -/
theorem resolvePairwiseNameId_computed (h : Computed sha256 m) (call : NameIdCall) :
    (resolvePairwiseNameId sha256 call m).1 =
        computePairwiseNameId sha256 call.tenantId call.spEntityId call.identityId ∧
      Computed sha256 (resolvePairwiseNameId sha256 call m).2 ∧
      ∀ r ∈ m.rows, r ∈ (resolvePairwiseNameId sha256 call m).2.rows := by
  obtain ⟨hcomputed, hanswer, hrows⟩ :=
    upsert_computed h call.tenantId call.spEntityId call.identityId
  unfold resolvePairwiseNameId
  by_cases hstore : call.store
  · rw [if_pos hstore]
    have htable : Computed sha256 (m.getOrCreate sha256 call.fault call.tenantId call.spEntityId
        call.identityId).2 ∧ ∀ r ∈ m.rows, r ∈ (m.getOrCreate sha256 call.fault call.tenantId
          call.spEntityId call.identityId).2.rows := by
      rcases getOrCreate_table call.fault call.tenantId call.spEntityId call.identityId m with
        hsame | happlied
      · rw [hsame]
        exact ⟨h, fun r hr => hr⟩
      · rw [happlied]
        exact ⟨hcomputed, hrows⟩
    cases hresult : (m.getOrCreate sha256 call.fault call.tenantId call.spEntityId
        call.identityId).1 with
    | ok n =>
        obtain ⟨-, hok⟩ := Fault.answer_ok hresult
        simp only [hresult]
        exact ⟨hanswer n hok, htable⟩
    | error e =>
        simp only [hresult, true_and]
        exact htable
  · rw [if_neg hstore]
    exact ⟨rfl, h, fun r hr => hr⟩

/-- **A run.** The same holds of any number of calls. -/
theorem resolveNameIds_computed (calls : List NameIdCall) : ∀ {m : SamlNameIdMappings}, Computed sha256 m →
    (resolveNameIds sha256 calls m).1 = calls.map (fun call =>
        computePairwiseNameId sha256 call.tenantId call.spEntityId call.identityId) ∧
      Computed sha256 (resolveNameIds sha256 calls m).2 ∧
      ∀ r ∈ m.rows, r ∈ (resolveNameIds sha256 calls m).2.rows := by
  induction calls with
  | nil => exact fun h => ⟨rfl, h, fun r hr => hr⟩
  | cons call calls ih =>
      intro m h
      obtain ⟨hanswer, hcomputed, hrows⟩ := resolvePairwiseNameId_computed h call
      obtain ⟨hanswers, hcomputed', hrows'⟩ := ih hcomputed
      refine ⟨?_, hcomputed', fun r hr => hrows' r (hrows r hr)⟩
      simp only [resolveNameIds, hanswer, hanswers, List.map_cons]

/-- The NameID of a row is found to be of its identity. -/
theorem findByNameId_of_mem {r : SamlNameIdMappingRow} (hr : r ∈ m.rows) :
    m.findByNameId none r.tenantId r.spEntityId r.nameId = .ok r.identityId := by
  have hfind := Table.find?_eq_of_unique (t := m)
    (p := fun r' => r'.tenantId = r.tenantId ∧ r'.spEntityId = r.spEntityId ∧ r'.nameId = r.nameId) hr
    (by simp) fun r' hr' hsame => Table.eq_of_conflicts (fun _ _ => SamlNameIdMappingRow.Conflicts.symm)
      hr' hr (.inr hsame.2.2)
  simp only [SamlNameIdMappings.findByNameId, hfind]

/-! ## NameIDs are stable and not shared -/

/-- Neither the tenant nor the identity of the call has a colon. -/
def NameIdCall.Plain (call : NameIdCall) : Prop :=
  ':' ∉ call.tenantId.toList ∧ ':' ∉ call.identityId.toList

/-- Where the rows are of such calls, a call that the store answers leaves a row of its triple. -/
theorem stored_of_resolve (hsha : Function.Injective sha256) (h : Computed sha256 m)
    (hplain : ∀ r ∈ m.rows, ':' ∉ r.tenantId.toList ∧ ':' ∉ r.identityId.toList) {call : NameIdCall}
    (hcall : call.Plain) :
    (∀ r ∈ (resolvePairwiseNameId sha256 call m).2.rows,
      ':' ∉ r.tenantId.toList ∧ ':' ∉ r.identityId.toList) ∧
    (call.store = true → call.fault = none → ∃ r ∈ (resolvePairwiseNameId sha256 call m).2.rows,
      r.IsOf call.tenantId call.spEntityId call.identityId) := by
  have hupsert : (∀ r ∈ (m.upsert sha256 call.tenantId call.spEntityId call.identityId).2.rows,
        ':' ∉ r.tenantId.toList ∧ ':' ∉ r.identityId.toList) ∧
      ∃ r ∈ (m.upsert sha256 call.tenantId call.spEntityId call.identityId).2.rows,
        r.IsOf call.tenantId call.spEntityId call.identityId := by
    rcases upsert_cases call.tenantId call.spEntityId call.identityId m with
      ⟨row, hrow, hof, heq⟩ | ⟨m', hrows, heq⟩ | ⟨⟨row, hrow, hnot, hname⟩, e, heq⟩
    · rw [heq]
      exact ⟨hplain, row, hrow, hof⟩
    · rw [heq, hrows]
      exact ⟨List.forall_mem_cons.mpr ⟨hcall, hplain⟩, _, List.mem_cons_self, rfl, rfl, rfl⟩
    · -- a row with this NameID is of this triple
      rw [h row hrow] at hname
      exact absurd (computePairwiseNameId_inj hsha (hplain row hrow).1 (hplain row hrow).2 hcall.1 hcall.2
        hname) hnot
  have htable : (resolvePairwiseNameId sha256 call m).2 = if call.store then
      (m.getOrCreate sha256 call.fault call.tenantId call.spEntityId call.identityId).2 else m := by
    unfold resolvePairwiseNameId
    dsimp only
    split_ifs
    · split <;> rfl
    · rfl
  rw [htable]
  constructor
  · split_ifs
    · rcases getOrCreate_table call.fault call.tenantId call.spEntityId call.identityId m with
        hsame | happlied
      · rw [hsame]
        exact hplain
      · rw [happlied]
        exact hupsert.1
    · exact hplain
  · intro hstore hfault
    rw [if_pos hstore, hfault]
    exact hupsert.2

/-- In a run of such calls, each that the store answers leaves a row of its triple. -/
theorem stored_of_resolveNameIds (hsha : Function.Injective sha256) (calls : List NameIdCall) :
    ∀ {m : SamlNameIdMappings}, Computed sha256 m →
    (∀ r ∈ m.rows, ':' ∉ r.tenantId.toList ∧ ':' ∉ r.identityId.toList) →
    (∀ call ∈ calls, call.Plain) → ∀ call ∈ calls, call.store = true → call.fault = none →
    ∃ r ∈ (resolveNameIds sha256 calls m).2.rows,
      r.IsOf call.tenantId call.spEntityId call.identityId := by
  induction calls with
  | nil =>
      intro m _ _ _ call hcall
      simp at hcall
  | cons first calls ih =>
      intro m h hplain hcalls call hcall hstore hfault
      obtain ⟨hplain', hstored⟩ := stored_of_resolve hsha h hplain (hcalls first List.mem_cons_self)
      have hcomputed := (resolvePairwiseNameId_computed h first).2.1
      rcases List.mem_cons.mp hcall with rfl | hcall
      · obtain ⟨r, hr, hof⟩ := hstored hstore hfault
        exact ⟨r, (resolveNameIds_computed calls hcomputed).2.2 r hr, hof⟩
      · exact ih hcomputed hplain' (fun c hc => hcalls c (List.mem_cons_of_mem _ hc)) call hcall hstore
          hfault

/-- **Pairwise NameIDs are stable and never shared.** Triples whose tenant and identity have no colon
have different NameIDs. In any run of calls of which any may fail, with an effect or without one, calls
of one triple have one answer, and a NameID in the table is found to be of its identity; where no tenant
and no identity has a colon, the NameID of every call that the store has answered is. -/
theorem pairwise_name_ids (sha256 : List UInt8 → List UInt8) (hsha : Function.Injective sha256) :
    (∀ t sp i t' sp' i' : String, ':' ∉ t.toList → ':' ∉ i.toList → ':' ∉ t'.toList → ':' ∉ i'.toList →
      computePairwiseNameId sha256 t sp i = computePairwiseNameId sha256 t' sp' i' →
      t = t' ∧ sp = sp' ∧ i = i') ∧
    ∀ calls : List NameIdCall,
      (∀ (a b : ℕ) (call call' : NameIdCall), calls[a]? = some call → calls[b]? = some call' →
        call.tenantId = call'.tenantId → call.spEntityId = call'.spEntityId →
        call.identityId = call'.identityId → ∃ nameId,
          (resolveNameIds sha256 calls .empty).1[a]? = some nameId ∧
          (resolveNameIds sha256 calls .empty).1[b]? = some nameId) ∧
      (∀ r ∈ (resolveNameIds sha256 calls .empty).2.rows,
        (resolveNameIds sha256 calls .empty).2.findByNameId none r.tenantId r.spEntityId r.nameId =
          .ok r.identityId) ∧
      ((∀ call ∈ calls, call.Plain) → ∀ (a : ℕ) (call : NameIdCall) (nameId : String),
        calls[a]? = some call → call.store = true → call.fault = none →
        (resolveNameIds sha256 calls .empty).1[a]? = some nameId →
        (resolveNameIds sha256 calls .empty).2.findByNameId none call.tenantId call.spEntityId nameId =
          .ok call.identityId) := by
  refine ⟨fun t sp i t' sp' i' ht hi ht' hi' h => computePairwiseNameId_inj hsha ht hi ht' hi' h,
    fun calls => ?_⟩
  obtain ⟨hanswers, hcomputed, -⟩ := resolveNameIds_computed calls (computed_empty : Computed sha256 .empty)
  refine ⟨?_, fun r hr => findByNameId_of_mem hr, ?_⟩
  · intro a b call call' ha hb ht hsp hi
    rw [hanswers, List.getElem?_map, List.getElem?_map, ha, hb]
    exact ⟨_, rfl, by simp [ht, hsp, hi]⟩
  · intro hplain a call nameId ha hstore hfault hname
    obtain ⟨r, hr, ht, hsp, hi⟩ := stored_of_resolveNameIds hsha calls computed_empty (by simp) hplain
      call (List.mem_of_getElem? ha) hstore hfault
    rw [hanswers, List.getElem?_map, ha, Option.map_some] at hname
    rw [← Option.some.inj hname, ← ht, ← hsp, ← hi, ← hcomputed r hr]
    exact findByNameId_of_mem hr

/-- A call of one triple. -/
def nameIdCall (store : Bool) (fault : Option Fault) : NameIdCall :=
  ⟨"tenant-1", "https://sp.example.com:8443/metadata", "identity-1", store, fault⟩

/-- The table is lost after it was written, then answers, and then there is none. -/
def nameIdCalls : List NameIdCall :=
  [nameIdCall true (some ⟨true, .ory 500 "connection reset"⟩), nameIdCall true none, nameIdCall false none]

/-- The three calls have one answer, which is found to be of the identity. -/
theorem pairwise_name_ids_calls :
    ∃ nameId, (resolveNameIds id nameIdCalls .empty).1[0]? = some nameId ∧
      (resolveNameIds id nameIdCalls .empty).1[1]? = some nameId ∧
      (resolveNameIds id nameIdCalls .empty).2.findByNameId none "tenant-1"
        "https://sp.example.com:8443/metadata" nameId = .ok "identity-1" := by
  obtain ⟨hstable, -, hfound⟩ := (pairwise_name_ids id Function.injective_id).2 nameIdCalls
  obtain ⟨nameId, h₀, h₁⟩ := hstable 0 1 _ _ rfl rfl rfl rfl rfl
  have hplain : ∀ call ∈ nameIdCalls, call.Plain := by
    intro call hcall
    simp only [nameIdCalls, List.mem_cons, List.not_mem_nil, or_false] at hcall
    rcases hcall with rfl | rfl | rfl <;> exact ⟨by decide, by decide⟩
  exact ⟨nameId, h₀, h₁, hfound hplain 1 _ nameId rfl rfl rfl h₁⟩

end SsoGateway
