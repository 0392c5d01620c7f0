import SsoGateway.IdentityUpdates
import SsoGateway.Lib.Straight
import SsoGateway.Lib.Table

/-!
# Transient tokens

Tokens of the backends cross the boundary of the gateway under public names. A name is made once for a
token of one tenant, one backend and one type; making it again moves its expiry.

* `TransientTokens`, `transientStore` — the table `transient_token_mappings` and its statements.
* `NamedByHistory` — what a history says of the rows: each has the name of the call that first made it.
* `Renames` — what a created name stands for from then on.
* `transient_tokens_rename` — this holds of every created name in every history, and a flow is resolved
  alike from every tenant.

Constraints that look at other tables refuse a statement as a fault of it. Source:
`db/transient_token.rs`, `transient_token_mappings.sql`, `services/identity_self_service.rs`.
-/

namespace SsoGateway

open Lib

/-! ## The table -/

/-- What a public token is made for. -/
structure TransientKey where
  tenantId : String
  backend : Backend
  tokenType : String
  oryToken : String
deriving DecidableEq, Repr

namespace TransientTokenRow

/-- What the row is for. -/
def key (r : TransientTokenRow) : TransientKey := ⟨r.tenantId, r.backend, r.tokenType, r.oryToken⟩

/-- `UNIQUE (tenant_id, backend, token_type, ory_token)` and `public_token UNIQUE`. -/
def Conflicts (r r' : TransientTokenRow) : Prop := r.key = r'.key ∨ r.publicToken = r'.publicToken

instance : DecidableRel Conflicts := fun r r' =>
  inferInstanceAs (Decidable (r.key = r'.key ∨ r.publicToken = r'.publicToken))

theorem Conflicts.symm {r r' : TransientTokenRow} (h : r.Conflicts r') : r'.Conflicts r :=
  h.imp Eq.symm Eq.symm

/-- The row with another expiry. -/
def expiring (e : ℤ) (r : TransientTokenRow) : TransientTokenRow := { r with expiresAt := e }

@[simp] theorem key_expiring (e : ℤ) (r : TransientTokenRow) : (r.expiring e).key = r.key := rfl

@[simp] theorem publicToken_expiring (e : ℤ) (r : TransientTokenRow) :
    (r.expiring e).publicToken = r.publicToken := rfl

theorem keepsKeys_expiring (e : ℤ) : Table.KeepsKeys Conflicts (expiring e) :=
  ⟨fun _ _ => Iff.rfl, fun _ _ => Iff.rfl⟩

end TransientTokenRow

/-- The table `transient_token_mappings`. -/
abbrev TransientTokens := Table TransientTokenRow TransientTokenRow.Conflicts

/-- The statement of `create`: a new row, or the old one with the new expiry. -/
def TransientTokens.upsert (K : TransientKey) (expiresAt : ℤ) (ulid : String) (m : TransientTokens) :
    Except DbError String × TransientTokens :=
  if K.backend = .keto then
    -- `CHECK (backend IN ('hydra', 'kratos'))`
    (.error (.sqlx "violates check constraint"), m)
  else
    match m.find? fun r => r.key = K with
    | some row =>
        (.ok row.publicToken, m.updateWhere (fun r => r.key = K) (TransientTokenRow.expiring expiresAt)
          (TransientTokenRow.keepsKeys_expiring expiresAt))
    | none =>
        match m.insert? ⟨K.tenantId, K.backend, K.tokenType, ulid, K.oryToken, expiresAt⟩ with
        | some m' => (.ok ulid, m')
        | none => (.error (.sqlx "duplicate key value violates unique constraint"), m)

/-- Source: `PgTransientTokenStore`. -/
inductive TransientOp where
  | create (K : TransientKey) (expiresAt : ℤ)
  | getOryToken (tenantId : String) (backend : Backend) (tokenType publicToken : String)
  | getPublicToken (K : TransientKey)
  | delete (tenantId publicToken : String)
  | getOryTokenGlobal (backend : Backend) (tokenType publicToken : String)

/-- The answers. -/
@[reducible] def TransientOp.Res : TransientOp → Type
  | .create _ _ => Except DbError String
  | .getOryToken _ _ _ _ => Except DbError String
  | .getPublicToken _ => Except DbError String
  | .delete _ _ => Except DbError Unit
  | .getOryTokenGlobal _ _ _ => Except DbError (String × String)

/-- The signature of the store. -/
@[reducible] def TransientSig : Sig := ⟨TransientOp, TransientOp.Res⟩

/-- What is decided for one statement: `NOW()`, the ULID that was generated, and whether it fails. -/
structure TransientChoice where
  now : ℤ
  ulid : String
  fault : Option Fault
deriving DecidableEq, Repr

/-- What every statement does. -/
def transientStore : Handler TransientSig TransientChoice TransientTokens
  | .create K expiresAt, c, m => Fault.answer Fault.sqlx m (m.upsert K expiresAt c.ulid) c.fault
  | .getOryToken t b ty p, c, m =>
      let row := m.find? fun x => x.tenantId = t ∧ x.backend = b ∧ x.tokenType = ty ∧
        x.publicToken = p ∧ c.now < x.expiresAt
      Fault.answer Fault.sqlx m (orNotFound .mappingNotFound (·.oryToken) row, m) c.fault
  | .getPublicToken K, c, m =>
      let row := m.find? fun x => x.key = K ∧ c.now < x.expiresAt
      Fault.answer Fault.sqlx m (orNotFound .mappingNotFound (·.publicToken) row, m) c.fault
  | .delete t p, c, m =>
      let answer : Except DbError Unit :=
        if m.Affects fun x => x.tenantId = t ∧ x.publicToken = p then .ok () else .error .mappingNotFound
      Fault.answer Fault.sqlx m (answer, m.deleteWhere fun x => x.tenantId = t ∧ x.publicToken = p) c.fault
  | .getOryTokenGlobal b ty p, c, m =>
      let row := m.find? fun x => x.backend = b ∧ x.tokenType = ty ∧ x.publicToken = p ∧
        c.now < x.expiresAt
      Fault.answer Fault.sqlx m
        (orNotFound .mappingNotFound (fun x => (x.tenantId, x.oryToken)) row, m) c.fault

/-! ## Histories -/

/-- One statement of a history. -/
structure TransientCall where
  op : TransientOp
  choice : TransientChoice

namespace TransientCall

/-- The table after a statement. -/
def table (call : TransientCall) (m : TransientTokens) : TransientTokens :=
  (transientStore call.op call.choice m).2

/-- The statement has its effect, whatever is reported of it. -/
def TakesEffect (call : TransientCall) : Prop := ∀ f ∈ call.choice.fault, f.applied = true

instance (call : TransientCall) : Decidable call.TakesEffect :=
  inferInstanceAs (Decidable (∀ f ∈ call.choice.fault, f.applied = true))

/-- The ULID of a `create`. -/
def minted (call : TransientCall) : Option String :=
  match call.op with
  | .create _ _ => some call.choice.ulid
  | _ => none

/-- The expiry that the statement gives the row of a key. -/
def expiry (K : TransientKey) (e : ℤ) (call : TransientCall) : ℤ :=
  match call.op with
  | .create K' e' => if K' = K ∧ call.TakesEffect then e' else e
  | _ => e

end TransientCall

/-- The table after some statements. -/
def tableAfter (calls : List TransientCall) (m : TransientTokens) : TransientTokens :=
  calls.foldl (fun m call => call.table m) m

/-- The expiry of the row of a key after some statements. -/
def expiryAfter (K : TransientKey) (e : ℤ) (calls : List TransientCall) : ℤ :=
  calls.foldl (TransientCall.expiry K) e

/-- Every ULID is another one. -/
def FreshUlids (calls : List TransientCall) : Prop := (calls.filterMap TransientCall.minted).Nodup

/-- No statement deletes the public token. -/
def Undeleted (tenantId publicToken : String) (calls : List TransientCall) : Prop :=
  ∀ call ∈ calls, call.op = .delete tenantId publicToken → ¬ call.TakesEffect

/-! ## One statement -/

section step

variable {K : TransientKey} {m : TransientTokens}

/-- What the statement of `create` does: it is refused, finds the row of the key, or makes one. -/
theorem transient_upsert_cases (K : TransientKey) (e : ℤ) (ulid : String) (m : TransientTokens) :
    (∃ err, m.upsert K e ulid = (.error err, m) ∧
      (K.backend = .keto ∨ ∀ r ∈ m.rows, r.key ≠ K)) ∨
    (K.backend ≠ .keto ∧ ∃ row ∈ m.rows, row.key = K ∧ (m.upsert K e ulid).1 = .ok row.publicToken ∧
      (m.upsert K e ulid).2.rows = m.rows.map fun r => if r.key = K then r.expiring e else r) ∨
    (K.backend ≠ .keto ∧ (∀ r ∈ m.rows, r.key ≠ K) ∧ (m.upsert K e ulid).1 = .ok ulid ∧
      (m.upsert K e ulid).2.rows =
        ⟨K.tenantId, K.backend, K.tokenType, ulid, K.oryToken, e⟩ :: m.rows) := by
  unfold TransientTokens.upsert
  by_cases hketo : K.backend = .keto
  · rw [if_pos hketo]
    exact .inl ⟨_, rfl, .inl hketo⟩
  · rw [if_neg hketo]
    cases hfind : m.find? fun r => r.key = K with
    | some row =>
        obtain ⟨hrow, hkey⟩ := Table.find?_eq_some hfind
        exact .inr (.inl ⟨hketo, row, hrow, hkey, rfl, rfl⟩)
    | none =>
        have hnone : ∀ r ∈ m.rows, r.key ≠ K := fun r hr hkey =>
          Table.find?_eq_none.mp hfind ⟨r, hr, hkey⟩
        cases hinsert : m.insert? ⟨K.tenantId, K.backend, K.tokenType, ulid, K.oryToken, e⟩ with
        | some m' =>
            have hrows := (Table.insert?_eq_some hinsert).1
            exact .inr (.inr ⟨hketo, hnone, rfl, hrows⟩)
        | none =>
            exact .inl ⟨_, rfl, .inr hnone⟩

/-- A statement has its effect, or none. -/
theorem answer_table {α : Type} (r : Except DbError α × TransientTokens) (f : Option Fault) :
    (Fault.answer Fault.sqlx m r f).2 = if ∀ f' ∈ f, f'.applied = true then r.2 else m := by
  cases f with
  | none => simp
  | some f => simp [Fault.answer]

theorem table_create (e : ℤ) (c : TransientChoice) :
    (TransientCall.mk (.create K e) c).table m =
      if (TransientCall.mk (.create K e) c).TakesEffect then (m.upsert K e c.ulid).2 else m :=
  answer_table _ _

theorem table_delete (t p : String) (c : TransientChoice) :
    (TransientCall.mk (.delete t p) c).table m =
      if (TransientCall.mk (.delete t p) c).TakesEffect then
        m.deleteWhere fun x => x.tenantId = t ∧ x.publicToken = p else m :=
  answer_table _ _

/-- A lookup changes nothing. -/
theorem table_lookup {call : TransientCall} (hcreate : ∀ K e, call.op ≠ .create K e)
    (hdelete : ∀ t p, call.op ≠ .delete t p) : call.table m = m := by
  obtain ⟨op, c⟩ := call
  have hsame : ∀ {α : Type} (a : Except DbError α),
      (Fault.answer Fault.sqlx m (a, m) c.fault).2 = m := fun a => (Fault.answer_snd c.fault).elim id id
  cases op with
  | create K e => exact absurd rfl (hcreate K e)
  | delete t p => exact absurd rfl (hdelete t p)
  | getOryToken t b ty p => exact hsame _
  | getPublicToken K => exact hsame _
  | getOryTokenGlobal b ty p => exact hsame _

/-- Where a row of the table comes from: the row was there, with some expiry, or the statement made it
under its own ULID. -/
theorem mem_table {call : TransientCall} {r : TransientTokenRow} (hr : r ∈ (call.table m).rows) :
    (∃ r₀ ∈ m.rows, r₀.key = r.key ∧ r₀.publicToken = r.publicToken) ∨
      (∃ e, call.op = .create r.key e) ∧ call.choice.ulid = r.publicToken := by
  obtain ⟨op, c⟩ := call
  cases op with
  | getOryToken t b ty p => exact .inl ⟨r, by rwa [table_lookup (by simp) (by simp)] at hr, rfl, rfl⟩
  | getPublicToken K => exact .inl ⟨r, by rwa [table_lookup (by simp) (by simp)] at hr, rfl, rfl⟩
  | getOryTokenGlobal b ty p => exact .inl ⟨r, by rwa [table_lookup (by simp) (by simp)] at hr, rfl, rfl⟩
  | delete t p =>
      rw [table_delete] at hr
      split_ifs at hr
      · exact .inl ⟨r, (Table.mem_deleteWhere.mp hr).1, rfl, rfl⟩
      · exact .inl ⟨r, hr, rfl, rfl⟩
  | create K e =>
      rw [table_create] at hr
      split_ifs at hr
      · rcases transient_upsert_cases K e c.ulid m with ⟨err, heq, -⟩ | ⟨-, row, -, -, -, hrows⟩ | ⟨-, -, -, hrows⟩
        · rw [heq] at hr
          exact .inl ⟨r, hr, rfl, rfl⟩
        · rw [hrows] at hr
          obtain ⟨r₀, hr₀, rfl⟩ := List.mem_map.mp hr
          refine .inl ⟨r₀, hr₀, ?_⟩
          split_ifs <;> exact ⟨rfl, rfl⟩
        · rw [hrows] at hr
          rcases List.mem_cons.mp hr with rfl | hr
          · exact .inr ⟨⟨e, rfl⟩, rfl⟩
          · exact .inl ⟨r, hr, rfl, rfl⟩
      · exact .inl ⟨r, hr, rfl, rfl⟩

/-- What a statement leaves of a row that it does not delete: the row, with the expiry it gives. -/
theorem table_keeps {call : TransientCall} {r : TransientTokenRow} (hr : r ∈ m.rows)
    (hketo : r.backend ≠ .keto)
    (hcall : call.op = .delete r.tenantId r.publicToken → ¬ call.TakesEffect) :
    r.expiring (call.expiry r.key r.expiresAt) ∈ (call.table m).rows := by
  obtain ⟨op, c⟩ := call
  cases op with
  | getOryToken t b ty p => rwa [table_lookup (by simp) (by simp)]
  | getPublicToken K => rwa [table_lookup (by simp) (by simp)]
  | getOryTokenGlobal b ty p => rwa [table_lookup (by simp) (by simp)]
  | delete t p =>
      rw [table_delete]
      split_ifs with heffect
      · refine Table.mem_deleteWhere.mpr ⟨hr, ?_⟩
        intro hdeleted
        obtain ⟨ht, hp⟩ : r.tenantId = t ∧ r.publicToken = p := hdeleted
        subst ht hp
        exact hcall rfl heffect
      · exact hr
  | create K e =>
      rw [table_create]
      by_cases heffect : (TransientCall.mk (.create K e) c).TakesEffect
      · rw [if_pos heffect]
        by_cases hkey : K = r.key
        · -- the row of the key itself gets the new expiry
          subst hkey
          simp only [TransientCall.expiry, heffect, and_self, if_true]
          rcases transient_upsert_cases r.key e c.ulid m with
            ⟨err, -, hrefused⟩ | ⟨-, row, -, -, -, hrows⟩ | ⟨-, hnone, -, -⟩
          · exact absurd rfl (hrefused.resolve_left hketo r hr)
          · rw [hrows]
            exact List.mem_map.mpr ⟨r, hr, if_pos rfl⟩
          · exact absurd rfl (hnone r hr)
        · simp only [TransientCall.expiry, hkey, false_and, if_false]
          rcases transient_upsert_cases K e c.ulid m with
            ⟨err, heq, -⟩ | ⟨-, row, -, -, -, hrows⟩ | ⟨-, -, -, hrows⟩
          · rw [heq]
            exact hr
          · rw [hrows]
            exact List.mem_map.mpr ⟨r, hr, if_neg (Ne.symm hkey)⟩
          · rw [hrows]
            exact List.mem_cons_of_mem _ hr
      · rw [if_neg heffect]
        simp only [TransientCall.expiry, heffect, and_false, if_false]
        exact hr

/-- A `create` that answers leaves a row with its answer. -/
theorem table_created {e : ℤ} {c : TransientChoice} {p : String}
    (h : (transientStore (.create K e) c m).1 = .ok p) : K.backend ≠ .keto ∧
      (⟨K.tenantId, K.backend, K.tokenType, p, K.oryToken, e⟩ : TransientTokenRow) ∈
        ((TransientCall.mk (.create K e) c).table m).rows := by
  obtain ⟨hfault, hanswer⟩ := Fault.answer_ok h
  have heffect : (TransientCall.mk (.create K e) c).TakesEffect := by
    simp [TransientCall.TakesEffect, hfault]
  rw [table_create, if_pos heffect]
  rcases transient_upsert_cases K e c.ulid m with
    ⟨err, heq, -⟩ | ⟨hketo, row, hrow, rfl, hok, hrows⟩ | ⟨hketo, -, hok, hrows⟩
  · simp [heq] at hanswer
  · rw [hok] at hanswer
    rw [hrows, ← Except.ok.inj hanswer]
    exact ⟨hketo, List.mem_map.mpr ⟨row, hrow, if_pos rfl⟩⟩
  · rw [hok] at hanswer
    rw [hrows, ← Except.ok.inj hanswer]
    exact ⟨hketo, List.mem_cons_self⟩

end step

/-! ## Histories -/

section history

variable {calls : List TransientCall}

/-- Every row has the name that a `create` for its key has drawn. -/
def NamedByHistory (calls : List TransientCall) (m : TransientTokens) : Prop :=
  ∀ r ∈ m.rows, ∃ call ∈ calls, (∃ e, call.op = .create r.key e) ∧ call.choice.ulid = r.publicToken

theorem namedByHistory_tableAfter (calls : List TransientCall) :
    NamedByHistory calls (tableAfter calls .empty) := by
  induction calls using List.reverseRecOn with
  | nil =>
      intro r hr
      simp [tableAfter] at hr
  | append_singleton calls call ih =>
      intro r hr
      rw [tableAfter, List.foldl_append, List.foldl_cons, List.foldl_nil] at hr
      rcases mem_table hr with ⟨r₀, hr₀, hkey, hname⟩ | ⟨hop, hulid⟩
      · obtain ⟨call', hcall', hop, hulid⟩ := ih r₀ hr₀
        rw [hkey] at hop
        rw [hname] at hulid
        exact ⟨call', List.mem_append_left _ hcall', hop, hulid⟩
      · exact ⟨call, by simp, hop, hulid⟩

/-- Calls that drew the same ULID are the same. -/
theorem FreshUlids.unique (hfresh : FreshUlids calls) {call call' : TransientCall} (hcall : call ∈ calls)
    (hcall' : call' ∈ calls) {u : String} (h : call.minted = some u) (h' : call'.minted = some u) :
    call = call' := by
  induction calls with
  | nil => simp at hcall
  | cons first calls ih =>
      have hrest : FreshUlids calls :=
        List.Nodup.sublist ((List.sublist_cons_self first calls).filterMap _) hfresh
      have hfirst : ∀ other ∈ calls, first.minted = some u → other.minted ≠ some u := by
        intro other hother hu hu'
        unfold FreshUlids at hfresh
        rw [List.filterMap_cons, hu] at hfresh
        exact (List.nodup_cons.mp hfresh).1 (List.mem_filterMap.mpr ⟨other, hother, hu'⟩)
      rcases List.mem_cons.mp hcall with rfl | hlater
      · rcases List.mem_cons.mp hcall' with rfl | hlater'
        · rfl
        · exact absurd h' (hfirst call' hlater' h)
      · rcases List.mem_cons.mp hcall' with rfl | hlater'
        · exact absurd h (hfirst call hlater h')
        · exact ih hrest hlater hlater'

/-- Rows of one name in a history are of one key. -/
theorem FreshUlids.key_eq (hfresh : FreshUlids calls) {these those : List TransientCall}
    (hsub : ∀ call ∈ these, call ∈ calls) (hsub' : ∀ call ∈ those, call ∈ calls)
    {m m' : TransientTokens} (h : NamedByHistory these m) (h' : NamedByHistory those m')
    {r r' : TransientTokenRow}
    (hr : r ∈ m.rows) (hr' : r' ∈ m'.rows) (hname : r.publicToken = r'.publicToken) :
    r.key = r'.key := by
  obtain ⟨call, hcall, ⟨e, hop⟩, hulid⟩ := h r hr
  obtain ⟨call', hcall', ⟨e', hop'⟩, hulid'⟩ := h' r' hr'
  have hsame := hfresh.unique (hsub call hcall) (hsub' call' hcall') (u := r.publicToken)
    (by simp [TransientCall.minted, hop, hulid]) (by simp [TransientCall.minted, hop', hulid', hname])
  rw [hsame, hop'] at hop
  injection hop with hkey
  exact hkey.symm

/-- A row that is not deleted stays, with the expiry of the last `create` for its key. -/
theorem tableAfter_keeps (calls : List TransientCall) : ∀ {m : TransientTokens} {r : TransientTokenRow},
    r ∈ m.rows → r.backend ≠ .keto → Undeleted r.tenantId r.publicToken calls →
    r.expiring (expiryAfter r.key r.expiresAt calls) ∈ (tableAfter calls m).rows := by
  induction calls with
  | nil => exact fun hr _ _ => hr
  | cons call calls ih =>
      intro m r hr hketo hundeleted
      have hstep := table_keeps hr hketo (hundeleted call List.mem_cons_self)
      exact ih hstep hketo fun call' hcall' => hundeleted call' (List.mem_cons_of_mem _ hcall')

end history

/-! ## What a public token stands for -/

/-- What the public token `p` of `K` stands for in the table `m` after the history `calls`. Of these,
`after` are the statements since it was answered to a `create` with the expiry `e`. -/
structure Renames (K : TransientKey) (e : ℤ) (p : String) (calls after : List TransientCall)
    (m : TransientTokens) : Prop where
  /-- Until it is deleted and before it expires, it is resolved to the token it was made for. -/
  resolves : Undeleted K.tenantId p after → ∀ c : TransientChoice, c.fault = none →
    c.now < expiryAfter K e after →
    (transientStore (.getOryToken K.tenantId K.backend K.tokenType p) c m).1 = .ok K.oryToken ∧
      (transientStore (.getOryTokenGlobal K.backend K.tokenType p) c m).1 = .ok (K.tenantId, K.oryToken)
  /-- It is resolved to nothing else, and nowhere else. -/
  only : ∀ t b ty (c : TransientChoice) raw,
    (transientStore (.getOryToken t b ty p) c m).1 = .ok raw →
    t = K.tenantId ∧ b = K.backend ∧ ty = K.tokenType ∧ raw = K.oryToken
  onlyGlobal : ∀ b ty (c : TransientChoice) found,
    (transientStore (.getOryTokenGlobal b ty p) c m).1 = .ok found →
    b = K.backend ∧ ty = K.tokenType ∧ found = (K.tenantId, K.oryToken)
  /-- Creating it again answers with it, and moves its expiry. -/
  repeats : Undeleted K.tenantId p after → ∀ e' (c : TransientChoice) p',
    (transientStore (.create K e') c m).1 = .ok p' → p' = p ∧
      ((TransientCall.mk (.create K e') c).table m).rows =
        m.rows.map fun r => if r.key = K then r.expiring e' else r
  /-- What is created for another token has another name. -/
  apart : ∀ K' e' (c : TransientChoice) p', K'.oryToken ≠ K.oryToken →
    FreshUlids (calls ++ [⟨.create K' e', c⟩]) →
    (transientStore (.create K' e') c m).1 = .ok p' → p' ≠ p

/-- The row that a lookup answers from. -/
theorem of_orNotFound {β : Type} {P : TransientTokenRow → Prop} [DecidablePred P] {m : TransientTokens}
    {f : TransientTokenRow → β} {b : β} (h : orNotFound .mappingNotFound f (m.find? P) = .ok b) :
    ∃ r ∈ m.rows, P r ∧ f r = b := by
  cases hfind : m.find? P with
  | none => simp [hfind, orNotFound] at h
  | some r =>
      obtain ⟨hr, hP⟩ := Table.find?_eq_some hfind
      rw [hfind] at h
      exact ⟨r, hr, hP, Except.ok.inj h⟩

/-- The row that is found is the one of that name. -/
theorem find_name {m : TransientTokens} {r : TransientTokenRow} {P : TransientTokenRow → Prop}
    [DecidablePred P] (hr : r ∈ m.rows) (hP : P r) (hname : ∀ r', P r' → r'.publicToken = r.publicToken) :
    m.find? P = some r :=
  Table.find?_eq_of_unique hr hP fun r' hr' hP' =>
    Table.eq_of_conflicts (fun _ _ => TransientTokenRow.Conflicts.symm) hr' hr (.inr (hname r' hP'))

theorem renames_of_create {before after : List TransientCall} {K : TransientKey} {e : ℤ}
    {c : TransientChoice} {p : String} (hfresh : FreshUlids (before ++ ⟨.create K e, c⟩ :: after))
    (hcreate : (transientStore (.create K e) c (tableAfter before .empty)).1 = .ok p) :
    Renames K e p (before ++ ⟨.create K e, c⟩ :: after) after
      (tableAfter (before ++ ⟨.create K e, c⟩ :: after) .empty) := by
  obtain ⟨hketo, hmade⟩ := table_created hcreate
  have hafter : tableAfter (before ++ ⟨.create K e, c⟩ :: after) .empty =
      tableAfter after ((TransientCall.mk (.create K e) c).table (tableAfter before .empty)) := by
    simp [tableAfter]
  have hcreated : tableAfter (before ++ [⟨.create K e, c⟩]) .empty =
      (TransientCall.mk (.create K e) c).table (tableAfter before .empty) := by
    simp [tableAfter]
  have hminted := namedByHistory_tableAfter (before ++ ⟨.create K e, c⟩ :: after)
  have hminted₀ := namedByHistory_tableAfter (before ++ [⟨.create K e, c⟩])
  rw [hcreated] at hminted₀
  have hsub : ∀ call ∈ before ++ [⟨.create K e, c⟩], call ∈ before ++ ⟨.create K e, c⟩ :: after := by
    intro call hcall
    rw [List.mem_append, List.mem_singleton] at hcall
    rcases hcall with hbefore | rfl
    · exact List.mem_append_left _ hbefore
    · exact List.mem_append_right _ List.mem_cons_self
  -- every row of that name is a row of that key
  have hkey : ∀ r ∈ (tableAfter (before ++ ⟨.create K e, c⟩ :: after) .empty).rows,
      r.publicToken = p → r.key = K := fun r hr hname =>
    hfresh.key_eq (fun _ h => h) hsub hminted hminted₀ hr hmade hname
  have hkept : Undeleted K.tenantId p after →
      (⟨K.tenantId, K.backend, K.tokenType, p, K.oryToken, expiryAfter K e after⟩ : TransientTokenRow) ∈
        (tableAfter (before ++ ⟨.create K e, c⟩ :: after) .empty).rows := by
    intro hundeleted
    rw [hafter]
    exact tableAfter_keeps after hmade hketo hundeleted
  constructor
  case resolves =>
    intro hundeleted c' hfault hnow
    have hrow := hkept hundeleted
    constructor
    · have hfind := find_name (P := fun x => x.tenantId = K.tenantId ∧ x.backend = K.backend ∧
        x.tokenType = K.tokenType ∧ x.publicToken = p ∧ c'.now < x.expiresAt) hrow
        ⟨rfl, rfl, rfl, rfl, hnow⟩ fun r' h => h.2.2.2.1
      simp only [transientStore, hfault, Fault.answer_none, hfind, orNotFound]
    · have hfind := find_name (P := fun x => x.backend = K.backend ∧ x.tokenType = K.tokenType ∧
        x.publicToken = p ∧ c'.now < x.expiresAt) hrow ⟨rfl, rfl, rfl, hnow⟩ fun r' h => h.2.2.1
      simp only [transientStore, hfault, Fault.answer_none, hfind, orNotFound]
  case only =>
    intro t b ty c' raw h
    obtain ⟨-, hok⟩ := Fault.answer_ok h
    obtain ⟨r, hr, ⟨rfl, rfl, rfl, hname, -⟩, rfl⟩ := of_orNotFound hok
    rw [← hkey r hr hname]
    exact ⟨rfl, rfl, rfl, rfl⟩
  case onlyGlobal =>
    intro b ty c' found h
    obtain ⟨-, hok⟩ := Fault.answer_ok h
    obtain ⟨r, hr, ⟨rfl, rfl, hname, -⟩, rfl⟩ := of_orNotFound hok
    rw [← hkey r hr hname]
    exact ⟨rfl, rfl, rfl⟩
  case repeats =>
    intro hundeleted e' c' p' h
    have hrow := hkept hundeleted
    obtain ⟨hfault, hok⟩ := Fault.answer_ok h
    have heffect : (TransientCall.mk (.create K e') c').TakesEffect := by
      simp [TransientCall.TakesEffect, hfault]
    rw [table_create, if_pos heffect]
    rcases transient_upsert_cases K e' c'.ulid (tableAfter (before ++ ⟨.create K e, c⟩ :: after) .empty)
      with ⟨err, heq, -⟩ | ⟨-, row, hrow', hrowkey, hanswer, hrows⟩ | ⟨-, hnone, -, -⟩
    · simp [heq] at hok
    · have hsame := Table.eq_of_conflicts (fun _ _ => TransientTokenRow.Conflicts.symm) hrow' hrow
        (.inl hrowkey)
      rw [hanswer, hsame] at hok
      exact ⟨(Except.ok.inj hok).symm, hrows⟩
    · exact absurd rfl (hnone _ hrow)
  case apart =>
    intro K' e' c' p' hne hfresh' h heq
    obtain ⟨-, hmade'⟩ := table_created h
    have hcreated' : tableAfter ((before ++ ⟨.create K e, c⟩ :: after) ++ [⟨.create K' e', c'⟩]) .empty =
        (TransientCall.mk (.create K' e') c').table
          (tableAfter (before ++ ⟨.create K e, c⟩ :: after) .empty) := by
      simp [tableAfter]
    have hminted' := namedByHistory_tableAfter ((before ++ ⟨.create K e, c⟩ :: after) ++ [⟨.create K' e', c'⟩])
    rw [hcreated'] at hminted'
    have hsame := hfresh'.key_eq (fun _ h => h)
      (fun call hcall => List.mem_append_left _ (hsub call hcall)) hminted' hminted₀ hmade' hmade heq
    exact hne (congrArg TransientKey.oryToken hsame)

/-! ## Flows -/

/-- A run of a program that looks at the answer of a call. -/
theorem run_attempt_bind {S : Sig} {C W ε α : Type} {h : Handler S C W} (op : S.Op)
    (g : S.Res op → ExceptT ε (Prog S) α) (o : ℕ → C) (w : W) :
    ((Prog.attempt (Prog.perform op) >>= g).run).run h o w =
      (g (h op (o 0) w).1).run.run h (fun n => o (n + 1)) (h op (o 0) w).2 := rfl

/-- Without a fault, a flow is resolved by its name alone. -/
theorem resolveFlow_run {env : Env} {w : World} {m : TransientTokens} (hw : w.transientTokens = m.rows)
    {now : ℤ} {o : ℕ → Choice} (hquiet : ∀ n, (o n).fault 0 = none ∧ (o n).now = now) (t p : String)
    (hp : p ≠ "") : (resolveFlow t p).run.run (gateway env) o w =
      ((orNotFound .mappingNotFound (·.oryToken) (m.find? fun x => x.backend = .kratos ∧
        x.tokenType = "flow" ∧ x.publicToken = p ∧ now < x.expiresAt)).mapError ServiceError.ofDbError, w) := by
  have hcheck : check (refuseIf (p = "") (.invalidArgument "flow id is required")) =
      (check (.ok ()) : Service Unit) := by
    rw [refuseIf, if_neg hp]
  have hscoped : gateway env (.getOryToken t .kratos "flow" p) (o 0) w =
      (orNotFound .mappingNotFound (·.oryToken) (m.find? fun x => x.tenantId = t ∧ x.backend = .kratos ∧
        x.tokenType = "flow" ∧ x.publicToken = p ∧ now < x.expiresAt), w) := by
    obtain ⟨hfault, hnow⟩ := hquiet 0
    simp only [gateway, hfault, hnow, Fault.answer_none, hw, Table.find?]
  have hglobal : gateway env (.getOryTokenGlobal .kratos "flow" p) (o 1) w =
      (orNotFound .mappingNotFound (fun x => (x.tenantId, x.oryToken)) (m.find? fun x =>
        x.backend = .kratos ∧ x.tokenType = "flow" ∧ x.publicToken = p ∧ now < x.expiresAt), w) := by
    obtain ⟨hfault, hnow⟩ := hquiet 1
    simp only [gateway, hfault, hnow, Fault.answer_none, hw, Table.find?]
  unfold resolveFlow
  rw [hcheck]
  show ((Prog.attempt (Prog.perform (S := Gateway) (.getOryToken t .kratos "flow" p)) >>= _ :
    Service String).run).run (gateway env) o w = _
  rw [run_attempt_bind, hscoped]
  cases hfind : m.find? fun x => x.tenantId = t ∧ x.backend = .kratos ∧ x.tokenType = "flow" ∧
      x.publicToken = p ∧ now < x.expiresAt with
  | some r =>
      -- the row of the tenant is the row of the name
      obtain ⟨hr, -, hbackend, htype, hname, hexpiry⟩ := Table.find?_eq_some hfind
      have hsame := find_name (P := fun x => x.backend = .kratos ∧ x.tokenType = "flow" ∧
        x.publicToken = p ∧ now < x.expiresAt) hr ⟨hbackend, htype, hname, hexpiry⟩
        fun r' h => h.2.2.1.trans hname.symm
      rw [hsame]
      rfl
  | none =>
      show ((Prog.orThrow ServiceError.ofDbError (Prog.perform (S := Gateway)
        (.getOryTokenGlobal .kratos "flow" p)) >>= fun found => Pure.pure found.2 :
          Service String).run).run (gateway env) (fun n => o (n + 1)) w = _
      refine (Prog.run_orThrow_bind (S := Gateway) (.getOryTokenGlobal .kratos "flow" p) id
        (fun found => Pure.pure found.2) (fun n => o (n + 1)) w).trans ?_
      rw [hglobal]
      cases m.find? fun x => x.backend = .kratos ∧ x.tokenType = "flow" ∧ x.publicToken = p ∧
          now < x.expiresAt with
      | some r => rfl
      | none => rfl

/-- **Transient tokens are an injective, idempotent renaming.** In every history of statements in which
every ULID is another one, of which any may fail with an effect or without one, a public token that was
created stands for the token it was created for. Every tenant resolves a flow alike. -/
theorem transient_tokens_rename :
    (∀ (before after : List TransientCall) (K : TransientKey) (e : ℤ) (c : TransientChoice) (p : String),
      FreshUlids (before ++ ⟨.create K e, c⟩ :: after) →
      (transientStore (.create K e) c (tableAfter before .empty)).1 = .ok p →
      Renames K e p (before ++ ⟨.create K e, c⟩ :: after) after
        (tableAfter (before ++ ⟨.create K e, c⟩ :: after) .empty)) ∧
    ∀ (calls : List TransientCall) (env : Env) (w : World),
      w.transientTokens = (tableAfter calls .empty).rows →
      ∀ (now : ℤ) (o : ℕ → Choice), (∀ n, (o n).fault 0 = none ∧ (o n).now = now) →
      ∀ t t' p : String, (resolveFlow t p).run.run (gateway env) o w =
        (resolveFlow t' p).run.run (gateway env) o w := by
  refine ⟨fun before after K e c p hfresh hcreate => renames_of_create hfresh hcreate, ?_⟩
  intro calls env w hw now o hquiet t t' p
  by_cases hp : p = ""
  · subst hp
    rfl
  · rw [resolveFlow_run hw hquiet t p hp, resolveFlow_run hw hquiet t' p hp]

/-- A flow of Kratos. -/
def flowKey : TransientKey := ⟨"acme", .kratos, "flow", "ory-flow-1"⟩

/-- A flow that is named twice, with the expiry an hour later, and read in between. -/
def flowCalls : List TransientCall :=
  [⟨.getOryToken "acme" .kratos "flow" "01A", ⟨1800, "", none⟩⟩,
    ⟨.create flowKey 7200, ⟨3600, "01B", none⟩⟩]

/-- After an hour and a half it has its first name, and the world in which it is resolved. -/
theorem transient_tokens_rename_flow :
    let m := tableAfter (⟨.create flowKey 3600, ⟨0, "01A", none⟩⟩ :: flowCalls) .empty
    (transientStore (.getOryToken "acme" .kratos "flow" "01A") ⟨5400, "", none⟩ m).1 = .ok "ory-flow-1" ∧
      (resolveFlow "acme" "01A").run.run (gateway Env.firstRow) (fun _ => .plain "" 5400)
          { World.empty [] with transientTokens := m.rows } =
        (resolveFlow "system" "01A").run.run (gateway Env.firstRow) (fun _ => .plain "" 5400)
          { World.empty [] with transientTokens := m.rows } := by
  have hfresh : FreshUlids ([] ++ ⟨.create flowKey 3600, ⟨0, "01A", none⟩⟩ :: flowCalls) := by
    unfold FreshUlids
    decide
  have hcreate : (transientStore (.create flowKey 3600) ⟨0, "01A", none⟩ (tableAfter [] .empty)).1 =
      .ok "01A" := by decide
  have hundeleted : Undeleted "acme" "01A" flowCalls := by
    intro call hcall hop
    simp only [flowCalls, List.mem_cons, List.not_mem_nil, or_false] at hcall
    rcases hcall with rfl | rfl <;> simp at hop
  obtain ⟨hrename, hflow⟩ := transient_tokens_rename
  have hresolves := (hrename [] flowCalls flowKey 3600 _ "01A" hfresh hcreate).resolves hundeleted
    ⟨5400, "", none⟩ rfl (by decide)
  exact ⟨hresolves.1, hflow (⟨.create flowKey 3600, ⟨0, "01A", none⟩⟩ :: flowCalls) Env.firstRow _ rfl 5400
    _ (fun _ => ⟨rfl, rfl⟩) "acme" "system" "01A"⟩

end SsoGateway
