import Mathlib.Data.Finite.Prod
import Mathlib.Data.Int.Interval
import Mathlib.Data.Prod.Lex
import Mathlib.Data.Set.Finite.Range
import Mathlib.Data.String.Basic
import SsoGateway.AgentTokens
import SsoGateway.Lib.Base64
import SsoGateway.Lib.Keyset
import SsoGateway.PermissionReads

/-!
# Paging through the lists

* `ulidText` — the ids of the rows; `StoredTable` — a table with its primary key.
* `listAgents`, `listAgentDelegations` — the lists of the agent service.
* `decodePageToken_encodePageToken` — a token stands for its timestamp and id, if there is an id.
* `paginated_listRelationTuples`, `paginated_listAgents`, `paginated_listAgentDelegations` — each list is
  a paginated service, over the rows that pass its filter.
* `lists_visit_rows` — a client that follows the tokens of any of them comes to an end and has seen every
  row that was there throughout once, newest first, whatever was written meanwhile.

Source: `services/permission.rs` `list_relation_tuples`, `services/agent.rs` `list_agents`,
`list_agent_delegations`, `page_params`, `next_page_token`, `db/permission.rs`, `db/agent.rs`,
`db/agent_delegation.rs` `list_page`.
-/

namespace SsoGateway

open Lib

/-! ## Rows -/

/-- Crockford's digits. -/
def crockfordAlphabet : List Char := "0123456789ABCDEFGHJKMNPQRSTVWXYZ".toList

/-- The text of a ULID: the id of every row. -/
def ulidText (u : Fin (2 ^ 128)) : String :=
  String.ofList ((List.range 26).map fun i => crockfordAlphabet.getD (u.val / 32 ^ (25 - i) % 32) '0')

theorem ulidText_ne_empty (u : Fin (2 ^ 128)) : ulidText u ≠ "" := by
  intro h
  have hlist := congrArg String.toList h
  rw [ulidText, String.toList_ofList] at hlist
  simpa using congrArg List.length hlist

/-- The key of a list: the instant of the insert, and the id. -/
abbrev CursorKey := ℤ ×ₗ String

/-- Source: the row of `agents`, with its `created_at`. -/
structure ListedAgent extends AgentRow where
  createdAt : ℤ
deriving DecidableEq, Repr

/-- Source: the row of `agent_delegations`, with its `created_at`. -/
structure ListedDelegation extends AgentDelegationRow where
  createdAt : ℤ
deriving DecidableEq, Repr

def ListedRow.cursorKey (x : ListedRow) : CursorKey := toLex (x.createdAt, x.id)

def ListedAgent.cursorKey (x : ListedAgent) : CursorKey := toLex (x.createdAt, x.id)

def ListedDelegation.cursorKey (x : ListedDelegation) : CursorKey := toLex (x.createdAt, x.id)

/-- The keys of stored rows: an instant a timestamp can be made of, and an id. -/
def IsStoredKey (k : CursorKey) : Prop := isTimestampNanos (ofLex k).1 = true ∧ ∃ u, (ofLex k).2 = ulidText u

/-- A table, with its primary key. -/
structure StoredTable {R : Type} (key : R → CursorKey) where
  rows : List R
  primaryKey : rows.Pairwise fun x y => (ofLex (key x)).2 ≠ (ofLex (key y)).2
  stored : ∀ x ∈ rows, IsStoredKey (key x)

/-- There are finitely many ids and instants. -/
theorem finite_storedKeys : {k : CursorKey | IsStoredKey k}.Finite := by
  have hpairs : ((Set.Icc (-377705116800000000000) 253402300799999999999 : Set ℤ) ×ˢ
      Set.range ulidText).Finite := (Set.finite_Icc _ _).prod (Set.finite_range _)
  refine (hpairs.image toLex).subset ?_
  intro k hk
  obtain ⟨hcreated, u, hid⟩ := hk
  refine ⟨ofLex k, ⟨?_, u, hid.symm⟩, rfl⟩
  simpa [isTimestampNanos] using hcreated

section table

variable {R : Type} {key : R → CursorKey} (table : StoredTable key) (p : R → Bool)

/-- The rows that pass a filter have distinct keys. -/
theorem StoredTable.distinctKeys : DistinctKeys key (table.rows.filter p) := by
  refine (table.primaryKey.filter _).imp ?_
  intro x y hne heq
  rw [heq] at hne
  exact hne rfl

theorem finite_keys (tables : ℕ → StoredTable key) :
    {k | ∃ n, ∃ x ∈ (tables n).rows.filter p, key x = k}.Finite := by
  refine finite_storedKeys.subset ?_
  rintro k ⟨n, x, hx, rfl⟩
  exact (tables n).stored x (List.mem_filter.mp hx).1

end table

/-! ## The lists of the agent service -/

/-- Source: `PageRequest`. -/
structure PageRequest where
  pageSize : ℕ
  pageToken : String

/-- Source: `ListAgentsResponse`, `ListAgentDelegationsResponse`. -/
structure ListResponse (R : Type) where
  rows : List R
  nextPageToken : String
  totalSize : ℕ

section agents

variable (env : ReadEnv)

/-- Source: `page_params`. -/
def pageParams (page : Option PageRequest) : Except ServiceError (ℕ × Option (ℤ × String)) :=
  match page with
  | none => .ok (50, none)
  | some page => do
      let limit := if page.pageSize = 0 then 50 else min page.pageSize 200
      let after ← if page.pageToken = "" then .ok none else some <$> decodePageToken env page.pageToken
      return (limit, after)

/-- Source: `next_page_token`. -/
def nextPageTokenOf (last : Option (ℤ × String)) (pageLen limit : ℕ) : String :=
  if pageLen = limit then
    match last with
    | some (createdAt, id) => encodePageToken env createdAt id
    | none => ""
  else ""

/-- Source: `db/agent.rs` `list_page`. -/
def PgAgentStore.listPage (rows : List ListedAgent) (tenantId : String) (limit : ℕ)
    (after : Option (ℤ × String)) : List ListedAgent × ℕ :=
  let mine := rows.filter fun x => x.tenantId = tenantId
  (keysetPage ListedAgent.cursorKey limit (after.map toLex) mine, mine.length)

/-- The columns grants are listed by. -/
inductive DelegationColumn where
  | agentId
  | userIdentityId

/-- The value of a column. -/
def DelegationColumn.of : DelegationColumn → ListedDelegation → String
  | .agentId, x => x.agentId
  | .userIdentityId, x => x.userIdentityId

/-- Source: `db/agent_delegation.rs` `list_page_by`. -/
def PgAgentDelegationStore.listPageBy (rows : List ListedDelegation) (tenantId : String)
    (column : DelegationColumn) (value : String) (limit : ℕ) (after : Option (ℤ × String)) :
    List ListedDelegation × ℕ :=
  let mine := rows.filter fun x => x.tenantId = tenantId ∧ column.of x = value
  (keysetPage ListedDelegation.cursorKey limit (after.map toLex) mine, mine.length)

/-- What a store answers, if it does. -/
def fromStore {α : Type} (answer : α) : Except ServiceError α :=
  match env.fault with
  | some e => .error (.ofDbError (Fault.sqlx e))
  | none => .ok answer

/-- Source: `list_agents`. -/
def listAgents (rows : List ListedAgent) (ctx : RequestContext) (page : Option PageRequest) :
    Except ServiceError (ListResponse ListedAgent) := do
  let tenantId ← requireTenant ctx
  requireScopeAny ctx ["agent:read", scopeAgentAdmin]
  let (limit, after) ← pageParams env page
  let (found, total) ← fromStore env (PgAgentStore.listPage rows tenantId limit after)
  return ⟨found, nextPageTokenOf env (found.getLast?.map fun x => (x.createdAt, x.id)) found.length limit,
    total % 2 ^ 32⟩

/-- Whose grants a request lists: the caller's own, or those of an agent. -/
def listedBy (ctx : RequestContext) (auth : AuthContext) (agentId : String) :
    Except ServiceError (DelegationColumn × String) :=
  if agentId = "" then do
    requireSubjectType ctx .user
    return (.userIdentityId, auth.subject)
  else do
    requireScopeAny ctx ["agent:read", scopeAgentAdmin]
    return (.agentId, agentId)

/-- Source: `list_agent_delegations`. -/
def listAgentDelegations (rows : List ListedDelegation) (ctx : RequestContext) (agentId : String)
    (page : Option PageRequest) : Except ServiceError (ListResponse ListedDelegation) := do
  let tenantId ← requireTenant ctx
  let auth ← requireAuth ctx
  let (limit, after) ← pageParams env page
  let (column, value) ← listedBy ctx auth agentId
  let (found, total) ← fromStore env
    (PgAgentDelegationStore.listPageBy rows tenantId column value limit after)
  return ⟨found, nextPageTokenOf env (found.getLast?.map fun x => (x.createdAt, x.id)) found.length limit,
    total % 2 ^ 32⟩

end agents

/-! ## Tokens -/

/-- Source: `base64::engine::general_purpose::STANDARD` on the bytes of a text. -/
structure ReadEnv.Standard (env : ReadEnv) : Prop where
  decode_encode : ∀ s, env.base64Decode (env.base64Encode s) = some s
  decode_empty : env.base64Decode "" = some ""

section tokens

variable {env : ReadEnv}

theorem encodePageToken_ne (henv : env.Standard) (createdAt : ℤ) (id : String) :
    encodePageToken env createdAt id ≠ "" := by
  intro h
  have hdecode := henv.decode_encode (toString createdAt ++ ":" ++ id)
  rw [← encodePageToken, h, henv.decode_empty, Option.some.injEq] at hdecode
  have hlist := congrArg String.toList hdecode
  simp at hlist

theorem isTimestampNanos_iff {n : ℤ} :
    isTimestampNanos n = true ↔ -377705116800000000000 ≤ n ∧ n ≤ 253402300799999999999 := by
  simp [isTimestampNanos]

/-- **A token stands for its timestamp and id**, if there is an id. -/
theorem decodePageToken_encodePageToken (henv : env.Standard) {createdAt : ℤ} {id : String}
    (hcreated : isTimestampNanos createdAt = true) :
    decodePageToken env (encodePageToken env createdAt id) =
      if id = "" then .error (.invalidArgument "invalid page token") else .ok (createdAt, id) := by
  have hbounds := isTimestampNanos_iff.mp hcreated
  have hlow : -2 ^ 127 ≤ createdAt := by omega
  have hhigh : createdAt < 2 ^ 127 := by omega
  have hparse : parseI128 (toString createdAt) = some createdAt := parseI128_toString hlow hhigh
  have hsplit : splitOnce (toString createdAt ++ ":" ++ id) ':' = some (toString createdAt, id) := by
    have hcolon : (":" : String) = String.singleton ':' := by decide
    rw [hcolon]
    exact splitOnce_append (not_mem_toString_int (by decide) (by decide))
  unfold decodePageToken encodePageToken
  simp only [henv.decode_encode, hsplit, hparse, Option.bind_eq_bind, Option.bind_some]
  by_cases hid : id = ""
  · simp [hid]
  · simp [hid, hcreated, Option.filter_some]

/-- The token of a key. -/
def tokenOf (env : ReadEnv) (k : CursorKey) : String := encodePageToken env (ofLex k).1 (ofLex k).2

theorem decodePageToken_tokenOf (henv : env.Standard) {k : CursorKey} (hk : IsStoredKey k) :
    decodePageToken env (tokenOf env k) = .ok (ofLex k) := by
  obtain ⟨hcreated, u, hid⟩ := hk
  rw [tokenOf, decodePageToken_encodePageToken henv hcreated, if_neg]
  rw [hid]
  exact ulidText_ne_empty u

/-- The cursor that a token stands for is that of its key. -/
theorem cursorOf_tokenAt (henv : env.Standard) {after : Option CursorKey}
    (hafter : ∀ k ∈ after, IsStoredKey k) :
    cursorOf env (tokenAt (tokenOf env) after) = .ok (after.map ofLex) := by
  cases after with
  | none => rfl
  | some k =>
      have hne : tokenOf env k ≠ "" := encodePageToken_ne henv _ _
      show cursorOf env (tokenOf env k) = .ok (some (ofLex k))
      rw [cursorOf, if_neg hne, decodePageToken_tokenOf henv (hafter k rfl)]
      rfl

end tokens

/-! ## The lists -/

theorem pageSizeOf_pos (n : ℕ) : 0 < pageSizeOf n := by
  unfold pageSizeOf
  split <;> omega

/-- The mirror's page is that of the keyset: newest first, then by id. -/
theorem listPage_eq (rows : List ListedRow) (tenantId : String) (f : TupleFilter) (limit : ℕ)
    (after : Option CursorKey) :
    (listPage rows tenantId f limit (after.map ofLex)).1 =
      keysetPage ListedRow.cursorKey limit after (rows.filter fun x => f.Passes tenantId x) := by
  have hnewer : ListedRow.Newer = fun x y => y.cursorKey ≤ x.cursorKey := by
    funext x y
    rw [ListedRow.cursorKey, ListedRow.cursorKey, Prod.Lex.toLex_le_toLex]
    rfl
  have hafter : ∀ x : ListedRow, (∀ c ∈ after.map ofLex, x.After c) ↔ ∀ k ∈ after, x.cursorKey < k := by
    intro x
    cases after with
    | none => simp
    | some k =>
        simp only [Option.map_some, Option.mem_def, Option.some.injEq, forall_eq']
        rw [ListedRow.cursorKey, Prod.Lex.lt_iff]
        rfl
  unfold listPage keysetPage keysetRows
  simp only [hafter, hnewer]

theorem nextPageToken_eq (env : ReadEnv) (size : ℕ) (page : List ListedRow) :
    nextPageToken env size page = tokenAfter ListedRow.cursorKey (tokenOf env) size page := by
  unfold nextPageToken tokenAfter
  cases page.getLast? with
  | none => rfl
  | some x => rfl

/-- The token of the agent service is that of the last key too. -/
theorem nextPageTokenOf_eq {R : Type} (env : ReadEnv) (createdAt : R → ℤ) (id : R → String) (size : ℕ)
    (page : List R) :
    nextPageTokenOf env (page.getLast?.map fun x => (createdAt x, id x)) page.length size =
      tokenAfter (fun x => (toLex (createdAt x, id x) : CursorKey)) (tokenOf env) size page := by
  unfold nextPageTokenOf tokenAfter
  cases page.getLast? with
  | none => rfl
  | some x => rfl

/-- The token of an answer. -/
def ReadAnswer.token : ReadAnswer → String
  | .rows _ next _ => next
  | _ => ""

/-- The answer with a page of the mirror. -/
def tuplesAnswer (env : ReadEnv) (size : ℕ) (passing page : List ListedRow) : ReadAnswer :=
  .rows (page.map ListedRow.toPermissionTupleRow) (nextPageToken env size page)
    (min passing.length (2 ^ 32 - 1))

/-- The limit of a request to the agent service, of the size it names if any. -/
def limitOf (size : Option ℕ) : ℕ := if size.getD 0 = 0 then 50 else min (size.getD 0) 200

theorem limitOf_pos (size : Option ℕ) : 0 < limitOf size := by
  unfold limitOf
  split <;> omega

/-- The answer with a page of the agent service. -/
def pageAnswer {R : Type} (env : ReadEnv) (createdAt : R → ℤ) (id : R → String) (limit : ℕ)
    (mine page : List R) : ListResponse R :=
  ⟨page, nextPageTokenOf env (page.getLast?.map fun x => (createdAt x, id x)) page.length limit,
    mine.length % 2 ^ 32⟩

/-- A request for the page after a token; the first one may have no page at all. -/
def requestFor (size : Option ℕ) (token : String) : Option PageRequest :=
  if token = "" then size.map fun size => ⟨size, ""⟩ else some ⟨size.getD 0, token⟩

section lists

variable {env : ReadEnv} {ctx : RequestContext} {tenantId : String}

/-- The relation tuples, in pages. -/
theorem paginated_listRelationTuples (henv : env.Standard) (hup : env.fault = none)
    (hreader : checkReader ctx = .ok tenantId) (n o r : String) (sizes : ℕ → ℕ)
    (keto : ℕ → List KetoTuple) (tables : ℕ → StoredTable ListedRow.cursorKey) :
    Paginated ListedRow.cursorKey IsStoredKey (tokenOf env) ReadAnswer.token (fun i => pageSizeOf (sizes i))
      (fun i => (tables i).rows.filter
        fun x => TupleFilter.Passes ⟨textFilter n, textFilter o, textFilter r⟩ tenantId x)
      (fun i => tuplesAnswer env (pageSizeOf (sizes i)) ((tables i).rows.filter
        fun x => TupleFilter.Passes ⟨textFilter n, textFilter o, textFilter r⟩ tenantId x))
      fun i token => listRelationTuples env ⟨keto i, (tables i).rows⟩ ctx n o r (sizes i) token where
  serves i after hafter := by
    unfold listRelationTuples readPage
    rw [hreader, cursorOf_tokenAt henv hafter, hup]
    simp only [← listPage_eq]
    rfl
  next_answer i page := nextPageToken_eq env _ page
  token_ne k _ := encodePageToken_ne henv _ _
  occurs i x hx := (tables i).stored x (List.mem_filter.mp hx).1

/-- The parameters of a request for the page after a cursor. -/
theorem pageParams_requestFor (henv : env.Standard) (size : Option ℕ) {after : Option CursorKey}
    (hafter : ∀ k ∈ after, IsStoredKey k) :
    pageParams env (requestFor size (tokenAt (tokenOf env) after)) =
      .ok (limitOf size, after.map ofLex) := by
  have hcursor := cursorOf_tokenAt henv hafter
  unfold cursorOf at hcursor
  by_cases htoken : tokenAt (tokenOf env) after = ""
  · rw [if_pos htoken] at hcursor
    rw [requestFor, if_pos htoken]
    cases size with
    | none => exact congrArg (fun c => (fun after => (50, after)) <$> c) hcursor
    | some size => exact congrArg (fun c => (fun after => (limitOf (some size), after)) <$> c) hcursor
  · rw [if_neg htoken] at hcursor
    rw [requestFor, if_neg htoken]
    simp only [pageParams, if_neg htoken, hcursor]
    rfl

/-- The agents of a tenant, in pages. -/
theorem paginated_listAgents (henv : env.Standard) (hup : env.fault = none)
    (htenant : requireTenant ctx = .ok tenantId)
    (hreader : requireScopeAny ctx ["agent:read", scopeAgentAdmin] = .ok ()) (sizes : ℕ → Option ℕ)
    (tables : ℕ → StoredTable ListedAgent.cursorKey) :
    Paginated ListedAgent.cursorKey IsStoredKey (tokenOf env) ListResponse.nextPageToken
      (fun i => limitOf (sizes i)) (fun i => (tables i).rows.filter fun x => x.tenantId = tenantId)
      (fun i => pageAnswer env ListedAgent.createdAt (fun x => x.id) (limitOf (sizes i))
        ((tables i).rows.filter fun x => x.tenantId = tenantId))
      fun i token => listAgents env (tables i).rows ctx (requestFor (sizes i) token) where
  serves i after hafter := by
    unfold listAgents fromStore
    rw [htenant, hreader, pageParams_requestFor henv (sizes i) hafter, hup]
    cases after with
    | none => rfl
    | some k => rfl
  next_answer i page := nextPageTokenOf_eq env _ _ _ page
  token_ne k _ := encodePageToken_ne henv _ _
  occurs i x hx := (tables i).stored x (List.mem_filter.mp hx).1

/-- The grants of an agent, or of the caller, in pages. -/
theorem paginated_listAgentDelegations (henv : env.Standard) (hup : env.fault = none) {auth : AuthContext}
    {agentId value : String} {column : DelegationColumn} (htenant : requireTenant ctx = .ok tenantId)
    (hauth : requireAuth ctx = .ok auth) (hlisted : listedBy ctx auth agentId = .ok (column, value))
    (sizes : ℕ → Option ℕ) (tables : ℕ → StoredTable ListedDelegation.cursorKey) :
    Paginated ListedDelegation.cursorKey IsStoredKey (tokenOf env) ListResponse.nextPageToken
      (fun i => limitOf (sizes i))
      (fun i => (tables i).rows.filter fun x => x.tenantId = tenantId ∧ column.of x = value)
      (fun i => pageAnswer env ListedDelegation.createdAt (fun x => x.id) (limitOf (sizes i))
        ((tables i).rows.filter fun x => x.tenantId = tenantId ∧ column.of x = value))
      fun i token => listAgentDelegations env (tables i).rows ctx agentId (requestFor (sizes i) token) where
  serves i after hafter := by
    unfold listAgentDelegations fromStore
    rw [htenant, hauth, pageParams_requestFor henv (sizes i) hafter, hup]
    dsimp only [bind, Except.bind]
    rw [hlisted]
    cases after with
    | none => rfl
    | some k => rfl
  next_answer i page := nextPageTokenOf_eq env _ _ _ page
  token_ne k _ := encodePageToken_ne henv _ _
  occurs i x hx := (tables i).stored x (List.mem_filter.mp hx).1

/-- **Paging visits every row once.** Over any history of the tables, and with pages of any sizes, a client
that follows the tokens of a list comes to an end, and its answers show every row of the list that was there
throughout once, newest first; and a token stands for any timestamp and any id but the empty one. -/
theorem lists_visit_rows (henv : env.Standard) (hup : env.fault = none) :
    (∀ ctx tenantId n o r (sizes : ℕ → ℕ) (keto : ℕ → List KetoTuple)
        (tables : ℕ → StoredTable ListedRow.cursorKey), checkReader ctx = .ok tenantId →
      ∃ fuel pages,
        follow ReadAnswer.token fuel
            (fun i token => listRelationTuples env ⟨keto i, (tables i).rows⟩ ctx n o r (sizes i) token) "" =
          some (pages.mapIdx fun i => tuplesAnswer env (pageSizeOf (sizes i)) ((tables i).rows.filter
            fun x => TupleFilter.Passes ⟨textFilter n, textFilter o, textFilter r⟩ tenantId x)) ∧
        Visited ListedRow.cursorKey (fun i => (tables i).rows.filter
          fun x => TupleFilter.Passes ⟨textFilter n, textFilter o, textFilter r⟩ tenantId x) pages) ∧
    (∀ ctx tenantId (sizes : ℕ → Option ℕ) (tables : ℕ → StoredTable ListedAgent.cursorKey),
        requireTenant ctx = .ok tenantId → requireScopeAny ctx ["agent:read", scopeAgentAdmin] = .ok () →
      ∃ fuel pages,
        follow ListResponse.nextPageToken fuel
            (fun i token => listAgents env (tables i).rows ctx (requestFor (sizes i) token)) "" =
          some (pages.mapIdx fun i => pageAnswer env ListedAgent.createdAt (fun x => x.id) (limitOf (sizes i))
            ((tables i).rows.filter fun x => x.tenantId = tenantId)) ∧
        Visited ListedAgent.cursorKey (fun i => (tables i).rows.filter fun x => x.tenantId = tenantId) pages) ∧
    (∀ ctx tenantId auth agentId column value (sizes : ℕ → Option ℕ)
        (tables : ℕ → StoredTable ListedDelegation.cursorKey), requireTenant ctx = .ok tenantId →
        requireAuth ctx = .ok auth → listedBy ctx auth agentId = .ok (column, value) →
      ∃ fuel pages,
        follow ListResponse.nextPageToken fuel (fun i token =>
            listAgentDelegations env (tables i).rows ctx agentId (requestFor (sizes i) token)) "" =
          some (pages.mapIdx fun i => pageAnswer env ListedDelegation.createdAt (fun x => x.id)
            (limitOf (sizes i))
            ((tables i).rows.filter fun x => x.tenantId = tenantId ∧ column.of x = value)) ∧
        Visited ListedDelegation.cursorKey
          (fun i => (tables i).rows.filter fun x => x.tenantId = tenantId ∧ column.of x = value) pages) ∧
    ∀ createdAt id, isTimestampNanos createdAt = true → id ≠ "" →
      decodePageToken env (encodePageToken env createdAt id) = .ok (createdAt, id) := by
  refine ⟨?_, ?_, ?_, ?_⟩
  · intro ctx tenantId n o r sizes keto tables hreader
    exact (paginated_listRelationTuples henv hup hreader n o r sizes keto tables).visits
      (fun i => (tables i).distinctKeys _) (fun i => pageSizeOf_pos _) (finite_keys _ tables)
  · intro ctx tenantId sizes tables htenant hreader
    exact (paginated_listAgents henv hup htenant hreader sizes tables).visits
      (fun i => (tables i).distinctKeys _) (fun i => limitOf_pos _) (finite_keys _ tables)
  · intro ctx tenantId auth agentId column value sizes tables htenant hauth hlisted
    exact (paginated_listAgentDelegations henv hup htenant hauth hlisted sizes tables).visits
      (fun i => (tables i).distinctKeys _) (fun i => limitOf_pos _) (finite_keys _ tables)
  · intro createdAt id hcreated hid
    rw [decodePageToken_encodePageToken henv hcreated, if_neg hid]

end lists

/-! ## Three tuples, a page at a time -/

/-- The real encoding; nothing fails. -/
def base64Reads : ReadEnv where
  engine := .traversing 5 100 (Nat.succ_pos 99)
  publicId _ _ _ := none
  base64Encode := base64Encode
  base64Decode := base64Decode
  fault := none

theorem base64Reads_standard : base64Reads.Standard :=
  ⟨base64Decode_base64Encode, base64Decode_base64Encode ""⟩

/-- An empty id does not come back from its token. -/
theorem empty_id_refused :
    ¬ ∀ createdAt id, isTimestampNanos createdAt = true →
      decodePageToken base64Reads (encodePageToken base64Reads createdAt id) = .ok (createdAt, id) := by
  intro hall
  have hrefused := hall 0 "" (by decide)
  rw [decodePageToken_encodePageToken base64Reads_standard (by decide), if_pos rfl] at hrefused
  cases hrefused

/-- A tuple, by its number. -/
def numberedRow (i : Fin 4) : ListedRow := ⟨⟨ulidText ⟨i, by omega⟩, "acme", ⟨"document", "1", "viewer", "ana"⟩⟩, 0⟩

theorem numberedRow_id_ne : ∀ i j : Fin 4, i ≠ j → (numberedRow i).id ≠ (numberedRow j).id := by
  decide +kernel

/-- Some of the tuples. -/
def numberedTable (is : List (Fin 4)) (h : is.Nodup) : StoredTable ListedRow.cursorKey where
  rows := is.map numberedRow
  primaryKey := by
    rw [List.pairwise_map]
    exact h.imp fun hne => numberedRow_id_ne _ _ hne
  stored x hx := by
    obtain ⟨i, -, rfl⟩ := List.mem_map.mp hx
    exact ⟨rfl, _, rfl⟩

/-- Three tuples of one instant; after the first page one is deleted and another inserted. -/
def numberedTables : ℕ → StoredTable ListedRow.cursorKey
  | 0 => numberedTable [0, 1, 3] (by decide)
  | _ + 1 => numberedTable [0, 1, 2] (by decide)

/-- One of the tenant's readers. -/
def tupleReader : RequestContext := ⟨some "acme", some ⟨"acme", "ana", .user, [scopePermissionRead]⟩⟩

/-- The second tuple is there throughout, and the client sees it once. -/
theorem numberedRow_seen_once :
    (∃ (fuel : ℕ) (pages : List (List ListedRow)),
      follow ReadAnswer.token fuel
          (fun i token => listRelationTuples base64Reads ⟨[], (numberedTables i).rows⟩ tupleReader "document" "" ""
            1 token) "" =
        some (pages.mapIdx fun i => tuplesAnswer base64Reads (pageSizeOf 1) ((numberedTables i).rows.filter
          fun x => TupleFilter.Passes ⟨textFilter "document", textFilter "", textFilter ""⟩ "acme" x)) ∧
      (pages.flatten.countP fun x => x.cursorKey = (numberedRow 1).cursorKey) = 1) ∧
    decodePageToken base64Reads (encodePageToken base64Reads (-1) "a:b") = .ok (-1, "a:b") := by
  have hvisits := lists_visit_rows base64Reads_standard rfl
  refine ⟨?_, hvisits.2.2.2 (-1) "a:b" (by decide) (by decide)⟩
  obtain ⟨fuel, pages, hfollow, hvisited⟩ := hvisits.1 tupleReader "acme" "document" "" "" (fun _ => 1)
    (fun _ => []) numberedTables rfl
  refine ⟨fuel, pages, hfollow, hvisited.once _ fun n _ => ⟨numberedRow 1, ?_, rfl⟩⟩
  cases n with
  | zero => decide +kernel
  | succ n =>
      show numberedRow 1 ∈ List.filter _ ([0, 1, 2].map numberedRow)
      decide +kernel

end SsoGateway
