import SsoGateway.PermissionService

/-!
# The reads of the permission service

What the permission service answers about the tuples of a tenant, with Keto as its backend.

* `KetoEngine` — the evaluation of Keto; what it answers about an object depends on the tuples it can
  reach from there.
* `KetoEngine.traversing` — an evaluation that follows subject sets to a bounded depth.
* `Keto.check`, `Keto.expand`, `Keto.expandObjects`, `Keto.readTuples` — the backend.
* `sanitizeExpandTree` — what a caller gets to see of a tree.
* `PermissionRead`, `serveRead` — the reads.

Source: `services/permission.rs`, `sso-ory-client/src/keto.rs`, `db/permission.rs`.
-/

namespace SsoGateway

open Lib

/-! ## Keto's read API -/

/-- What Keto answers to a read. -/
inductive KetoReply where
  | success (body : Value)
  | failure (status : ℕ) (message : String)

/-- Source: `handle_response`. -/
def KetoReply.handle : KetoReply → Except OryClientError Value
  | .success body => .ok body
  | .failure status message => .error (.ory status message)

/-- The subject sets of the objects in `D` are of objects in `D`. -/
def ObjectsClosed (D : String → Bool) (tuples : List KetoTuple) : Prop :=
  ∀ x ∈ tuples, D x.object = true → ∀ n o r, x.subject = .set n o r → D o = true

/-- The tuples of the objects in `D`. -/
def tuplesOn (D : String → Bool) (tuples : List KetoTuple) : List KetoTuple :=
  tuples.filter fun x => D x.object

/-- The evaluation of Keto. A check and an expansion look up an object, and the objects of the
subject sets they find; a listing goes by pages. -/
structure KetoEngine where
  check : List KetoTuple → String → String → String → String → KetoReply
  expand : List KetoTuple → String → String → String → KetoReply
  pageSize : ℕ
  token : List KetoTuple → String
  pageSize_pos : 0 < pageSize
  check_local : ∀ D tuples tuples', ObjectsClosed D tuples → tuplesOn D tuples = tuplesOn D tuples' →
    ∀ n o r i, D o = true → check tuples n o r i = check tuples' n o r i
  expand_local : ∀ D tuples tuples', ObjectsClosed D tuples → tuplesOn D tuples = tuplesOn D tuples' →
    ∀ n o r, D o = true → expand tuples n o r = expand tuples' n o r

/-- The filter of a listing. -/
structure KetoQuery where
  nspace : String
  object : Option String
  relation : Option String
  subjectId : Option String
  setNspace : Option String
  setObject : Option String
  setRelation : Option String
deriving DecidableEq, Repr

namespace KetoQuery

/-- The subject a listing is filtered by, if any; an incomplete one is refused. -/
def subject (q : KetoQuery) : Except Unit (Option KetoSubject) :=
  match q.subjectId, q.setNspace, q.setObject, q.setRelation with
  | none, none, none, none => .ok none
  | some i, none, none, none => .ok (some (.id i))
  | none, some n, some o, some r => .ok (some (.set n o r))
  | _, _, _, _ => .error ()

/-- The tuple is one the listing is about. -/
def Matches (q : KetoQuery) (subject : Option KetoSubject) (x : KetoTuple) : Prop :=
  x.nspace = q.nspace ∧ (∀ o ∈ q.object, x.object = o) ∧ (∀ r ∈ q.relation, x.relation = r) ∧
    ∀ s ∈ subject, x.subject = s

instance (q : KetoQuery) (s : Option KetoSubject) (x : KetoTuple) : Decidable (q.Matches s x) :=
  inferInstanceAs (Decidable (_ ∧ _ ∧ _ ∧ _))

end KetoQuery

/-- A tuple as Keto lists it. -/
def KetoTuple.toJson (x : KetoTuple) : Value :=
  .obj ([("namespace", .str x.nspace), ("object", .str x.object), ("relation", .str x.relation)] ++
    match x.subject with
    | .id i => [("subject_id", .str i)]
    | .set n o r =>
        [("subject_set", .obj [("namespace", .str n), ("object", .str o), ("relation", .str r)])])

/-- The tuples a listing is about. -/
def ketoFound (tuples : List KetoTuple) (q : KetoQuery) (subject : Option KetoSubject) :
    List KetoTuple :=
  tuples.filter fun x => q.Matches subject x

/-- `GET relation-tuples`: the first page of the tuples that match. -/
def KetoEngine.list (E : KetoEngine) (tuples : List KetoTuple) (q : KetoQuery) : KetoReply :=
  match q.subject with
  | .error () => .failure 400 "incomplete subject"
  | .ok subject =>
      let found := ketoFound tuples q subject
      .success (.obj [("relation_tuples", .arr ((found.take E.pageSize).map KetoTuple.toJson)),
        ("next_page_token", .str (E.token found))])

/-! ### An evaluation -/

/-- The subjects of the tuples on an object and relation. -/
def ketoSubjects (tuples : List KetoTuple) (n o r : String) : List KetoSubject :=
  (tuples.filter fun x => x.object = o ∧ x.nspace = n ∧ x.relation = r).map (·.subject)

/-- Whether the subject is found within `depth` subject sets. -/
def ketoAllowed (tuples : List KetoTuple) (i : String) : ℕ → String → String → String → Bool
  | 0, _, _, _ => false
  | depth + 1, n, o, r =>
      (ketoSubjects tuples n o r).any fun
        | .id i' => i' == i
        | .set n' o' r' => ketoAllowed tuples i depth n' o' r'

/-- A subject set, as a tree shows it. -/
def subjectSetJson (n o r : String) : Value :=
  .obj [("namespace", .str n), ("object", .str o), ("relation", .str r)]

/-- The tree of subjects, to a bounded depth. -/
def ketoTree (tuples : List KetoTuple) : ℕ → String → String → String → Value
  | 0, n, o, r => .obj [("type", .str "leaf"), ("subject_set", subjectSetJson n o r)]
  | depth + 1, n, o, r =>
      .obj [("type", .str "union"), ("subject_set", subjectSetJson n o r),
        ("children", .arr ((ketoSubjects tuples n o r).map fun
          | .id i => .obj [("type", .str "leaf"), ("subject_id", .str i)]
          | .set n' o' r' => ketoTree tuples depth n' o' r'))]

section reach

variable {D : String → Bool} {tuples tuples' : List KetoTuple}

theorem ketoSubjects_congr (hD : tuplesOn D tuples = tuplesOn D tuples') {n o r : String}
    (ho : D o = true) : ketoSubjects tuples n o r = ketoSubjects tuples' n o r := by
  have honly (l : List KetoTuple) : l.filter (fun x => x.object = o ∧ x.nspace = n ∧ x.relation = r) =
      (tuplesOn D l).filter fun x => x.object = o ∧ x.nspace = n ∧ x.relation = r := by
    unfold tuplesOn
    rw [List.filter_filter]
    refine List.filter_congr fun x _ => ?_
    by_cases hx : x.object = o
    · simp [hx, ho]
    · simp [hx]
  unfold ketoSubjects
  rw [honly tuples, honly tuples', hD]

theorem mem_closed (hclosed : ObjectsClosed D tuples) {n o r n' o' r' : String} (ho : D o = true)
    (h : .set n' o' r' ∈ ketoSubjects tuples n o r) : D o' = true := by
  obtain ⟨x, hx, hset⟩ := List.mem_map.mp h
  obtain ⟨hmem, hof⟩ := List.mem_filter.mp hx
  have hobject : x.object = o := (of_decide_eq_true hof).1
  exact hclosed x hmem (hobject ▸ ho) n' o' r' hset

theorem ketoAllowed_congr (hclosed : ObjectsClosed D tuples)
    (hD : tuplesOn D tuples = tuplesOn D tuples') (i : String) (depth : ℕ) {n o r : String}
    (ho : D o = true) : ketoAllowed tuples i depth n o r = ketoAllowed tuples' i depth n o r := by
  induction depth generalizing n o r with
  | zero => rfl
  | succ depth ih =>
      simp only [ketoAllowed, ← ketoSubjects_congr hD ho]
      refine Bool.eq_iff_iff.mpr ?_
      simp only [List.any_eq_true]
      refine exists_congr fun s => and_congr_right fun hs => ?_
      rcases s with i' | ⟨n', o', r'⟩
      · rfl
      · simp only [ih (mem_closed hclosed ho hs)]

theorem ketoTree_congr (hclosed : ObjectsClosed D tuples)
    (hD : tuplesOn D tuples = tuplesOn D tuples') (depth : ℕ) {n o r : String} (ho : D o = true) :
    ketoTree tuples depth n o r = ketoTree tuples' depth n o r := by
  induction depth generalizing n o r with
  | zero => rfl
  | succ depth ih =>
      simp only [ketoTree, ← ketoSubjects_congr hD ho]
      have hchildren : ∀ s ∈ ketoSubjects tuples n o r,
          (match s with
            | .id i => Value.obj [("type", .str "leaf"), ("subject_id", .str i)]
            | .set n' o' r' => ketoTree tuples depth n' o' r') =
          match s with
            | .id i => Value.obj [("type", .str "leaf"), ("subject_id", .str i)]
            | .set n' o' r' => ketoTree tuples' depth n' o' r' := by
        intro s hs
        rcases s with i | ⟨n', o', r'⟩
        · rfl
        · exact ih (mem_closed hclosed ho hs)
      rw [List.map_congr_left hchildren]

end reach

/-- The evaluation that follows subject sets to a bounded depth. -/
def KetoEngine.traversing (depth : ℕ) (pageSize : ℕ) (h : 0 < pageSize) : KetoEngine where
  check tuples n o r i := .success (.obj [("allowed", .bool (ketoAllowed tuples i depth n o r))])
  expand tuples n o r := .success (ketoTree tuples depth n o r)
  pageSize := pageSize
  token found := if pageSize < found.length then "next" else ""
  pageSize_pos := h
  check_local D tuples tuples' hclosed hD n o r i ho := by
    rw [ketoAllowed_congr hclosed hD i depth ho]
  expand_local D tuples tuples' hclosed hD n o r ho := by
    rw [ketoTree_congr hclosed hD depth ho]

/-! ## The backend -/

/-- What a read meets besides the tuples: Keto, the id mappings (nothing where there is none or the
lookup fails), the encoding of page tokens, and whether the store it asks fails. -/
structure ReadEnv where
  engine : KetoEngine
  publicId : String → String → String → Option String
  base64Encode : String → String
  base64Decode : String → Option String
  fault : Option OryClientError

/-- Source: `QueryOptions`. -/
structure QueryOptions where
  context : Option Value
  contextualTuples : List RelationTupleKey
  consistency : Option String

/-- Source: `QueryOptions::is_default`. -/
def QueryOptions.isDefault (opts : QueryOptions) : Bool :=
  opts.context.isNone && opts.contextualTuples.isEmpty && opts.consistency.isNone

/-- Source: `reject_unsupported_opts`. -/
def rejectUnsupportedOpts (opts : QueryOptions) : Except BackendError Unit :=
  if opts.isDefault then .ok ()
  else .error (.configuration
    "context, contextual tuples, and consistency are not supported by the keto backend")

/-- A request to Keto, if it gets through. -/
def ReadEnv.ask (env : ReadEnv) (reply : KetoReply) : Except OryClientError KetoReply :=
  match env.fault with
  | some e => .error e
  | none => .ok reply

/-- The answer to a check. A denied one may come with status 403. -/
def KetoReply.allowed : KetoReply → Except OryClientError Bool
  | .success body => .ok ((body.get "allowed").bind Value.asBool == some true)
  | .failure status message => if status = 403 then .ok false else .error (.ory status message)

/-- Source: `strip_tenant_object_prefix`. -/
def stripTenantObjectPrefix (tenantId object : String) : Option String :=
  stripStart object (tenantId ++ ":")

/-- Source: `keto_tuple_key`. -/
def ketoTupleKey (tenantId : String) (x : KetoTuple) : RelationTupleKey :=
  { nspace := x.nspace
    object := (stripTenantObjectPrefix tenantId x.object).getD x.object
    relation := x.relation
    subjectId := match x.subject with
      | .id i => i
      | .set n o r => n ++ ":" ++ (stripTenantObjectPrefix tenantId o).getD o ++ "#" ++ r }

/-- The subject of a listed tuple. -/
def subjectOfEntry (entry : Value) : Option KetoSubject :=
  match (entry.get "subject_id").bind Value.asStr with
  | some i => some (.id i)
  | none => do
      let set ← entry.get "subject_set"
      let n ← (set.get "namespace").bind Value.asStr
      let o ← (set.get "object").bind Value.asStr
      let r ← (set.get "relation").bind Value.asStr
      return .set n o r

/-- A listed tuple; an entry that is none is passed over. -/
def tupleOfEntry (entry : Value) : Option KetoTuple := do
  let n ← (entry.get "namespace").bind Value.asStr
  let o ← (entry.get "object").bind Value.asStr
  let r ← (entry.get "relation").bind Value.asStr
  let subject ← subjectOfEntry entry
  return ⟨n, o, r, subject⟩

/-- The tuples of a listing. -/
def tuplesOfListing (body : Value) : List KetoTuple :=
  (((body.get "relation_tuples").bind Value.asArray).getD []).filterMap tupleOfEntry

/-- The filters of `ExpandObjects` (without the depth, which a listing has no use for). -/
structure ExpandObjectsQuery where
  subjectId : Option String
  setNspace : Option String
  setObject : Option String
  setRelation : Option String
deriving DecidableEq, Repr

namespace Keto

variable (env : ReadEnv) (tuples : List KetoTuple)

/-- Source: `KetoClient` `check_permission`. -/
def check (tenantId n o r subjectId : String) (opts : QueryOptions) : Except BackendError Bool := do
  rejectUnsupportedOpts opts
  Except.mapError .ofOryClientError do
    let reply ← env.ask (env.engine.check tuples n (tenantObject tenantId o) r subjectId)
    reply.allowed

/-- Source: `KetoClient` `expand`. -/
def expand (tenantId n o r : String) (opts : QueryOptions) : Except BackendError Value := do
  rejectUnsupportedOpts opts
  Except.mapError .ofOryClientError do
    let reply ← env.ask (env.engine.expand tuples n (tenantObject tenantId o) r)
    reply.handle

/-- The listing behind `ExpandObjects`. -/
def objectsQuery (n r : String) (q : ExpandObjectsQuery) : KetoQuery :=
  ⟨n, none, some r, q.subjectId, q.setNspace, q.setObject, q.setRelation⟩

/-- Source: `KetoClient` `expand_objects`. The tenant is not used. -/
def expandObjects (n r : String) (q : ExpandObjectsQuery) (opts : QueryOptions) :
    Except BackendError Value := do
  rejectUnsupportedOpts opts
  Except.mapError .ofOryClientError do
    let reply ← env.ask (env.engine.list tuples (objectsQuery n r q))
    reply.handle

/-- Source: `KetoClient` `list_users`. -/
def listUsers : Except BackendError (List String) :=
  .error (.configuration "ListUsers is not supported by the keto backend")

/-- The listing behind `read_tuples`. -/
def readQuery (tenantId n o : String) : KetoQuery :=
  ⟨n, some (tenantObject tenantId o), none, none, none, none, none⟩

/-- Source: `KetoClient` `read_tuples`. -/
def readTuples (tenantId n o : String) : Except BackendError (List RelationTupleKey) :=
  Except.mapError .ofOryClientError do
    let reply ← env.ask (env.engine.list tuples (readQuery tenantId n o))
    let body ← reply.handle
    return (tuplesOfListing body).map (ketoTupleKey tenantId)

end Keto

/-! ## What a caller gets to see -/

/-- Source: `sanitize_object_value`. -/
def sanitizeObjectValue (tenantId : String) (v : Value) : Value :=
  match v.asStr with
  | some s => .str ((stripTenantObjectPrefix tenantId s).getD s)
  | none => v

/-- Source: `strip_subject_set_prefix`. -/
def stripSubjectSetPrefix (subject tenantId : String) : String :=
  match splitOnce subject '#' with
  | some (left, relation) => (stripStart left (tenantId ++ ":")).getD left ++ "#" ++ relation
  | none => subject

/-- Source: `sanitize_subject_id`. -/
def sanitizeSubjectId (env : ReadEnv) (tenantId : String) (v : Value) : Value :=
  match v.asStr with
  | none => v
  | some subject =>
      if '#' ∈ subject.toList then .str (stripSubjectSetPrefix subject tenantId)
      else .str ((env.publicId tenantId "kratos" subject).getD
        ((env.publicId tenantId "hydra" subject).getD subject))

mutual

/-- Source: `sanitize_expand_tree`. -/
def sanitizeExpandTree (env : ReadEnv) (tenantId : String) : Value → Value
  | .obj fields => .obj (sanitizeFields env tenantId fields)
  | .arr items => .arr (sanitizeItems env tenantId items)
  | v => v

/-- The fields of an object. -/
def sanitizeFields (env : ReadEnv) (tenantId : String) : List (String × Value) → List (String × Value)
  | [] => []
  | (k, v) :: fields =>
      (k, if k = "object" then sanitizeObjectValue tenantId v
        else if k = "subject_id" then sanitizeSubjectId env tenantId v
        else sanitizeExpandTree env tenantId v) :: sanitizeFields env tenantId fields

/-- The items of an array. -/
def sanitizeItems (env : ReadEnv) (tenantId : String) : List Value → List Value
  | [] => []
  | v :: items => sanitizeExpandTree env tenantId v :: sanitizeItems env tenantId items

end

/-- The objects in a sanitized listing. -/
def objectsOfListing (body : Value) : List String :=
  (((body.get "relation_tuples").bind Value.asArray).getD []).filterMap fun entry =>
    (entry.get "object").bind Value.asStr

/-! ## The mirror -/

/-- A row of the mirror, with the time it was inserted. -/
structure ListedRow extends PermissionTupleRow where
  createdAt : ℤ
deriving DecidableEq, Repr

/-- The filter of `ListRelationTuples`. -/
structure TupleFilter where
  nspace : Option String
  object : Option String
  relation : Option String

/-- The row is one of the tenant that passes the filter. -/
def TupleFilter.Passes (f : TupleFilter) (tenantId : String) (x : ListedRow) : Prop :=
  x.tenantId = tenantId ∧ (∀ n ∈ f.nspace, x.key.nspace = n) ∧ (∀ o ∈ f.object, x.key.object = o) ∧
    ∀ r ∈ f.relation, x.key.relation = r

instance (f : TupleFilter) (t : String) (x : ListedRow) : Decidable (f.Passes t x) :=
  inferInstanceAs (Decidable (_ ∧ _ ∧ _ ∧ _))

/-- The row comes after the cursor, newest first. -/
def ListedRow.After (cursor : ℤ × String) (x : ListedRow) : Prop :=
  x.createdAt < cursor.1 ∨ (x.createdAt = cursor.1 ∧ x.id < cursor.2)

instance (c : ℤ × String) (x : ListedRow) : Decidable (x.After c) :=
  inferInstanceAs (Decidable (_ ∨ _ ∧ _))

/-- Newest first. -/
def ListedRow.Newer (x y : ListedRow) : Prop :=
  y.createdAt < x.createdAt ∨ (y.createdAt = x.createdAt ∧ y.id ≤ x.id)

instance (x y : ListedRow) : Decidable (x.Newer y) := inferInstanceAs (Decidable (_ ∨ _ ∧ _))

/-- Source: `db/permission.rs` `list_page`. -/
def listPage (rows : List ListedRow) (tenantId : String) (f : TupleFilter) (limit : ℕ)
    (after : Option (ℤ × String)) : List ListedRow × ℕ :=
  let passing := rows.filter fun x => f.Passes tenantId x
  (((passing.filter fun x => ∀ c ∈ after, x.After c).insertionSort ListedRow.Newer).take limit,
    passing.length)

/-- Source: `encode_page_token`. -/
def encodePageToken (env : ReadEnv) (createdAt : ℤ) (id : String) : String :=
  env.base64Encode (toString createdAt ++ ":" ++ id)

/-- The instants a timestamp can be made of, in nanoseconds. -/
def isTimestampNanos (n : ℤ) : Bool := -377705116800000000000 ≤ n && n ≤ 253402300799999999999

/-- Source: `decode_page_token`. -/
def decodePageToken (env : ReadEnv) (token : String) : Except ServiceError (ℤ × String) :=
  let cursor := do
    let raw ← env.base64Decode token
    let (nanos, id) ← splitOnce raw ':'
    if id = "" then none
    else do
      let createdAt ← (parseI128 nanos).filter isTimestampNanos
      return (createdAt, id)
  cursor.elim (.error (.invalidArgument "invalid page token")) .ok

/-- Source: `DEFAULT_PAGE_SIZE`, `MAX_PAGE_SIZE`. -/
def pageSizeOf (requested : ℕ) : ℕ := min (if 0 < requested then requested else 50) 200

/-! ## The reads -/

/-- Source: `require_scope_any`. -/
def requireScopeAny (ctx : RequestContext) (scopes : List String) : Except ServiceError Unit :=
  match ctx.auth with
  | none => .error (.unauthenticated "missing authentication context")
  | some auth =>
      if auth.scopes.any fun s => s ∈ scopes then .ok ()
      else .error (.permissionDenied ("missing required scope: one of " ++
        String.intercalate ", " scopes))

/-- Source: `SCOPE_PERMISSION_READ`. -/
def scopePermissionRead : String := "permission:read"

/-- The tenant of a read, and that the caller may read. -/
def checkReader (ctx : RequestContext) : Except ServiceError String := do
  let tenantId ← requireTenant ctx
  requireScopeAny ctx [scopePermissionRead, scopePermissionAdmin]
  return tenantId

/-- The options of a request. -/
structure OptionsRequest where
  context : Option Value
  contextualTuples : List RelationTupleKey
  consistency : String

/-- The consistency of a request. -/
def consistencyOf (text : String) : Except ServiceError (Option String) :=
  if text = "" then .ok none
  else if text = "minimize_latency" ∨ text = "higher_consistency" then .ok (some text)
  else .error (.invalidArgument ("invalid consistency " ++ Value.quote text ++
    ": expected \"minimize_latency\" or \"higher_consistency\""))

/-- Source: `query_options_from`. -/
def queryOptionsFrom (req : OptionsRequest) : Except ServiceError QueryOptions := do
  let consistency ← consistencyOf req.consistency
  let contextualTuples ← req.contextualTuples.mapM tupleKeyFromProto
  return ⟨req.context, contextualTuples, consistency⟩

/-- A text that is there. Source: `namespace_filter`, `object_filter`, `relation_filter`,
`subject_id_filter`, `subject_set_filter`. -/
def textFilter (text : String) : Option String := if text = "" then none else some text

/-- The reads. `readTuples` is what the entitlement service reads. -/
inductive PermissionRead where
  | check (ctx : RequestContext) (n o r subjectId : String) (opts : OptionsRequest)
  | expand (ctx : RequestContext) (n o r : String) (opts : OptionsRequest)
  | expandObjects (ctx : RequestContext) (n r subjectId setNspace setObject setRelation : String)
      (opts : OptionsRequest)
  | list (ctx : RequestContext) (n o r : String) (pageSize : ℕ) (pageToken : String)
  | listUsers (ctx : RequestContext) (n o r : String) (opts : OptionsRequest)
  | readTuples (tenantId n o : String)

/-- The answers. Trees go out as their text. -/
inductive ReadAnswer where
  | allowed (b : Bool)
  | tree (text : String)
  | objects (objects : List String) (tree : String)
  | rows (rows : List PermissionTupleRow) (nextPageToken : String) (totalSize : ℕ)
  | users (users : List String)
  | keys (keys : List RelationTupleKey)
deriving DecidableEq, Repr

/-- What a read meets of the tuples: those of Keto, and the mirror. -/
structure ReadWorld where
  keto : List KetoTuple
  rows : List ListedRow

/-- A call of the backend. -/
def fromBackend {α : Type} (r : Except BackendError α) : Except ServiceError α :=
  r.mapError .ofBackendError

section reads

variable (env : ReadEnv) (w : ReadWorld)

/-- Source: `check_permission`. -/
def checkPermission (ctx : RequestContext) (n o r subjectId : String) (opts : OptionsRequest) :
    Except ServiceError ReadAnswer := do
  let tenantId ← checkReader ctx
  let opts ← queryOptionsFrom opts
  let allowed ← fromBackend (Keto.check env w.keto tenantId n o r subjectId opts)
  return .allowed allowed

/-- Source: `expand_permissions`. -/
def expandPermissions (ctx : RequestContext) (n o r : String) (opts : OptionsRequest) :
    Except ServiceError ReadAnswer := do
  let tenantId ← checkReader ctx
  let opts ← queryOptionsFrom opts
  let expanded ← fromBackend (Keto.expand env w.keto tenantId n o r opts)
  return .tree (sanitizeExpandTree env tenantId expanded).render

/-- The filters of a request. -/
def objectsFilter (subjectId setNspace setObject setRelation : String) : ExpandObjectsQuery :=
  ⟨textFilter subjectId, textFilter setNspace, textFilter setObject, textFilter setRelation⟩

/-- What `ExpandObjects` answers. -/
def objectsAnswer (tenantId : String) (expanded : Value) : ReadAnswer :=
  let sanitized := sanitizeExpandTree env tenantId expanded
  .objects (objectsOfListing sanitized) sanitized.render

/-- Source: `expand_objects`. -/
def expandObjects (ctx : RequestContext) (n r : String) (q : ExpandObjectsQuery)
    (opts : OptionsRequest) : Except ServiceError ReadAnswer := do
  let tenantId ← checkReader ctx
  let opts ← queryOptionsFrom opts
  let expanded ← fromBackend (Keto.expandObjects env w.keto n r q opts)
  return objectsAnswer env tenantId expanded

/-- The cursor of a request. -/
def cursorOf (pageToken : String) : Except ServiceError (Option (ℤ × String)) :=
  if pageToken = "" then .ok none else some <$> decodePageToken env pageToken

/-- The token of the next page, if the page is full. -/
def nextPageToken (pageSize : ℕ) (rows : List ListedRow) : String :=
  if rows.length = pageSize then
    match rows.getLast? with
    | some row => encodePageToken env row.createdAt row.id
    | none => ""
  else ""

/-- A listing of the mirror, if it gets through. -/
def readPage (tenantId : String) (f : TupleFilter) (limit : ℕ) (after : Option (ℤ × String)) :
    Except ServiceError (List ListedRow × ℕ) :=
  match env.fault with
  | some e => .error (.ofDbError (Fault.sqlx e))
  | none => .ok (listPage w.rows tenantId f limit after)

/-- Source: `list_relation_tuples`. -/
def listRelationTuples (ctx : RequestContext) (n o r : String) (pageSize : ℕ) (pageToken : String) :
    Except ServiceError ReadAnswer := do
  let tenantId ← checkReader ctx
  let after ← cursorOf env pageToken
  let (rows, total) ← readPage env w tenantId ⟨textFilter n, textFilter o, textFilter r⟩
    (pageSizeOf pageSize) after
  return .rows (rows.map ListedRow.toPermissionTupleRow) (nextPageToken env (pageSizeOf pageSize) rows)
    (min total (2 ^ 32 - 1))

/-- Source: `list_users`. -/
def listUsers (ctx : RequestContext) (opts : OptionsRequest) : Except ServiceError ReadAnswer := do
  let _ ← checkReader ctx
  let _ ← queryOptionsFrom opts
  let users ← fromBackend Keto.listUsers
  return .users users

/-- A read is served. -/
def serveRead : PermissionRead → Except ServiceError ReadAnswer
  | .check ctx n o r i opts => checkPermission env w ctx n o r i opts
  | .expand ctx n o r opts => expandPermissions env w ctx n o r opts
  | .expandObjects ctx n r i sn so sr opts =>
      expandObjects env w ctx n r (objectsFilter i sn so sr) opts
  | .list ctx n o r size token => listRelationTuples env w ctx n o r size token
  | .listUsers ctx _ _ _ opts => listUsers ctx opts
  | .readTuples t n o =>
      ReadAnswer.keys <$> (Keto.readTuples env w.keto t n o).mapError entitlementBackendError

end reads

end SsoGateway
