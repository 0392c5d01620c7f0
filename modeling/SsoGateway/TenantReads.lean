import SsoGateway.MirrorEffects
import SsoGateway.PermissionReads

/-!
# Reads stay inside their tenant

Two states of Keto and the mirror that differ in the tuples of another tenant only answer the reads
of a tenant alike, unless the read is a listing of objects that the other tenant's tuples can match.

* `TenantState` — the tuples written for each tenant, and what Keto and the mirror have of them.
* `AgreeExcept` — two states that differ in one tenant's tuples.
* `Confined` — the read is none that another tenant's tuples can match.
* `reads_confined` — a read is answered alike in all such pairs of states if and only if it is
  confined.
* `objects_leak` — a listing of objects that shows another tenant's.
-/

namespace SsoGateway

open Lib

variable {T : String}

/-! ## States -/

/-- Keto's tuples are those written for the tenants. -/
def ketoState (written : List StoredTuple) : List KetoTuple :=
  written.map fun x => ketoTuple x.tenantId x.key

/-- What was written to Keto for each tenant, and the rows of the mirror. Ids of tenants have no
colon. -/
structure TenantState where
  written : List StoredTuple
  rows : List ListedRow
  plain : ∀ x ∈ written, ':' ∉ x.tenantId.toList

/-- What a read meets. -/
def TenantState.world (S : TenantState) : ReadWorld := ⟨ketoState S.written, S.rows⟩

/-- The states differ in what was written for the tenant `t` only. -/
structure AgreeExcept (t : String) (S S' : TenantState) : Prop where
  written : S.written.filter (fun x => x.tenantId ≠ t) = S'.written.filter fun x => x.tenantId ≠ t
  rows : S.rows.filter (fun x => x.tenantId ≠ t) = S'.rows.filter fun x => x.tenantId ≠ t

/-- The tenant a read is made for. -/
def PermissionRead.tenant? : PermissionRead → Option String
  | .check ctx _ _ _ _ _ => ctx.tenant
  | .expand ctx _ _ _ _ => ctx.tenant
  | .expandObjects ctx _ _ _ _ _ _ _ => ctx.tenant
  | .list ctx _ _ _ _ _ => ctx.tenant
  | .listUsers ctx _ _ _ _ => ctx.tenant
  | .readTuples t _ _ => some t

/-- The caller may read, and asks for nothing that Keto does not have. -/
def ReachesKeto (ctx : RequestContext) (opts : OptionsRequest) : Prop :=
  (∃ t, checkReader ctx = .ok t) ∧ ∃ o, queryOptionsFrom opts = .ok o ∧ o.isDefault = true

/-- No tuple of another tenant matches the listing. -/
def KetoQuery.Confined (T : String) (q : KetoQuery) : Prop :=
  ∀ subject, q.subject = .ok subject → ∀ t, t ≠ T → ':' ∉ t.toList → ∀ key,
    ¬ q.Matches subject (ketoTuple t key)

/-- The read is no listing of objects, or one that no tuple of another tenant matches. -/
def PermissionRead.Confined (T : String) : PermissionRead → Prop
  | .expandObjects ctx n r i sn so sr opts =>
      ReachesKeto ctx opts → (Keto.objectsQuery n r (objectsFilter i sn so sr)).Confined T
  | _ => True

/-! ## The objects of a tenant -/

/-- The object is one of the tenant. -/
def ownObject (T : String) (object : String) : Bool := (stripTenantObjectPrefix T object).isSome

theorem ownObject_iff {object : String} : ownObject T object = true ↔ ∃ o, object = tenantObject T o := by
  unfold ownObject stripTenantObjectPrefix
  rw [Option.isSome_iff_exists]
  constructor
  · rintro ⟨o, ho⟩
    exact ⟨o, stripStart_eq_some.mp ho⟩
  · rintro ⟨o, rfl⟩
    exact ⟨o, stripStart_append (T ++ ":") o⟩

theorem ownObject_tenantObject (T o : String) : ownObject T (tenantObject T o) = true :=
  ownObject_iff.mpr ⟨o, rfl⟩

/-- Another tenant's object is none of the tenant. -/
theorem eq_of_ownObject {t o : String} (hT : ':' ∉ T.toList) (ht : ':' ∉ t.toList)
    (h : ownObject T (tenantObject t o) = true) : t = T := by
  obtain ⟨o', ho'⟩ := ownObject_iff.mp h
  exact (tenantObject_inj ht hT ho').1

section states

variable {S S' : TenantState}

/-- What is on the tenant's objects was written for the tenant. -/
theorem tuplesOn_ketoState (hT : ':' ∉ T.toList) (S : TenantState) :
    tuplesOn (ownObject T) (ketoState S.written) =
      ketoState (S.written.filter fun x => x.tenantId = T) := by
  unfold tuplesOn ketoState
  rw [List.filter_map]
  refine congrArg _ (List.filter_congr fun x hx => ?_)
  by_cases hxT : x.tenantId = T
  · simp [Function.comp, hxT, ketoTuple, ownObject_tenantObject]
  · have hno : ¬ ownObject T (tenantObject x.tenantId x.key.object) = true :=
      fun h => hxT (eq_of_ownObject hT (S.plain x hx) h)
    simp [Function.comp, hxT, ketoTuple, hno]

/-- The subject sets of the tenant's tuples are its own. -/
theorem closed_ketoState (hT : ':' ∉ T.toList) (S : TenantState) :
    ObjectsClosed (ownObject T) (ketoState S.written) := by
  intro y hy hown n o r hset
  obtain ⟨x, hx, rfl⟩ := List.mem_map.mp hy
  obtain rfl := eq_of_ownObject hT (S.plain x hx) hown
  simp only [ketoTuple, ketoSubject] at hset
  split at hset
  · obtain ⟨-, rfl, -⟩ := KetoSubject.set.inj hset
    exact ownObject_tenantObject x.tenantId _
  · simp at hset

/-- What is left without one tenant determines what another one has. -/
theorem filter_own {α : Type} {f : α → String} {t : String} {l l' : List α} (ht : t ≠ T)
    (h : l.filter (fun x => f x ≠ t) = l'.filter fun x => f x ≠ t) :
    l.filter (fun x => f x = T) = l'.filter fun x => f x = T := by
  have hown (l : List α) : l.filter (fun x => f x = T) =
      (l.filter fun x => f x ≠ t).filter fun x => f x = T := by
    rw [List.filter_filter]
    refine List.filter_congr fun x _ => ?_
    by_cases hx : f x = T
    · simp [hx, ht.symm]
    · simp [hx]
  rw [hown l, hown l', h]

theorem AgreeExcept.own {t : String} (h : AgreeExcept t S S') (ht : t ≠ T) :
    S.written.filter (fun x => x.tenantId = T) = S'.written.filter fun x => x.tenantId = T :=
  filter_own ht h.written

theorem AgreeExcept.tuplesOn {t : String} (h : AgreeExcept t S S') (hT : ':' ∉ T.toList) (ht : t ≠ T) :
    tuplesOn (ownObject T) (ketoState S.written) = tuplesOn (ownObject T) (ketoState S'.written) := by
  rw [tuplesOn_ketoState hT, tuplesOn_ketoState hT, h.own ht]

/-! ## The calls of the backend -/

/-- A listing that no other tenant's tuple matches finds the tenant's own only. -/
theorem found_own {q : KetoQuery} {subject : Option KetoSubject} (hq : q.Confined T)
    (hsubject : q.subject = .ok subject) (S : TenantState) :
    ketoFound (ketoState S.written) q subject =
      ketoFound (ketoState (S.written.filter fun x => x.tenantId = T)) q subject := by
  unfold ketoFound ketoState
  rw [List.filter_map, List.filter_map, List.filter_filter]
  refine congrArg _ (List.filter_congr fun x hx => ?_)
  by_cases hxT : x.tenantId = T
  · simp [hxT]
  · have hno := hq subject hsubject x.tenantId hxT (S.plain x hx) x.key
    simp [hxT, hno]

theorem list_congr {E : KetoEngine} {q : KetoQuery} (hq : q.Confined T) {t : String}
    (h : AgreeExcept t S S') (ht : t ≠ T) :
    E.list (ketoState S.written) q = E.list (ketoState S'.written) q := by
  unfold KetoEngine.list
  rcases hsubject : q.subject with e | subject
  · rfl
  · simp only [found_own hq hsubject, h.own ht]

theorem readQuery_confined (hT : ':' ∉ T.toList) (n o : String) :
    (Keto.readQuery T n o).Confined T := by
  intro subject _ t hne ht key hmatch
  exact hne (tenantObject_inj ht hT (hmatch.2.1 _ rfl)).1

variable {env : ReadEnv} {t : String}

theorem check_congr (hT : ':' ∉ T.toList) (h : AgreeExcept t S S') (ht : t ≠ T) (n o r i : String)
    (opts : QueryOptions) : Keto.check env (ketoState S.written) T n o r i opts =
      Keto.check env (ketoState S'.written) T n o r i opts := by
  unfold Keto.check
  rw [env.engine.check_local (ownObject T) _ _ (closed_ketoState hT S) (h.tuplesOn hT ht) n _ r i
    (ownObject_tenantObject T o)]

theorem expand_congr (hT : ':' ∉ T.toList) (h : AgreeExcept t S S') (ht : t ≠ T) (n o r : String)
    (opts : QueryOptions) : Keto.expand env (ketoState S.written) T n o r opts =
      Keto.expand env (ketoState S'.written) T n o r opts := by
  unfold Keto.expand
  rw [env.engine.expand_local (ownObject T) _ _ (closed_ketoState hT S) (h.tuplesOn hT ht) n _ r
    (ownObject_tenantObject T o)]

theorem readTuples_congr (hT : ':' ∉ T.toList) (h : AgreeExcept t S S') (ht : t ≠ T) (n o : String) :
    Keto.readTuples env (ketoState S.written) T n o =
      Keto.readTuples env (ketoState S'.written) T n o := by
  unfold Keto.readTuples
  rw [list_congr (readQuery_confined hT n o) h ht]

/-- The mirror is read by tenant. -/
theorem listPage_congr (h : AgreeExcept t S S') (ht : t ≠ T) (f : TupleFilter) (limit : ℕ)
    (after : Option (ℤ × String)) :
    listPage S.rows T f limit after = listPage S'.rows T f limit after := by
  have hpassing (l : List ListedRow) : l.filter (fun x => f.Passes T x) =
      (l.filter fun x => x.tenantId = T).filter fun x => f.Passes T x := by
    rw [List.filter_filter]
    refine List.filter_congr fun x _ => ?_
    by_cases hx : x.tenantId = T
    · simp [hx]
    · simp [hx, TupleFilter.Passes]
  unfold listPage
  rw [hpassing S.rows, hpassing S'.rows, filter_own ht h.rows]

end states

/-! ## The reads -/

section reads

variable {S S' : TenantState} {env : ReadEnv} {t : String} {ctx : RequestContext}

/-- A read that begins with the checks of a reader of the tenant. -/
theorem checkReader_eq {T' : String} (hctx : ctx.tenant = some T) (h : checkReader ctx = .ok T') :
    T' = T := by
  unfold checkReader at h
  obtain ⟨t, ht, h⟩ := except_bind_eq_ok.mp h
  obtain ⟨-, -, h⟩ := except_bind_eq_ok.mp h
  simp only [requireTenant, hctx] at ht
  exact (Except.ok.inj h).symm.trans (Except.ok.inj ht).symm

/-- Two answers that are given after the same checks. -/
theorem reader_congr {α : Type} (hctx : ctx.tenant = some T)
    {f g : String → Except ServiceError α} (h : f T = g T) :
    (checkReader ctx >>= f) = checkReader ctx >>= g := by
  rcases hr : checkReader ctx with e | T'
  · rfl
  · obtain rfl := checkReader_eq hctx hr
    exact h

/-- Two answers that are given for the same options. -/
theorem options_congr {α : Type} {opts : OptionsRequest}
    {f g : QueryOptions → Except ServiceError α} (h : ∀ o, queryOptionsFrom opts = .ok o → f o = g o) :
    (queryOptionsFrom opts >>= f) = queryOptionsFrom opts >>= g := by
  rcases ho : queryOptionsFrom opts with e | o
  · rfl
  · exact h o ho

/-- A listing of objects that is refused before it reaches Keto, or that is confined. -/
theorem expandObjects_congr (env : ReadEnv) (h : AgreeExcept t S S') (ht : t ≠ T) {opts : QueryOptions}
    (n r : String) (q : ExpandObjectsQuery)
    (hq : opts.isDefault = true → (Keto.objectsQuery n r q).Confined T) :
    Keto.expandObjects env (ketoState S.written) n r q opts =
      Keto.expandObjects env (ketoState S'.written) n r q opts := by
  unfold Keto.expandObjects
  by_cases hdefault : opts.isDefault = true
  · rw [list_congr (hq hdefault) h ht]
  · simp only [rejectUnsupportedOpts, hdefault]
    rfl

/-- **A confined read** is answered alike. -/
theorem serveRead_congr (hT : ':' ∉ T.toList) (h : AgreeExcept t S S') (ht : t ≠ T)
    {q : PermissionRead} (hq : q.tenant? = some T) (hconfined : q.Confined T) :
    serveRead env S.world q = serveRead env S'.world q := by
  cases q with
  | check ctx n o r i opts =>
      refine reader_congr hq (options_congr fun opts _ => ?_)
      simp only [TenantState.world, check_congr hT h ht]
  | expand ctx n o r opts =>
      refine reader_congr hq (options_congr fun opts _ => ?_)
      simp only [TenantState.world, expand_congr hT h ht]
  | expandObjects ctx n r i sn so sr opts =>
      rcases hreader : checkReader ctx with e | T'
      · simp only [serveRead, expandObjects, hreader]
        rfl
      · refine reader_congr hq (options_congr fun o ho => ?_)
        have hsame := expandObjects_congr env h ht n r (objectsFilter i sn so sr)
          fun hdefault => hconfined ⟨⟨T', hreader⟩, o, ho, hdefault⟩
        simp only [TenantState.world, hsame]
  | list ctx n o r size token =>
      refine reader_congr hq ?_
      simp only [TenantState.world, readPage, listPage_congr h ht]
  | listUsers ctx n o r opts => rfl
  | readTuples t' n o =>
      obtain rfl : t' = T := Option.some.inj hq
      simp only [serveRead, TenantState.world, readTuples_congr hT h ht]

/-! ### What a listing shows -/

theorem sanitizeItems_eq (env : ReadEnv) (T : String) (items : List Value) :
    sanitizeItems env T items = items.map (sanitizeExpandTree env T) := by
  induction items with
  | nil => rfl
  | cons v items ih => simp [sanitizeItems, ih]

/-- The object of a listed tuple, as it is shown. -/
theorem object_sanitized (env : ReadEnv) (T : String) (x : KetoTuple) :
    ((sanitizeExpandTree env T x.toJson).get "object").bind Value.asStr =
      some ((stripTenantObjectPrefix T x.object).getD x.object) := by
  simp [KetoTuple.toJson, sanitizeExpandTree, sanitizeFields, sanitizeObjectValue, Value.get,
    Value.asStr, List.lookup_cons]

/-- The objects of a listing are those of the tuples on its page. -/
theorem objectsOfListing_page (env : ReadEnv) (T : String) (page : List KetoTuple) (token : String) :
    objectsOfListing (sanitizeExpandTree env T (.obj [("relation_tuples",
      .arr (page.map KetoTuple.toJson)), ("next_page_token", .str token)])) =
      page.map fun x => (stripTenantObjectPrefix T x.object).getD x.object := by
  have hitems : ((sanitizeExpandTree env T (.obj [("relation_tuples",
      .arr (page.map KetoTuple.toJson)), ("next_page_token", .str token)])).get
        "relation_tuples").bind Value.asArray =
      some ((page.map KetoTuple.toJson).map (sanitizeExpandTree env T)) := by
    simp [sanitizeExpandTree, sanitizeFields, sanitizeItems_eq, Value.get, Value.asArray]
  have hobjects : (fun entry : Value => (entry.get "object").bind Value.asStr) ∘
      sanitizeExpandTree env T ∘ KetoTuple.toJson =
      some ∘ fun x => (stripTenantObjectPrefix T x.object).getD x.object :=
    funext fun x => object_sanitized env T x
  unfold objectsOfListing
  rw [hitems, Option.getD_some, List.map_map, List.filterMap_map, hobjects, List.filterMap_eq_map]

/-- An environment in which nothing fails. -/
def smoothReads : ReadEnv :=
  ⟨.traversing 1 1 (by decide), fun _ _ _ => none, id, some, none⟩

/-- A listing that reaches Keto shows the objects of a page. -/
theorem expandObjects_shows {opts : OptionsRequest} {o : QueryOptions} {q : ExpandObjectsQuery}
    {n r : String} {subject : Option KetoSubject} (hreader : checkReader ctx = .ok T)
    (hopts : queryOptionsFrom opts = .ok o) (hdefault : o.isDefault = true)
    (hsubject : (Keto.objectsQuery n r q).subject = .ok subject) (w : ReadWorld) :
    ∃ tree, expandObjects smoothReads w ctx n r q opts = .ok (.objects
      (((ketoFound w.keto (Keto.objectsQuery n r q) subject).take 1).map fun x =>
        (stripTenantObjectPrefix T x.object).getD x.object) tree) := by
  have hanswer : expandObjects smoothReads w ctx n r q opts = .ok (objectsAnswer smoothReads T
      (.obj [("relation_tuples", .arr (((ketoFound w.keto (Keto.objectsQuery n r q) subject).take
        1).map KetoTuple.toJson)), ("next_page_token", .str (smoothReads.engine.token
          (ketoFound w.keto (Keto.objectsQuery n r q) subject)))])) := by
    have haccepted : rejectUnsupportedOpts o = .ok () := if_pos hdefault
    unfold expandObjects
    rw [hreader, hopts]
    show (fromBackend (Keto.expandObjects smoothReads w.keto n r q o) >>= _) = _
    unfold Keto.expandObjects
    rw [haccepted, KetoEngine.list, hsubject]
    rfl
  rw [hanswer, objectsAnswer, objectsOfListing_page]
  exact ⟨_, rfl⟩

/-- **A listing that is not confined** shows what another tenant's tuples are about. -/
theorem confined_of_isolated {q : PermissionRead} (hq : q.tenant? = some T)
    (h : ∀ env t S S', t ≠ T → ':' ∉ t.toList → AgreeExcept t S S' →
      serveRead env S.world q = serveRead env S'.world q) : q.Confined T := by
  cases q with
  | expandObjects ctx n r i sn so sr opts =>
      rintro ⟨⟨T', hreader⟩, o, hopts, hdefault⟩ subject hsubject t hne ht key hmatch
      obtain rfl := checkReader_eq hq hreader
      have hagree : AgreeExcept t ⟨[], [], by simp⟩ ⟨[⟨t, key⟩], [], by simpa using ht⟩ :=
        ⟨by simp, rfl⟩
      have hsame := h smoothReads t _ _ hne ht hagree
      obtain ⟨tree, hnothing⟩ := expandObjects_shows hreader hopts hdefault hsubject
        (TenantState.world ⟨[], [], by simp⟩)
      obtain ⟨tree', hsomething⟩ := expandObjects_shows hreader hopts hdefault hsubject
        (TenantState.world ⟨[⟨t, key⟩], [], by simpa using ht⟩)
      simp only [serveRead] at hsame
      rw [hnothing, hsomething] at hsame
      simp [TenantState.world, ketoState, ketoFound, hmatch] at hsame
  | check ctx n o r i opts => trivial
  | expand ctx n o r opts => trivial
  | list ctx n o r size token => trivial
  | listUsers ctx n o r opts => trivial
  | readTuples t' n o => trivial

/-- **Reads stay inside their tenant** if and only if they are confined. -/
theorem reads_confined (hT : ':' ∉ T.toList) {q : PermissionRead} (hq : q.tenant? = some T) :
    (∀ env t S S', t ≠ T → ':' ∉ t.toList → AgreeExcept t S S' →
      serveRead env S.world q = serveRead env S'.world q) ↔ q.Confined T := by
  constructor
  · intro h
    exact confined_of_isolated hq h
  · intro hconfined env t S S' hne _ hagree
    exact serveRead_congr hT hagree hne hq hconfined

end reads

/-- A reader of the tenant. -/
def acmeReader : RequestContext := ⟨some "acme", some ⟨"acme", "alice", .user, ["permission:read"]⟩⟩

/-- No options. -/
def noOptions : OptionsRequest := ⟨none, [], ""⟩

theorem reads_confined_check : (∀ env t S S', t ≠ "acme" → ':' ∉ t.toList → AgreeExcept t S S' →
      serveRead env S.world (.check acmeReader "docs" "readme" "viewer" "alice" noOptions) =
        serveRead env S'.world (.check acmeReader "docs" "readme" "viewer" "alice" noOptions)) ↔
    PermissionRead.Confined "acme" (.check acmeReader "docs" "readme" "viewer" "alice" noOptions) :=
  reads_confined (by decide) rfl

/-- The only tuple was written for another tenant. -/
def rivalState : TenantState :=
  ⟨[⟨"rival", ⟨"docs", "merger-plan", "viewer", "alice"⟩⟩], [], by simp⟩

/-- A listing of objects shows another tenant's. -/
theorem objects_leak :
    AgreeExcept "rival" ⟨[], [], by simp⟩ rivalState ∧
    (∃ tree, serveRead smoothReads (TenantState.world ⟨[], [], by simp⟩)
      (.expandObjects acmeReader "docs" "viewer" "alice" "" "" "" noOptions) =
        .ok (.objects [] tree)) ∧
    ∃ tree, serveRead smoothReads rivalState.world
      (.expandObjects acmeReader "docs" "viewer" "alice" "" "" "" noOptions) =
        .ok (.objects ["rival:merger-plan"] tree) :=
  ⟨⟨by decide, rfl⟩, ⟨_, rfl⟩, ⟨_, rfl⟩⟩

end SsoGateway
