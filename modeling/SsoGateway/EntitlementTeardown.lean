import SsoGateway.EnsureTuples
import SsoGateway.EntitlementBackends

/-!
# Taking entitlements away

When an application is retired its tuples are deleted, and when an identity is disabled its tuples on the
applications are. On OpenFGA both go out as one request, and a request may have a hundred keys.

* `limitedStores` — the stores, with the limit of OpenFGA on the size of a request.
* `FgaUser`, `UserListing`, `OpenFga.listUsers` — the listing of the users of an object.
* `teardownCalls` — the calls of the entitlement service as OpenFGA carries them out.
* `removeAllForIdentity` — the second of the two methods.
* `deleted_ok` — when a batch of deletes succeeds, and what it leaves.
* `teardown_complete_iff` — when the two methods leave nothing behind.

Source: `services/entitlement.rs` `remove_application`, `remove_all_for_identity`; `services/permission.rs`
`OpenFgaPermissionBackend`; `sso-openfga-client` `write_tuples`, `list_users`, `canonical_user`.
-/

namespace SsoGateway

open Lib

/-! ## The limit -/

/-- The call has no more keys than OpenFGA takes. -/
def PermissionCall.Within : PermissionCall → Prop
  | .writeTuples _ _ writes deletes => writes.length ≤ fgaBatchLimit ∧ deletes.length ≤ fgaBatchLimit
  | _ => True

/-- The stores, when a request of OpenFGA is limited. -/
def limitedStores : Handler PermissionStoreSig PermissionChoice PermissionWorld
  | .writeTuples s m writes deletes, c, w =>
      if writes.length ≤ fgaBatchLimit ∧ deletes.length ≤ fgaBatchLimit then
        permissionStores (.writeTuples s m writes deletes) c w
      else Fault.answer .ofFault w (.error (.openFga 400 "exceeded entity limit"), w) c.fault
  | op, c, w => permissionStores op c w

theorem limitedStores_eq {op : PermissionCall} (hop : op.Within) (c : PermissionChoice)
    (w : PermissionWorld) : permissionStores op c w = limitedStores op c w := by
  cases op with
  | writeTuples s m writes deletes => simp [limitedStores, show _ ∧ _ from hop]
  | _ => rfl

/-- Programs whose requests are small do what they do without the limit. -/
theorem sat_limited {α : Type} {p : Prog PermissionStoreSig α} (hp : p.Calls PermissionCall.Within)
    {K : Contract PermissionStoreSig PermissionChoice (PermissionWorld × PermissionTrace)}
    {Q : α → PermissionWorld × PermissionTrace → Prop} {s : PermissionWorld × PermissionTrace}
    (hsat : p.Sat permissionStores.traced K Q s) : p.Sat limitedStores.traced K Q s := by
  refine Prog.sat_of_agree hp (fun op hop c s => ?_) hsat
  simp only [Handler.traced, limitedStores_eq hop]

/-! ## Deleting tuples -/

section deletes

variable {t : String} {w : PermissionWorld} {ds : List RelationTupleKey}

theorem within_resolveAll (t : String) (keys : List RelationTupleKey)
    (records : List (String × NamespaceRow)) :
    (keys.foldlM (OpenFga.resolveInto t) records).run.Calls PermissionCall.Within := by
  induction keys generalizing records with
  | nil => exact Prog.calls_pure
  | cons key keys ih =>
      rw [List.foldlM_cons]
      refine Prog.calls_run_bind ?_ ih
      unfold OpenFga.resolveInto
      split
      · exact Prog.calls_pure
      · refine Prog.calls_run_bind (Prog.calls_run_bind ?_ fun record => Prog.calls_pure) fun record =>
          Prog.calls_pure
        exact Prog.calls_run_orThrow (Prog.calls_perform trivial)

theorem within_keysWhere (records : List (String × NamespaceRow)) (present : Bool)
    (keys : List RelationTupleKey) :
    (OpenFga.keysWhere records present keys).run.Calls PermissionCall.Within := by
  induction keys with
  | nil => exact Prog.calls_pure
  | cons key keys ih =>
      refine Prog.calls_run_bind (Prog.calls_run_orThrow (Prog.calls_perform trivial)) fun existing => ?_
      exact Prog.calls_run_bind ih fun rest => Prog.calls_pure

/-- A small batch of deletes makes small requests. -/
theorem within_writeTuples (order : List String → List String)
    (hfew : ds.length ≤ fgaBatchLimit) :
    (OpenFga.writeTuples order t [] ds).run.Calls PermissionCall.Within := by
  refine Prog.calls_run_bind (within_resolveAll t _ []) fun records => Prog.calls_run_forM fun s _ => ?_
  refine Prog.calls_run_orThrow (Prog.calls_perform ⟨Nat.zero_le _, ?_⟩)
  unfold OpenFga.keysOf
  rw [List.length_map]
  exact (List.length_filter_le _ _).trans hfew

/-- A large batch of deletes on one namespace is one large request. -/
theorem sat_tooMany {order : List String → List String} (horder : ∀ l, (order l).Perm l) {n : String}
    (hone : ∀ k ∈ ds, k.nspace = n) (hmany : ¬ ds.length ≤ fgaBatchLimit) {tr : PermissionTrace}
    (htr : requestsSent tr = []) :
    (OpenFga.writeTuples order t [] ds).run.Sat limitedStores.traced (failingAs PermissionChoice.Calm)
      (fun r _ => r ≠ .ok ()) (w, tr) := by
  have hnone : AllResolved t w.registry ds [] [] := ⟨by simp, by simp⟩
  have hstart : Unsent w (w, tr) := ⟨rfl, htr⟩
  refine Prog.sat_run_bind.mpr ((sat_limited (within_resolveAll t ds [])
    (sat_resolveAll ds (List.Subset.refl _) hnone hstart)).post fun r s _ => ?_)
  rcases r with e | records
  · intro h
    cases h
  -- all keys are of one store
  obtain ⟨store, hstore⟩ : ∃ store, ∀ k ∈ ds, OpenFga.storeOfKey records k = store := by
    refine ⟨((records.lookup n).map OpenFga.storeOf).getD "", fun k hk => ?_⟩
    rw [OpenFga.storeOfKey, hone k hk]
  have hlength : ds.length ≠ 0 := by
    intro h
    simp [h] at hmany
  have hstores : (ds.map (OpenFga.storeOfKey records)).dedup = [store] := by
    rw [List.map_eq_replicate_iff.mpr hstore]
    exact List.replicate_dedup hlength
  have horder' : order [store] = [store] := List.perm_singleton.mp (horder [store])
  have hkeys : (OpenFga.keysOf records store ds).length = ds.length := by
    unfold OpenFga.keysOf
    rw [List.length_map, List.filter_eq_self.mpr fun k hk => by simpa using hstore k hk]
  show ((order (ds.map (OpenFga.storeOfKey records)).dedup).forM
    (writePart (OpenFga.modelOfStore records) (fun s => OpenFga.keysOf records s [])
      fun s => OpenFga.keysOf records s ds)).run.Sat _ _ _ s
  rw [hstores, horder']
  refine Prog.sat_run_bind.mpr (Prog.sat_run_orThrow.mpr ?_)
  rintro _ rfl c hc
  refine ⟨trivial, ?_⟩
  have hbig : ¬ ((OpenFga.keysOf records store []).length ≤ fgaBatchLimit ∧
      (OpenFga.keysOf records store ds).length ≤ fgaBatchLimit) := by
    rw [hkeys]
    exact fun h => hmany h.2
  simp only [Handler.traced, limitedStores, if_neg hbig, show c.fault = none from hc, Fault.answer]
  intro h
  cases h

/-- The deletes go out in one piece, if they are not too many. -/
theorem sat_deleteTuples {order : List String → List String} (horder : ∀ l, (order l).Perm l)
    {n : String} (hone : ∀ k ∈ ds, k.nspace = n) :
    (OpenFga.ensureTuples order t [] ds).run.Sat limitedStores.traced (failingAs PermissionChoice.Calm)
      (fun r s => (r = .ok () ↔ Unrepeated t w [] ds ∧ (presentKeys t w ds).length ≤ fgaBatchLimit) ∧
        (r = .ok () → s.1 = batched order t w [] (presentKeys t w ds))) (w, []) := by
  have hnone : AllResolved t w.registry ds [] [] := ⟨by simp, by simp⟩
  have hstart : Unsent w (w, []) := ⟨rfl, rfl⟩
  have hatomic : ∀ c : PermissionChoice, c.Calm → c.Atomic := by
    intro c hc f hf
    simp [show c.fault = none from hc] at hf
  refine Prog.sat_run_bind.mpr ((sat_limited (within_resolveAll t ds [])
    (sat_resolveAll ds (List.Subset.refl _) hnone hstart)).post fun r s h => ?_)
  obtain ⟨hs, hrecords, hfails⟩ := h
  rcases r with e | records
  · refine ⟨iff_of_false (fun h => by cases h) fun hclean => ?_, fun h => by cases h⟩
    rcases hfails e rfl with hmay | ⟨k, hk, hno⟩
    · exact not_mayFail hmay
    · exact hno (hclean.1.ready k hk).1
  obtain ⟨keys, hkeys, -, hall⟩ := hrecords records rfl
  have hresolved : AllResolved t w.registry ds ds records :=
    ⟨hall.ofKeys, fun k hk => hall.found k (hkeys hk)⟩
  -- there is nothing to write
  show (OpenFga.keysWhere records true ds >>= OpenFga.writeTuples order t []).run.Sat _ _ _ s
  refine Prog.sat_run_bind.mpr ((sat_limited (within_keysWhere records true ds)
    (sat_keysWhere hresolved true ds (List.Subset.refl _) hs)).post fun r s₁ h => ?_)
  obtain ⟨⟨hworld, hunsent⟩, hok, herr⟩ := h
  rcases r with e | present
  · refine ⟨iff_of_false (fun h => by cases h) fun hclean => ?_, fun h => by cases h⟩
    obtain ⟨k, hk, hno⟩ := herr e rfl
    exact hno (hclean.1.ready k hk)
  obtain ⟨hready, rfl⟩ := hok present rfl
  have hpresent : (ds.filter fun k => IsThere t w k ↔ true = true) = presentKeys t w ds := by
    simp [presentKeys]
  obtain ⟨w₁, tr₁⟩ := s₁
  obtain rfl : w₁ = w := hworld
  rw [hpresent]
  by_cases hfew : (presentKeys t w₁ ds).length ≤ fgaBatchLimit
  · have hdifference : Writable order t w₁ (missingKeys t w₁ []) (presentKeys t w₁ ds) ↔
        ((missingKeys t w₁ []).map (placed t w₁.registry)).Nodup ∧
          ((presentKeys t w₁ ds).map (placed t w₁.registry)).Nodup := writable_difference horder hready
    have hsend : (OpenFga.writeTuples order t [] (presentKeys t w₁ ds)).run.Sat permissionStores.traced
        (failingAs PermissionChoice.Calm) _ (w₁, tr₁) := sat_batchWrite hatomic horder hunsent
    refine (sat_limited (within_writeTuples order hfew) hsend).post fun r s₂ h => ?_
    obtain ⟨⟨model, sent, hbatch, -⟩, hok, herr⟩ := h
    refine ⟨⟨fun h => ⟨?_, hfew⟩, fun hclean => ?_⟩, fun h => (hbatch.all h).2⟩
    · obtain ⟨hnodup, hnodup'⟩ := hdifference.mp (hok h)
      exact ⟨hready, hnodup, hnodup'⟩
    · rcases r with e | u
      · rcases herr e rfl with hmay | hno
        · exact absurd hmay not_mayFail
        · exact absurd (hdifference.mpr ⟨hclean.1.writes, hclean.1.deletes⟩) hno
      · rfl
  · refine (sat_tooMany horder (fun k hk => hone k (mem_presentKeys.mp hk).1) hfew hunsent).post ?_
    intro r s₂ hr
    exact ⟨iff_of_false hr fun h => hfew h.2, fun h => absurd h hr⟩

/-- What a batch of deletes on one namespace leaves, as long as nothing fails. -/
theorem deleted_ok {order : List String → List String} (horder : ∀ l, (order l).Perm l) {n : String}
    (hone : ∀ k ∈ ds, k.nspace = n) {o : ℕ → PermissionChoice} (hcalm : ∀ m, (o m).Calm) :
    let r := (OpenFga.ensureTuples order t [] ds).run.run limitedStores o w
    (r.1 = .ok () ↔ Unrepeated t w [] ds ∧ (presentKeys t w ds).length ≤ fgaBatchLimit) ∧
      (r.1 = .ok () → ∀ s x, x ∈ tuplesIn r.2 s ↔
        x ∈ tuplesIn w s ∧ (s, x) ∉ ds.map (placed t w.registry)) := by
  have hsat : (OpenFga.ensureTuples order t [] ds).run.Sat limitedStores.traced
      (failingAs PermissionChoice.Calm) _ (w, []) := sat_deleteTuples horder hone
  have hend := hsat.run_of_choices (o := o) fun _ m _ => hcalm m
  rw [Prog.run_traced] at hend
  refine ⟨hend.1, fun hok s x => ?_⟩
  rw [show ((OpenFga.ensureTuples order t [] ds).run.run limitedStores o w).2 = _ from hend.2 hok,
    mem_tuplesIn_batched horder (by simp), mem_placed_present]
  by_cases hx : x ∈ tuplesIn w s
  · simp [hx]
  · simp [hx]

end deletes

/-! ## The calls of the service -/

/-- A user of an object, as OpenFGA lists it. -/
inductive FgaUser where
  | object (type id : String)
  | userset (type id relation : String)
  | wildcard (type : String)
deriving DecidableEq, Repr

/-- Source: `canonical_user`. -/
def canonicalUser : FgaUser → String
  | .object type id => type ++ ":" ++ id
  | .userset type id relation => type ++ ":" ++ id ++ "#" ++ relation
  | .wildcard type => type ++ ":*"

/-- A listed user is written to OpenFGA as it was read. -/
@[simp] theorem typedUser_canonicalUser (u : FgaUser) : typedUser (canonicalUser u) = canonicalUser u := by
  have hcolon : ':' ∈ (canonicalUser u).toList := by
    cases u <;> simp [canonicalUser]
  simp [typedUser, hcolon]

/-- The evaluation of ListUsers: of a store, under a model, for the type and the id of an object, a relation
and filters. -/
abbrev UserListing :=
  FgaStore → String → String → String → String → List String → Except OpenFgaClientError (List FgaUser)

/-- Source: `OpenFgaClient::list_users`, without filters. -/
def OpenFga.clientListUsers (listing : UserListing) (w : PermissionWorld)
    (storeId modelId nspace object relation : String) : Except OpenFgaClientError (List String) :=
  match w.findStore storeId with
  | none => .error (.openFga 404 "store not found")
  | some st => (listing st modelId nspace object relation []).map fun users => users.map canonicalUser

/-- Source: `OpenFgaPermissionBackend::list_users`, without filters. -/
def OpenFga.listUsers (listing : UserListing) (w : PermissionWorld)
    (tenantId nspace object relation : String) : Except BackendError (List String) := do
  let record ← OpenFga.usable tenantId nspace (w.registry.getByType tenantId nspace)
  (OpenFga.clientListUsers listing w (OpenFga.storeOf record) (record.modelId.getD "") nspace object
    relation).mapError BackendError.ofOpenFgaClientError

/-- A backend error, as the service sees it. -/
def PermissionBackendError.ofBackendError (e : BackendError) : PermissionBackendError := ⟨e.toText⟩

/-- The calls of the entitlement service as OpenFGA carries them out; of those that are not made here, any
account will do. A batch makes several calls to the stores, each with its own choice. -/
def teardownCalls (listing : UserListing) (order : List String → List String)
    (rest : Handler PermissionSig (ℕ → PermissionChoice) PermissionWorld) :
    Handler PermissionSig (ℕ → PermissionChoice) PermissionWorld
  | .ensureTuples t writes deletes, o, w =>
      let r := (OpenFga.ensureTuples order t writes deletes).run.run limitedStores o w
      (r.1.mapError PermissionBackendError.ofBackendError, r.2)
  | .listUsers t n object relation, _, w =>
      ((OpenFga.listUsers listing w t n object relation).mapError PermissionBackendError.ofBackendError, w)
  | op, o, w => rest op o w

/-- Source: `PgApplicationStore::list_by_tenant`. -/
def Db.listByTenant (db : Db) (tenantId : String) : List ApplicationRow :=
  (db.applications.filter fun a => a.tenantId = tenantId).insertionSort fun a b =>
    a.publicId ≤ b.publicId

namespace EntitlementServiceImpl

/-- Source: `remove_all_for_identity`, for the answer of the database. -/
def removeAllForIdentity (tenantId identityId : String) (listed : Except DbError (List ApplicationRow)) :
    Method Unit := do
  let apps ← ExceptT.mk (Pure.pure (listed.mapError fun e => ServiceError.database e.toText))
  let deletes := apps.flatMap fun app =>
    [entitlementKey app.publicId memberRel identityId, entitlementKey app.publicId adminRel identityId]
  if deletes ≠ [] then
    ensureTuples tenantId [] deletes

end EntitlementServiceImpl

/-! ## What is to be deleted -/

/-- The store of the tenant's entitlements. -/
def entitlementStore (t : String) (w : PermissionWorld) : String :=
  storeFor t w.registry (entitlementKey "" "" "")

/-- The entitlements of the tenant can be read and written. -/
def EntitlementsReady (t : String) (w : PermissionWorld) : Prop := Ready t w (entitlementKey "" "" "")

/-- An application or a group, as OpenFGA names it. -/
def entitlementObject (o : String) : String := entitlementNamespace ++ ":" ++ o

/-- The two relations of an application. -/
def IsLevel (relation : String) : Prop := relation = memberRel ∨ relation = adminRel

instance : DecidablePred IsLevel := fun r => inferInstanceAs (Decidable (r = memberRel ∨ r = adminRel))

/-- Both relations of each object, for each user. -/
def levelKeys (objects users : List String) : List RelationTupleKey :=
  objects.flatMap fun o => users.flatMap fun u => [entitlementKey o memberRel u, entitlementKey o adminRel u]

/-- How many of the tenant's entitlements satisfy `p`. -/
def held (t : String) (w : PermissionWorld) (p : FgaTuple → Bool) : ℕ :=
  ((tuplesIn w (entitlementStore t w)).dedup.filter p).length

section batch

variable {t : String} {w : PermissionWorld} {ds : List RelationTupleKey}

theorem mem_placed_entitlements (hone : ∀ k ∈ ds, k.nspace = entitlementNamespace) {x : FgaTuple} :
    (entitlementStore t w, x) ∈ ds.map (placed t w.registry) ↔ x ∈ ds.map clientTupleKey := by
  have hstore : ∀ k ∈ ds, storeFor t w.registry k = entitlementStore t w := by
    intro k hk
    unfold storeFor entitlementStore
    rw [hone k hk]
    rfl
  rw [mem_placed]
  unfold groupOf
  rw [List.filter_eq_self.mpr fun k hk => by simpa using hstore k hk]

/-- The deletes that find their tuple are as many as the tuples they find. -/
theorem length_presentKeys (hone : ∀ k ∈ ds, k.nspace = entitlementNamespace)
    (hnodup : (ds.map clientTupleKey).Nodup) {p : FgaTuple → Bool}
    (hp : ∀ x, p x = true ↔ x ∈ ds.map clientTupleKey) : (presentKeys t w ds).length = held t w p := by
  unfold held
  rw [← List.length_map clientTupleKey]
  refine List.Perm.length_eq ((List.perm_ext_iff_of_nodup ?_ ?_).mpr fun x => ?_)
  · exact (List.filter_sublist.map clientTupleKey).nodup hnodup
  · exact (List.nodup_dedup _).filter _
  · rw [List.mem_filter, List.mem_dedup, hp, ← mem_placed_entitlements (t := t) (w := w) hone, ← and_comm,
      ← mem_placed_present, mem_placed_entitlements fun k hk => hone k (mem_presentKeys.mp hk).1]

/-- When the deletes of a batch are done, and what they leave of the entitlements. -/
theorem deletes_done {order : List String → List String} (horder : ∀ l, (order l).Perm l)
    (hone : ∀ k ∈ ds, k.nspace = entitlementNamespace) (hnodup : (ds.map clientTupleKey).Nodup)
    {p : FgaTuple → Bool} (hp : ∀ x, p x = true ↔ x ∈ ds.map clientTupleKey)
    {o : ℕ → PermissionChoice} (hcalm : ∀ m, (o m).Calm) :
    let r := (OpenFga.ensureTuples order t [] ds).run.run limitedStores o w
    (r.1 = .ok () ↔ (ds = [] ∨ EntitlementsReady t w) ∧ held t w p ≤ fgaBatchLimit) ∧
      (r.1 = .ok () → ∀ x, x ∈ tuplesIn r.2 (entitlementStore t w) ↔
        x ∈ tuplesIn w (entitlementStore t w) ∧ p x = false) := by
  obtain ⟨hok, hleft⟩ := deleted_ok (t := t) (w := w) horder hone hcalm
  have hready : ∀ k ∈ ds, (Ready t w k ↔ EntitlementsReady t w) := by
    intro k hk
    unfold EntitlementsReady Ready storeFor
    rw [hone k hk]
    rfl
  have hclean : Unrepeated t w [] ds ↔ ds = [] ∨ EntitlementsReady t w := by
    constructor
    · intro h
      rcases List.eq_nil_or_concat ds with hnil | ⟨l, k, hds⟩
      · exact .inl hnil
      · have hk : k ∈ ds := by simp [hds]
        exact .inr ((hready k hk).mp (h.ready k hk))
    · intro h
      refine ⟨fun k hk => (hready k hk).mpr (h.resolve_left (List.ne_nil_of_mem hk)),
        by simp [missingKeys], ?_⟩
      -- tuples that differ are placed apart
      refine List.Nodup.of_map Prod.snd ?_
      rw [List.map_map]
      exact (List.filter_sublist.map clientTupleKey).nodup hnodup
  refine ⟨?_, fun hr x => ?_⟩
  · rw [hok, hclean, length_presentKeys hone hnodup hp]
  · rw [hleft hr, mem_placed_entitlements hone, ← hp, Bool.not_eq_true]

theorem mem_levelKeys {objects users : List String} {x : FgaTuple} :
    x ∈ (levelKeys objects users).map clientTupleKey ↔ (∃ o ∈ objects, x.object = entitlementObject o) ∧
      IsLevel x.relation ∧ ∃ u ∈ users, x.user = typedUser u := by
  obtain ⟨user, relation, object⟩ := x
  simp only [levelKeys, List.mem_map, List.mem_flatMap, List.mem_cons, List.not_mem_nil, or_false]
  constructor
  · rintro ⟨k, ⟨o, ho, u, hu, rfl | rfl⟩, hx⟩
    · obtain ⟨rfl, rfl, rfl⟩ := FgaTuple.mk.inj hx
      exact ⟨⟨o, ho, rfl⟩, .inl rfl, u, hu, rfl⟩
    · obtain ⟨rfl, rfl, rfl⟩ := FgaTuple.mk.inj hx
      exact ⟨⟨o, ho, rfl⟩, .inr rfl, u, hu, rfl⟩
  · rintro ⟨⟨o, ho, rfl⟩, rfl | rfl, u, hu, rfl⟩
    · exact ⟨_, ⟨o, ho, u, hu, .inl rfl⟩, rfl⟩
    · exact ⟨_, ⟨o, ho, u, hu, .inr rfl⟩, rfl⟩

end batch

/-! ## Both methods -/

/-- The application is gone: no user has a tuple on it. A subject set may have one. -/
structure ApplicationRemoved (t p : String) (w : PermissionWorld)
    (r : Except ServiceError Unit × PermissionWorld) : Prop where
  success : r.1 = .ok ()
  gone : ∀ x ∈ tuplesIn r.2 (entitlementStore t w), x.object = entitlementObject p → '#' ∈ x.user.toList

/-- The identity is gone: it has a level on no application. The other objects are the groups. -/
structure IdentityRemoved (groups : String → Prop) (t i : String) (w : PermissionWorld)
    (r : Except ServiceError Unit × PermissionWorld) : Prop where
  success : r.1 = .ok ()
  gone : ∀ x ∈ tuplesIn r.2 (entitlementStore t w), x.user = typedUser i → IsLevel x.relation →
    ∀ object, x.object = entitlementObject object → object ≠ gatewayAppObject ∧ groups object

/-- The users that are listed are those who have a tuple on the application, and they do not have too many. -/
structure ListedApplication (listing : UserListing) (t p : String) (w : PermissionWorld)
    (users admins : List String) : Prop where
  asMembers : OpenFga.listUsers listing w t entitlementNamespace p memberRel = .ok users
  asAdmins : OpenFga.listUsers listing w t entitlementNamespace p adminRel = .ok admins
  covered : ∀ x ∈ tuplesIn w (entitlementStore t w), x.object = entitlementObject p →
    '#' ∉ x.user.toList → IsLevel x.relation ∧ x.user ∈ users ++ admins
  few : held t w (fun x =>
      x.object = entitlementObject p ∧ IsLevel x.relation ∧ x.user ∈ users ++ admins) ≤ fgaBatchLimit

/-- The applications on which the identity has a level have a row, and there are not too many such levels. -/
structure RegisteredLevels (groups : String → Prop) (t i : String) (db : Db) (w : PermissionWorld) :
    Prop where
  ready : db.listByTenant t = [] ∨ EntitlementsReady t w
  covered : ∀ x ∈ tuplesIn w (entitlementStore t w), x.user = typedUser i → IsLevel x.relation →
    ∀ object, x.object = entitlementObject object → object = gatewayAppObject ∨ ¬ groups object →
      ∃ a ∈ db.listByTenant t, a.publicId = object
  few : held t w (fun x => x.user = typedUser i ∧ IsLevel x.relation ∧
    ∃ a ∈ db.listByTenant t, x.object = entitlementObject a.publicId) ≤ fgaBatchLimit

/-- Both methods leave nothing behind. -/
def TeardownComplete (listing : UserListing) (order : List String → List String)
    (rest : Handler PermissionSig (ℕ → PermissionChoice) PermissionWorld) (groups : String → Prop)
    (t p i : String) (db : Db) (o : ℕ → ℕ → PermissionChoice) (w : PermissionWorld) : Prop :=
  ApplicationRemoved t p w
      ((EntitlementServiceImpl.removeApplication t p).run.run (teardownCalls listing order rest) o w) ∧
    IdentityRemoved groups t i w
      ((EntitlementServiceImpl.removeAllForIdentity t i (.ok (db.listByTenant t))).run.run
        (teardownCalls listing order rest) o w)

section teardown

variable {listing : UserListing} {order : List String → List String}
  {rest : Handler PermissionSig (ℕ → PermissionChoice) PermissionWorld} {groups : String → Prop}
  {t p i : String} {db : Db} {o : ℕ → ℕ → PermissionChoice} {w : PermissionWorld}

theorem mapError_eq_ok {ε ε' α : Type} {f : ε → ε'} {r : Except ε α} {a : α} :
    r.mapError f = .ok a ↔ r = .ok a := by
  cases r with
  | error e => simp [Except.mapError]
  | ok b => simp [Except.mapError]

theorem entitlementObject_inj {object object' : String} :
    entitlementObject object = entitlementObject object' ↔ object = object' := by
  simp [entitlementObject]

/-- A listing answers with users as OpenFGA writes them, and only of a tenant that can be read. -/
theorem listUsers_ok {relation : String} {users : List String}
    (h : OpenFga.listUsers listing w t entitlementNamespace p relation = .ok users) :
    EntitlementsReady t w ∧ ∀ u ∈ users, typedUser u = u := by
  obtain ⟨record, hrecord, h⟩ := except_bind_eq_ok.mp h
  have hget := usable_eq_ok.mp hrecord
  have hstore : storeFor t w.registry (entitlementKey "" "" "") = OpenFga.storeOf record :=
    storeFor_of_getByType hget.1
  have hlisted := mapError_eq_ok.mp h
  unfold OpenFga.clientListUsers at hlisted
  rcases hfind : w.findStore (OpenFga.storeOf record) with _ | st
  · simp [hfind] at hlisted
  refine ⟨⟨⟨record, hget⟩, by rw [hstore, hfind]; rfl⟩, fun u hu => ?_⟩
  rw [hfind] at hlisted
  rcases hl : listing st (record.modelId.getD "") entitlementNamespace p relation [] with e | found
  · simp [hl, Except.map] at hlisted
  · obtain rfl : found.map canonicalUser = users := by simpa [hl, Except.map] using hlisted
    obtain ⟨user, -, rfl⟩ := List.mem_map.mp hu
    exact typedUser_canonicalUser user

/-- The deletes of an application are both relations for each of its users. -/
theorem removeApplication_deletes {users : List String} (husers : ∀ u ∈ users, typedUser u = u) :
    let ds := ((levelKeys [p] users).mergeSort EntitlementServiceImpl.keyLe).dedup
    (∀ k ∈ ds, k.nspace = entitlementNamespace) ∧ (ds.map clientTupleKey).Nodup ∧
      ∀ x, x ∈ ds.map clientTupleKey ↔
        x.object = entitlementObject p ∧ IsLevel x.relation ∧ x.user ∈ users := by
  intro ds
  have hmem : ∀ k, k ∈ ds ↔
      ∃ u ∈ users, k = entitlementKey p memberRel u ∨ k = entitlementKey p adminRel u := by
    intro k
    simp [ds, levelKeys]
  refine ⟨fun k hk => ?_, List.Nodup.map_on ?_ (List.nodup_dedup _), fun x => ?_⟩
  · obtain ⟨u, -, rfl | rfl⟩ := (hmem k).mp hk
    · rfl
    · rfl
  · -- a listed user is one key, whatever its relation
    have hkey : ∀ k ∈ ds,
        k = ⟨entitlementNamespace, p, (clientTupleKey k).relation, (clientTupleKey k).user⟩ := by
      intro k hk
      obtain ⟨u, hu, rfl | rfl⟩ := (hmem k).mp hk
      · simp [clientTupleKey, entitlementKey, husers u hu]
      · simp [clientTupleKey, entitlementKey, husers u hu]
    intro k hk k' hk' heq
    rw [hkey k hk, hkey k' hk', heq]
  · have hsame : x ∈ ds.map clientTupleKey ↔ x ∈ (levelKeys [p] users).map clientTupleKey := by
      simp [ds]
    rw [hsame, mem_levelKeys]
    constructor
    · rintro ⟨⟨object, hobject, hx⟩, hlevel, u, hu, hxu⟩
      rw [List.mem_singleton.mp hobject] at hx
      rw [husers u hu] at hxu
      exact ⟨hx, hlevel, hxu ▸ hu⟩
    · rintro ⟨hx, hlevel, hu⟩
      exact ⟨⟨p, List.mem_singleton_self p, hx⟩, hlevel, x.user, hu, (husers _ hu).symm⟩

/-- A batch of deletes, as the service makes it. -/
def serviceDeletes (order : List String → List String) (t : String) (ds : List RelationTupleKey)
    (o : ℕ → PermissionChoice) (w : PermissionWorld) : Except ServiceError Unit × PermissionWorld :=
  let r := (OpenFga.ensureTuples order t [] ds).run.run limitedStores o w
  ((r.1.mapError PermissionBackendError.ofBackendError).mapError mapBackendError, r.2)

theorem run_serviceDeletes (ds : List RelationTupleKey) :
    (EntitlementServiceImpl.ensureTuples t [] ds).run.run (teardownCalls listing order rest) o w =
      serviceDeletes order t ds (o 0) w := rfl

theorem serviceDeletes_ok {ds : List RelationTupleKey} {o : ℕ → PermissionChoice} :
    (serviceDeletes order t ds o w).1 = .ok () ↔
      ((OpenFga.ensureTuples order t [] ds).run.run limitedStores o w).1 = .ok () := by
  unfold serviceDeletes
  dsimp only
  rw [mapError_eq_ok, mapError_eq_ok]

/-- The run of a removal whose listings succeed. -/
theorem removeApplication_run {users admins : List String}
    (hm : OpenFga.listUsers listing w t entitlementNamespace p memberRel = .ok users)
    (ha : OpenFga.listUsers listing w t entitlementNamespace p adminRel = .ok admins) :
    (EntitlementServiceImpl.removeApplication t p).run.run (teardownCalls listing order rest) o w =
      serviceDeletes order t ((levelKeys [p] (users ++ admins)).mergeSort
        EntitlementServiceImpl.keyLe).dedup (o 2) w := by
  have hkeys : levelKeys [p] (users ++ admins) = (users ++ admins).flatMap fun subject =>
      [entitlementKey p memberRel subject, entitlementKey p adminRel subject] := by
    simp [levelKeys]
  rw [hkeys]
  unfold EntitlementServiceImpl.removeApplication
  show Prog.run _ (Prog.call _ _) _ _ = _
  simp only [Prog.run, teardownCalls, hm]
  show Prog.run _ (Prog.call _ _) _ _ = _
  simp only [Prog.run, teardownCalls, ha]
  rfl

/-- **The teardown of an application.** -/
theorem applicationRemoved_iff (horder : ∀ l, (order l).Perm l) (hcalm : ∀ n m, (o n m).Calm) :
    ApplicationRemoved t p w
        ((EntitlementServiceImpl.removeApplication t p).run.run (teardownCalls listing order rest) o w) ↔
      ∃ users admins, ListedApplication listing t p w users admins := by
  rcases hm : OpenFga.listUsers listing w t entitlementNamespace p memberRel with e | users
  · refine iff_of_false (fun h => ?_) ?_
    · have hok := h.success
      unfold EntitlementServiceImpl.removeApplication at hok
      change (Prog.run _ (Prog.call _ _) _ _).1 = _ at hok
      simp only [Prog.run, teardownCalls, hm] at hok
      cases hok
    · rintro ⟨users, admins, h⟩
      rw [h.asMembers] at hm
      cases hm
  rcases ha : OpenFga.listUsers listing w t entitlementNamespace p adminRel with e | admins
  · refine iff_of_false (fun h => ?_) ?_
    · have hok := h.success
      unfold EntitlementServiceImpl.removeApplication at hok
      change (Prog.run _ (Prog.call _ _) _ _).1 = _ at hok
      simp only [Prog.run, teardownCalls, hm] at hok
      change (Prog.run _ (Prog.call _ _) _ _).1 = _ at hok
      simp only [Prog.run, teardownCalls, ha] at hok
      cases hok
    · rintro ⟨users, admins, h⟩
      rw [h.asAdmins] at ha
      cases ha
  have husers : ∀ u ∈ users ++ admins, typedUser u = u := fun u hu =>
    (List.mem_append.mp hu).elim ((listUsers_ok hm).2 u) ((listUsers_ok ha).2 u)
  obtain ⟨hone, hnodup, hmem⟩ := removeApplication_deletes (p := p) husers
  rw [removeApplication_run hm ha]
  obtain ⟨hok, hleft⟩ := deletes_done (t := t) (w := w) (o := o 2) horder hone hnodup
    (p := fun x => x.object = entitlementObject p ∧ IsLevel x.relation ∧ x.user ∈ users ++ admins)
    (fun x => by rw [hmem, decide_eq_true_iff]) (hcalm 2)
  constructor
  · rintro ⟨hsuccess, hgone⟩
    have hsuccess' := serviceDeletes_ok.mp hsuccess
    refine ⟨users, admins, hm, ha, fun x hx hobject hdirect => ?_, (hok.mp hsuccess').2⟩
    by_contra hno
    refine hdirect (hgone x ((hleft hsuccess' x).mpr ⟨hx, ?_⟩) hobject)
    simp only [decide_eq_false_iff_not]
    exact fun h => hno h.2
  · rintro ⟨users', admins', h⟩
    obtain rfl : users = users' := Except.ok.inj (hm.symm.trans h.asMembers)
    obtain rfl : admins = admins' := Except.ok.inj (ha.symm.trans h.asAdmins)
    have hsuccess := hok.mpr ⟨.inr (listUsers_ok hm).1, h.few⟩
    refine ⟨serviceDeletes_ok.mpr hsuccess, fun x hx hobject => ?_⟩
    obtain ⟨hx, hkept⟩ := (hleft hsuccess x).mp hx
    by_contra hdirect
    simp only [decide_eq_false_iff_not] at hkept
    exact hkept ⟨hobject, h.covered x hx hobject hdirect⟩

theorem listByTenant_nodup (db : Db) (t : String) : ((db.listByTenant t).map (·.publicId)).Nodup := by
  unfold Db.listByTenant
  refine ((List.perm_insertionSort _ _).map _).nodup_iff.mpr ?_
  exact List.pairwise_map.mpr (db.applicationKey.filter _)

/-- The deletes of an identity are both relations for each of the applications. -/
theorem removeAllForIdentity_deletes {objects : List String} (hobjects : objects.Nodup) (i : String) :
    (∀ k ∈ levelKeys objects [i], k.nspace = entitlementNamespace) ∧
      ((levelKeys objects [i]).map clientTupleKey).Nodup ∧
      ∀ x, x ∈ (levelKeys objects [i]).map clientTupleKey ↔ x.user = typedUser i ∧ IsLevel x.relation ∧
        ∃ object ∈ objects, x.object = entitlementObject object := by
  refine ⟨fun k hk => ?_, ?_, fun x => ?_⟩
  · simp only [levelKeys, List.mem_flatMap, List.mem_cons, List.not_mem_nil, or_false] at hk
    obtain ⟨object, -, u, -, rfl | rfl⟩ := hk
    · rfl
    · rfl
  · have hmap : (levelKeys objects [i]).map clientTupleKey = objects.flatMap fun object =>
        [⟨typedUser i, memberRel, entitlementObject object⟩,
          ⟨typedUser i, adminRel, entitlementObject object⟩] := by
      simp [levelKeys, List.map_flatMap, clientTupleKey, entitlementKey, entitlementObject]
    rw [hmap, List.nodup_flatMap]
    refine ⟨fun object _ => by simp [memberRel, adminRel], hobjects.imp fun hne => ?_⟩
    intro x hx hx'
    simp only [List.mem_cons, List.not_mem_nil, or_false] at hx hx'
    refine hne (entitlementObject_inj.mp ?_)
    have hobject : ∀ {object : String}, (x = ⟨typedUser i, memberRel, entitlementObject object⟩ ∨
        x = ⟨typedUser i, adminRel, entitlementObject object⟩) → x.object = entitlementObject object := by
      rintro object (rfl | rfl)
      · rfl
      · rfl
    exact (hobject hx).symm.trans (hobject hx')
  · rw [mem_levelKeys]
    simp only [List.mem_singleton, exists_eq_left]
    tauto

/-- The run of a removal. -/
theorem removeAllForIdentity_run (apps : List ApplicationRow) :
    (EntitlementServiceImpl.removeAllForIdentity t i (.ok apps)).run.run
        (teardownCalls listing order rest) o w =
      if apps = [] then (.ok (), w)
      else serviceDeletes order t (levelKeys (apps.map (·.publicId)) [i]) (o 0) w := by
  have hkeys : levelKeys (apps.map (·.publicId)) [i] = apps.flatMap fun app =>
      [entitlementKey app.publicId memberRel i, entitlementKey app.publicId adminRel i] := by
    simp [levelKeys, List.flatMap_map]
  have hnil : levelKeys (apps.map (·.publicId)) [i] = [] ↔ apps = [] := by
    rw [hkeys]
    cases apps <;> simp
  show ((if (apps.flatMap fun app => [entitlementKey app.publicId memberRel i,
    entitlementKey app.publicId adminRel i]) ≠ [] then EntitlementServiceImpl.ensureTuples t [] _
      else Pure.pure () : EntitlementServiceImpl.Method Unit)).run.run _ o w = _
  rw [← hkeys]
  by_cases happs : apps = []
  · simp only [happs, ne_eq, if_true]
    rfl
  · simp only [mt hnil.mp happs, happs, ne_eq, not_false_eq_true, if_true, if_false]
    exact run_serviceDeletes _

/-- **The teardown of an identity.** -/
theorem identityRemoved_iff (horder : ∀ l, (order l).Perm l) (hcalm : ∀ n m, (o n m).Calm) :
    IdentityRemoved groups t i w
        ((EntitlementServiceImpl.removeAllForIdentity t i (.ok (db.listByTenant t))).run.run
          (teardownCalls listing order rest) o w) ↔ RegisteredLevels groups t i db w := by
  rw [removeAllForIdentity_run]
  by_cases happs : db.listByTenant t = []
  · -- nothing is deleted
    rw [if_pos happs]
    constructor
    · rintro ⟨-, hgone⟩
      refine ⟨.inl happs, fun x hx huser hlevel object hobject happ => ?_, by simp [happs, held]⟩
      obtain ⟨hother, hgroup⟩ := hgone x hx huser hlevel object hobject
      exact absurd hgroup (happ.resolve_left hother)
    · rintro ⟨-, hcovered, -⟩
      refine ⟨rfl, fun x hx huser hlevel object hobject => ?_⟩
      by_contra hno
      have happ : object = gatewayAppObject ∨ ¬ groups object := by tauto
      simpa [happs] using hcovered x hx huser hlevel object hobject happ
  · rw [if_neg happs]
    obtain ⟨hone, hnodup, hmem⟩ := removeAllForIdentity_deletes (listByTenant_nodup db t) i
    have hrows : ∀ x : FgaTuple, (∃ object ∈ (db.listByTenant t).map (·.publicId),
        x.object = entitlementObject object) ↔
          ∃ a ∈ db.listByTenant t, x.object = entitlementObject a.publicId := by simp
    have hds : levelKeys ((db.listByTenant t).map (·.publicId)) [i] ≠ [] := by
      obtain ⟨a, ha⟩ := List.exists_mem_of_ne_nil _ happs
      refine List.ne_nil_of_mem (a := entitlementKey a.publicId memberRel i) ?_
      simp only [levelKeys, List.mem_flatMap, List.mem_map, List.mem_singleton, exists_exists_and_eq_and]
      exact ⟨a, ha, i, rfl, List.mem_cons_self⟩
    obtain ⟨hok, hleft⟩ := deletes_done (t := t) (w := w) (o := o 0) horder hone hnodup
      (p := fun x => x.user = typedUser i ∧ IsLevel x.relation ∧
        ∃ a ∈ db.listByTenant t, x.object = entitlementObject a.publicId)
      (fun x => by rw [hmem, decide_eq_true_iff, hrows]) (hcalm 0)
    constructor
    · rintro ⟨hsuccess, hgone⟩
      have hsuccess' := serviceDeletes_ok.mp hsuccess
      obtain ⟨hready, hfew⟩ := hok.mp hsuccess'
      refine ⟨.inr (hready.resolve_left hds), fun x hx huser hlevel object hobject happ => ?_, hfew⟩
      by_contra hno
      have hstays : x ∈ tuplesIn (serviceDeletes order t (levelKeys ((db.listByTenant t).map
          (·.publicId)) [i]) (o 0) w).2 (entitlementStore t w) := by
        refine (hleft hsuccess' x).mpr ⟨hx, ?_⟩
        simp only [decide_eq_false_iff_not]
        rintro ⟨-, -, a, ha, hxa⟩
        exact hno ⟨a, ha, entitlementObject_inj.mp (hxa.symm.trans hobject)⟩
      obtain ⟨hother, hgroup⟩ := hgone x hstays huser hlevel object hobject
      exact absurd hgroup (happ.resolve_left hother)
    · rintro ⟨hready, hcovered, hfew⟩
      have hsuccess := hok.mpr ⟨.inr (hready.resolve_left happs), hfew⟩
      refine ⟨serviceDeletes_ok.mpr hsuccess, fun x hx huser hlevel object hobject => ?_⟩
      obtain ⟨hx, hkept⟩ := (hleft hsuccess x).mp hx
      by_contra hno
      have happ : object = gatewayAppObject ∨ ¬ groups object := by tauto
      obtain ⟨a, ha, rfl⟩ := hcovered x hx huser hlevel object hobject happ
      simp only [decide_eq_false_iff_not] at hkept
      exact hkept ⟨huser, hlevel, a, ha, hobject⟩

/-- **Teardown.** As long as nothing fails, both methods leave nothing behind just where

* the users that are listed for the application are those who have a tuple on it, all of them members or
  admins,
* the applications on which the identity has a level have a row in the table, and
* neither the application nor the identity has more of these tuples than a request may name. -/
theorem teardown_complete_iff (horder : ∀ l, (order l).Perm l) (hcalm : ∀ n m, (o n m).Calm) :
    TeardownComplete listing order rest groups t p i db o w ↔
      (∃ users admins, ListedApplication listing t p w users admins) ∧ RegisteredLevels groups t i db w :=
  and_congr (applicationRemoved_iff horder hcalm) (identityRemoved_iff horder hcalm)

end teardown

/-! ## Alice's entitlements -/

/-- The record of the entitlements of `acme`. -/
def entitlementRecord : List NamespaceRow :=
  [⟨"acme", entitlementNamespace, .null, some "entitlement-store", some "entitlement-model", 0, 0⟩]

theorem entitlementRecord_key : entitlementRecord.Pairwise fun r r' => ¬ r.IsOf r'.tenantId r'.nspace :=
  List.pairwise_singleton _ _

theorem entitlementRecord_types : ∀ x ∈ ([] : List NamespaceTypeRow),
    ∃ r ∈ entitlementRecord, r.IsOf x.tenantId x.nspace := fun _ hx => absurd hx List.not_mem_nil

/-- Alice has one entitlement. -/
def aliceHas (relation object : String) : PermissionWorld where
  registry := ⟨entitlementRecord, [], entitlementRecord_key, docAndFile_typeKey, entitlementRecord_types⟩
  mirror := .empty
  keto := []
  stores := [⟨"entitlement-store", "acme-entitlements",
    [⟨"user:alice", relation, entitlementObject object⟩]⟩]

/-- An evaluation that lists the users who have a tuple themselves. -/
def directUsers : UserListing := fun st _ nspace object relation _ =>
  .ok ((st.tuples.filter fun x => x.object = nspace ++ ":" ++ object ∧ x.relation = relation).map fun x =>
    match splitOnce x.user ':' with
    | some (type, id) => .object type id
    | none => .wildcard x.user)

/-- An evaluation that insists on a filter. -/
def filteredUsers : UserListing := fun st model nspace object relation filters =>
  if filters = [] then .error (.openFga 400 "user_filters must have one item")
  else directUsers st model nspace object relation filters

/-- An account of the calls that are not made. -/
def otherCalls : Handler PermissionSig (ℕ → PermissionChoice) PermissionWorld
  | .ensureModel _ _, _, w => (.ok (), w)
  | .ensureTuples _ _ _, _, w => (.ok (), w)
  | .checkPermission _ _ _ _ _, _, w => (.ok false, w)
  | .readTuples _ _ _, _, w => (.ok [], w)
  | .listUsers _ _ _ _, _, w => (.ok [], w)

/-- The tenant `acme` and its application. -/
def oneApplication : Db :=
  { Db.empty [⟨"acme"⟩] with
    idMappings := [⟨"acme", .hydra, "wiki", "wiki-client", 0⟩]
    applications := [⟨"acme", "wiki", false, .admin⟩]
    mappingKeys := by decide
    mappingTenant := by decide
    applicationKey := by decide
    applicationMapping := by decide
    applicationTenant := by decide }

/-- Alice is a member of the only application: all is taken from her, if users are listed at all. -/
theorem teardown_complete_alice :
    TeardownComplete directUsers id otherCalls (fun _ => False) "acme" "wiki" "alice" oneApplication
        (fun _ => calmStores) (aliceHas "member" "wiki") ∧
      ¬ TeardownComplete filteredUsers id otherCalls (fun _ => False) "acme" "wiki" "alice" oneApplication
        (fun _ => calmStores) (aliceHas "member" "wiki") := by
  have horder : ∀ l : List String, (id l).Perm l := fun l => List.Perm.refl l
  have hcalm : ∀ n m : ℕ, (calmStores m).Calm := fun n m => calm_calmStores m
  have hheld : ∀ x ∈ tuplesIn (aliceHas "member" "wiki") (entitlementStore "acme" (aliceHas "member" "wiki")),
      x = ⟨"user:alice", "member", entitlementObject "wiki"⟩ := by decide
  constructor
  · refine (teardown_complete_iff horder hcalm).mpr
      ⟨⟨["user:alice"], [], rfl, rfl, by decide, by decide⟩, .inr ⟨⟨_, rfl, by decide⟩, rfl⟩, ?_,
        by decide⟩
    intro x hx _ _ object hobject _
    obtain rfl := hheld x hx
    exact ⟨⟨"acme", "wiki", false, .admin⟩, by decide, entitlementObject_inj.mp hobject⟩
  · intro h
    obtain ⟨users, admins, hlisted⟩ := ((teardown_complete_iff horder hcalm).mp h).1
    cases hlisted.asMembers

/-- Alice is an admin of the gateway and `acme` has no application: she stays one. -/
theorem teardown_gateway_admin :
    (EntitlementServiceImpl.removeAllForIdentity "acme" "alice" (.ok ((Db.empty [⟨"acme"⟩]).listByTenant
        "acme"))).run.run (teardownCalls directUsers id otherCalls) (fun _ => calmStores)
        (aliceHas "admin" gatewayAppObject) = (.ok (), aliceHas "admin" gatewayAppObject) ∧
      ¬ TeardownComplete directUsers id otherCalls (fun _ => False) "acme" "wiki" "alice"
        (Db.empty [⟨"acme"⟩]) (fun _ => calmStores) (aliceHas "admin" gatewayAppObject) := by
  refine ⟨rfl, fun h => ?_⟩
  have hgone := h.2.gone ⟨"user:alice", "admin", entitlementObject gatewayAppObject⟩ (by decide) rfl
    (.inr rfl) gatewayAppObject rfl
  exact hgone.1 rfl

end SsoGateway
