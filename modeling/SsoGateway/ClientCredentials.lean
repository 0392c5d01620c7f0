import SsoGateway.Clients
import SsoGateway.PermissionReads
import SsoGateway.Steps
import SsoGateway.Lib.Straight

/-!
# The calls on client credentials

What the client credential service does to a client once it is created: it reads, lists, replaces and
deletes the client of an id, and gives it a new secret. A call finds its client by the mapping of
the id, and every kind of client has such a mapping.

* `getClientCredential`, `listClientCredentials`, `updateClientCredential`,
  `deleteClientCredential`, `rotateClientCredentialSecret` — the calls.
* `CredentialFrame` — a call leaves the clients of other kinds alone.
* `credential_frame_iff` — it does so in every run just if its id is not the id of one of them.
* `application_overwritten` — an application is found by its id, and loses its grant types.

Source: `services/client_credential.rs`, `sso-ory-client` `hydra.rs`.
-/

namespace SsoGateway

open Lib

/-! ## The calls -/

/-- Source: `SCOPE_APPLICATION_READ`. -/
def scopeApplicationRead : String := "application:read"

/-- The checks of a read; yields the caller's tenant. -/
def credentialReader (ctx : RequestContext) : Except ServiceError String := do
  let tenantId ← requireTenant ctx
  requireScopeAny ctx [scopeApplicationRead, scopeApplicationAdmin]
  return tenantId

/-- The client of an id. -/
def credentialClient (tenantId id : String) : Service String :=
  Prog.orThrow ServiceError.ofDbError (IdMappingStore.getOryId tenantId .hydra id)

/-- Source: `get_client_credential`. -/
def getClientCredential (ctx : RequestContext) (id : String) : Service ClientCredential := do
  let tenantId ← check (credentialReader ctx)
  let oryId ← credentialClient tenantId id
  let client ← Prog.orThrow mapOryError (callHydra (.getOauth2Client oryId))
  return hydraToClientCredential client tenantId id

/-- One client of the list, unless it cannot be fetched. -/
def fetchCredential (tenantId publicId : String) : Prog Gateway (Option ClientCredential) := do
  match ← IdMappingStore.getOryId tenantId .hydra publicId with
  | .ok oryId =>
      match ← callHydra (.getOauth2Client oryId) with
      | .ok client => return some (hydraToClientCredential client tenantId publicId)
      | .error _ => return none
  | .error _ => return none

/-- The loop of `list_client_credentials`. -/
def fetchCredentials (tenantId : String) : List String → Prog Gateway (List ClientCredential)
  | [] => return []
  | publicId :: publicIds => do
      let credential ← fetchCredential tenantId publicId
      let credentials ← fetchCredentials tenantId publicIds
      return credential.toList ++ credentials

/-- Source: `list_client_credentials`. -/
def listClientCredentials (ctx : RequestContext) : Service (List ClientCredential) := do
  let tenantId ← check (credentialReader ctx)
  let publicIds ← Prog.orThrow ServiceError.ofDbError (IdMappingStore.listPublicIds tenantId .hydra)
  Prog.attempt (fetchCredentials tenantId publicIds)

/-- Source: `UpdateClientCredentialRequest`. -/
structure UpdateClientCredentialRequest where
  id : String
  name : String
  scope : List String
  tokenEndpointAuthMethod : String
deriving DecidableEq, Repr

/-- The checks of `update_client_credential`; yields the caller's tenant and the method. -/
def UpdateClientCredentialRequest.validate (ctx : RequestContext)
    (req : UpdateClientCredentialRequest) : Except ServiceError (String × String) := do
  let tenantId ← requireTenant ctx
  requireScope ctx scopeApplicationAdmin
  validateClientScopes req.scope
  let method ← validateOrDefaultTokenEndpointAuthMethod req.tokenEndpointAuthMethod
  return (tenantId, method)

/-- Source: `update_client_credential`. The document of `build_hydra_update_payload` replaces the
client's. -/
def updateClientCredential (ctx : RequestContext) (req : UpdateClientCredentialRequest) :
    Service ClientCredential := do
  let (tenantId, method) ← check (req.validate ctx)
  let oryId ← credentialClient tenantId req.id
  let updated ← Prog.orThrow mapOryError
    (callHydra (.updateOauth2Client oryId (credentialPayload req.name req.scope method oryId)))
  return hydraToClientCredential updated tenantId req.id

/-- Source: `delete_client_credential`. -/
def deleteClientCredential (ctx : RequestContext) (id : String) : Service Unit := do
  let tenantId ← check (requireTenantScope ctx scopeApplicationAdmin)
  let oryId ← credentialClient tenantId id
  Prog.orThrow mapOryError (callHydra (.deleteOauth2Client oryId))
  Prog.orThrow ServiceError.ofDbError (IdMappingStore.delete tenantId .hydra id)

/-- Source: `HydraClient::rotate_client_secret`, with the secret that is drawn. -/
def rotateClientSecret (secret oryId : String) : ExceptT OryClientError (Prog Gateway) Value := do
  let client ← Prog.orThrow id (callHydra (.getOauth2Client oryId))
  Prog.orThrow id
    (callHydra (.updateOauth2Client oryId (client.setIndex "client_secret" (.str secret))))

/-- Source: `rotate_client_credential_secret`; yields the secret. -/
def rotateClientCredentialSecret (secret : String) (ctx : RequestContext) (id : String) :
    Service String := do
  let tenantId ← check (requireTenantScope ctx scopeApplicationAdmin)
  let oryId ← credentialClient tenantId id
  let rotated ← Prog.orThrow mapOryError (rotateClientSecret secret oryId).run
  check (match (rotated.index "client_secret").asStr with
    | some secret => .ok secret
    | none => .error (.internal "hydra response missing client_secret"))

/-- The calls on existing client credentials; a rotation comes with the secret that is drawn. -/
inductive CredentialRequest where
  | get (id : String)
  | list
  | update (req : UpdateClientCredentialRequest)
  | delete (id : String)
  | rotate (id secret : String)

/-- What they answer with. -/
inductive CredentialReply where
  | credentials (rows : List ClientCredential)
  | secret (clientId secret : String)
  | empty

/-- The clients an answer is about. -/
def CredentialReply.publicIds : CredentialReply → List String
  | .credentials rows => rows.map (·.id)
  | .secret clientId _ => [clientId]
  | .empty => []

/-- The method of a call. -/
def CredentialRequest.method (ctx : RequestContext) : CredentialRequest → Service CredentialReply
  | .get id => (fun row => .credentials [row]) <$> getClientCredential ctx id
  | .list => .credentials <$> listClientCredentials ctx
  | .update req => (fun row => .credentials [row]) <$> updateClientCredential ctx req
  | .delete id => (fun _ => .empty) <$> deleteClientCredential ctx id
  | .rotate id secret => .secret id <$> rotateClientCredentialSecret secret ctx id

/-- The tenant of a call that passes its checks. -/
def CredentialRequest.tenant? (ctx : RequestContext) : CredentialRequest → Option String
  | .get _ => (credentialReader ctx).toOption
  | .list => (credentialReader ctx).toOption
  | .update req => (req.validate ctx).toOption.map (·.1)
  | .delete _ => (requireTenantScope ctx scopeApplicationAdmin).toOption
  | .rotate _ _ => (requireTenantScope ctx scopeApplicationAdmin).toOption

/-- The call is about the client of the id. -/
def CredentialRequest.Names (id : String) : CredentialRequest → Prop
  | .get id' => id' = id
  | .list => True
  | .update req => req.id = id
  | .delete id' => id' = id
  | .rotate id' _ => id' = id

/-! ## The frame -/

section frame

variable (others : String → Prop)

/-- The id is that of a client of another kind. -/
def OthersId (w : World) (publicId : String) : Prop :=
  ∃ m ∈ w.db.idMappings, m.backend = .hydra ∧ m.publicId = publicId ∧ others m.oryGlobalId

/-- The clients of other kinds are in `w` as they were in `w₀`. -/
structure OthersKept (w₀ w : World) : Prop where
  clients : ∀ x, others x → w.hydra.clients.lookup x = w₀.hydra.clients.lookup x
  applications : ∀ a, OthersId others w₀ a.publicId → (a ∈ w.db.applications ↔ a ∈ w₀.db.applications)
  agents : w.db.agents = w₀.db.agents
  tuples : w.tuples = w₀.tuples

/-- A call from `w₀` to `w` neither shows nor changes a client of another kind. -/
structure CredentialFrame (w₀ : World) (r : Except ServiceError CredentialReply) (w : World) : Prop where
  notShown : ∀ reply, r = .ok reply → ∀ p ∈ reply.publicIds, ¬ OthersId others w₀ p
  kept : OthersKept others w₀ w

/-- Whoever the call is about in the caller's tenant is of the service's own kind, or unknown to
Hydra. -/
def NamesOwn (w : World) (ctx : RequestContext) (op : CredentialRequest) : Prop :=
  ∀ t, op.tenant? ctx = some t → ∀ m ∈ w.db.idMappings, m.tenantId = t → m.backend = .hydra →
    op.Names m.publicId → others m.oryGlobalId → w.hydra.clients.lookup m.oryGlobalId = none

end frame

/-! ## The calls keep it -/

/-- The contract of a call that runs alone, whatever fails. -/
abbrev CredentialContract : Contract Gateway Choice World :=
  .alone (fun _ _ _ => True) fun _ _ _ => True

section keeps

variable {env : Env} {others : String → Prop} {ctx : RequestContext} {w : World}

theorem OthersKept.rfl : OthersKept others w w := ⟨fun _ _ => Eq.refl _, fun _ _ => Iff.rfl, Eq.refl _, Eq.refl _⟩

theorem CredentialFrame.of_error {e : ServiceError} {w' : World} (h : OthersKept others w w') :
    CredentialFrame others w (.error e) w' := by
  refine ⟨?_, h⟩
  rintro reply ⟨⟩

/-- The client of an id is found by its mapping. -/
theorem keeps_getOryId (t id : String) :
    (IdMappingStore.getOryId t .hydra id).Sat (gateway env) CredentialContract
      (Prog.Keeps (fun w' => w' = w) fun x _ => ∃ m ∈ w.db.idMappings, m.tenantId = t ∧
        m.backend = .hydra ∧ m.publicId = id ∧ m.oryGlobalId = x) w := by
  refine Prog.sat_perform.mpr ?_
  rintro _ rfl c -
  refine ⟨trivial, ?_⟩
  rcases gateway_getOryId env c w t .hydra id with ⟨m, hm, hP, hanswer⟩ | ⟨-, hanswer⟩ | ⟨e, -, hanswer⟩
  · rw [hanswer]
    exact ⟨Eq.refl w, m, hm, hP.1, hP.2.1, hP.2.2, Eq.refl _⟩
  · rw [hanswer]
    exact ⟨Eq.refl w, trivial⟩
  · rw [hanswer]
    exact ⟨Eq.refl w, trivial⟩

/-- A client that Hydra shows exists. -/
theorem keeps_getOauth2Client (x : String) :
    (callHydra (.getOauth2Client x)).Sat (gateway env) CredentialContract
      (Prog.Keeps (fun w' => w' = w) fun _ _ => w.hydra.clients.lookup x ≠ none) w := by
  refine Prog.sat_perform.mpr ?_
  rintro _ rfl c -
  refine ⟨trivial, gateway_of_isRead (by exact trivial) env c w, ?_⟩
  refine Prog.onOk_iff.mpr fun doc hdoc hnone => ?_
  have hanswer : (Fault.answer id w.hydra (lookupObject w.hydra.clients x, w.hydra) (c.fault 0)).1 =
    .ok doc := hdoc
  have hlookup := (Fault.answer_ok hanswer).2
  simp [lookupObject, hnone] at hlookup

/-- A request that changes a client changes no other, and none where the client does not exist. -/
theorem oryAnswer_change {α : Type} (a : α) (hy : Hydra) (x : String) {clients : List (String × Value)}
    (c : Choice) (hrest : ∀ y, y ≠ x → clients.lookup y = hy.clients.lookup y) :
    let r := oryAnswer hy c (match hy.clients.lookup x with
      | none => (.error notFound, hy)
      | some _ => (.ok a, { hy with clients := clients }))
    (∀ y, (y = x → hy.clients.lookup x = none) → r.2.clients.lookup y = hy.clients.lookup y) ∧
      ∀ b, r.1 = .ok b → hy.clients.lookup x ≠ none := by
  intro r
  rcases hlookup : hy.clients.lookup x with _ | old
  · have hr : r = oryAnswer hy c (.error notFound, hy) := by
      simp only [r, hlookup]
    have hsame : r.2 = hy := by
      rw [hr]
      exact (Fault.answer_snd (c.fault 0)).elim id id
    refine ⟨fun y _ => by rw [hsame], fun b hb => ?_⟩
    rw [hr] at hb
    have herror := (Fault.answer_ok hb).2
    cases herror
  · refine ⟨fun y hy' => ?_, fun b _ => by simp⟩
    have hne : y ≠ x := by
      rintro rfl
      exact absurd (hy' (Eq.refl y)) (by simp)
    have hr : r = oryAnswer hy c (.ok a, { hy with clients := clients }) := by
      simp only [r, hlookup]
    rw [hr]
    exact oryAnswer_snd (P := fun hy' : Hydra => hy'.clients.lookup y = hy.clients.lookup y)
      (Eq.refl _) (hrest y hne)

theorem lookup_replaced {objects : List (String × Value)} {x : String} (v : Value) {y : String}
    (hne : y ≠ x) : ((x, v) :: objects.filter fun kv => kv.1 ≠ x).lookup y = objects.lookup y := by
  rw [List.lookup_cons, beq_false_of_ne hne]
  exact lookup_filter_of_ne hne objects

/-- A client is replaced, or it does not exist. -/
theorem keeps_updateOauth2Client {x : String} (payload : Value)
    (hown : others x → w.hydra.clients.lookup x = none) :
    (callHydra (.updateOauth2Client x payload)).Sat (gateway env) CredentialContract
      (Prog.Keeps (OthersKept others w) fun _ _ => w.hydra.clients.lookup x ≠ none) w := by
  refine Prog.sat_perform.mpr ?_
  rintro _ rfl c -
  obtain ⟨hrest, hexists⟩ := oryAnswer_change payload w.hydra x c
    fun y hne => lookup_replaced (payload.insert "client_id" (.str x)) hne
  refine ⟨trivial, ⟨fun y hy => hrest y ?_, fun _ _ => Iff.rfl, Eq.refl _, Eq.refl _⟩, Prog.onOk_iff.mpr hexists⟩
  rintro rfl
  exact hown hy

/-- A client is deleted, or it does not exist. -/
theorem keeps_deleteOauth2Client {x : String} (hown : others x → w.hydra.clients.lookup x = none) :
    (callHydra (.deleteOauth2Client x)).Sat (gateway env) CredentialContract
      (Prog.Keeps (OthersKept others w) fun _ w' =>
        w.hydra.clients.lookup x ≠ none ∧ w'.db = w.db) w := by
  refine Prog.sat_perform.mpr ?_
  rintro _ rfl c -
  obtain ⟨hrest, hexists⟩ := oryAnswer_change () w.hydra x c
    fun y hne => lookup_filter_of_ne hne w.hydra.clients
  refine ⟨trivial, ⟨fun y hy => hrest y ?_, fun _ _ => Iff.rfl, Eq.refl _, Eq.refl _⟩,
    Prog.onOk_iff.mpr fun u hu => ⟨hexists u hu, Eq.refl _⟩⟩
  rintro rfl
  exact hown hy

/-- The id of a client of the service's own kind is no other's. -/
theorem not_othersId {m : IdMappingRow} (hm : m ∈ w.db.idMappings)
    (hown : others m.oryGlobalId → w.hydra.clients.lookup m.oryGlobalId = none)
    (hexists : w.hydra.clients.lookup m.oryGlobalId ≠ none) : ¬ OthersId others w m.publicId := by
  rintro ⟨m', hm', -, hpublic, hothers⟩
  obtain rfl : m' = m := w.db.mapping_unique hm' hm (.inl hpublic)
  exact hexists (hown hothers)

/-- The mapping of an id is deleted, with the row of `applications` that refers to it. -/
theorem sat_deleteMapping {w₀ : World} {t p : String} (hkept : OthersKept others w₀ w)
    (hdb : w.db = w₀.db) (hp : ¬ OthersId others w₀ p) :
    (IdMappingStore.delete t .hydra p).Sat (gateway env) CredentialContract
      (fun _ w' => OthersKept others w₀ w') w := by
  refine Prog.sat_perform.mpr ?_
  rintro _ rfl c -
  refine ⟨trivial, ?_⟩
  have hworld : (gateway env (.mapping (.delete t .hydra p)) c w).2 =
    { w with db := (w.db.write c (w.db.deleteMapping t .hydra p) ()).2 } := Eq.refl _
  rw [hworld]
  have hcases : (w.db.write c (w.db.deleteMapping t .hydra p) ()).2 = w.db ∨
      ∃ db', w.db.deleteMapping t .hydra p = .ok db' ∧
        (w.db.write c (w.db.deleteMapping t .hydra p) ()).2 = db' := Db.write_snd c _ ()
  rcases hcases with hsame | ⟨db', hdelete, hwrite⟩
  · rw [hsame]
    exact hkept
  · obtain ⟨-, -, happlications, hagents, -⟩ := Db.deleteMapping_ok hdelete
    rw [hwrite]
    refine ⟨hkept.clients, fun a ha => ?_, hagents.trans hkept.agents, hkept.tuples⟩
    have hne : a.publicId ≠ p := by
      rintro rfl
      exact hp ha
    show a ∈ db'.applications ↔ _
    rw [happlications, List.mem_filter, hdb]
    simp [hne]

/-- The call shows no client of another kind. -/
def ShowsOwn (others : String → Prop) (w : World) (reply : CredentialReply) : Prop :=
  ∀ p ∈ reply.publicIds, ¬ OthersId others w p

/-- Whoever a call with this id is about in the tenant is of the service's own kind, or unknown to
Hydra. -/
def OwnId (others : String → Prop) (w : World) (t id : String) : Prop :=
  ∀ m ∈ w.db.idMappings, m.tenantId = t → m.backend = .hydra → m.publicId = id →
    others m.oryGlobalId → w.hydra.clients.lookup m.oryGlobalId = none

/-- What a call looks like that finds its client and goes on with it. -/
theorem keeps_withClient {α : Type} {t id : String} {P : α → World → Prop} {f : String → Service α}
    (hf : ∀ m ∈ w.db.idMappings, m.tenantId = t → m.backend = .hydra → m.publicId = id →
      (f m.oryGlobalId).run.Sat (gateway env) CredentialContract (Prog.Keeps (OthersKept others w) P) w) :
    (credentialClient t id >>= f).run.Sat (gateway env) CredentialContract
      (Prog.Keeps (OthersKept others w) P) w := by
  refine Prog.keeps_run_bind (Prog.keeps_run_orThrow (keeps_getOryId t id)) (fun w' hw' => hw' ▸ .rfl) ?_
  rintro x _ rfl ⟨m, hm, ht, hbackend, hid, rfl⟩
  exact hf m hm ht hbackend hid

/-- A call makes its checks first. -/
theorem keeps_checked {α β : Type} {r : Except ServiceError α} {f : α → Service β} {P : β → World → Prop}
    (hf : ∀ a, r = .ok a → (f a).run.Sat (gateway env) CredentialContract
      (Prog.Keeps (OthersKept others w) P) w) :
    (check r >>= f).run.Sat (gateway env) CredentialContract (Prog.Keeps (OthersKept others w) P) w := by
  refine Prog.keeps_run_bind (J := fun w' => w' = w) (P := fun a _ => r = .ok a)
    (Prog.keeps_run_mk (Eq.refl w) fun a ha => ha) (fun w' hw' => hw' ▸ .rfl) ?_
  rintro a _ rfl ha
  exact hf a ha

/-- What is shown of a client that was found is its own. -/
theorem showsOwn_of_found {m : IdMappingRow} {t id : String} {reply : CredentialReply}
    (hm : m ∈ w.db.idMappings) (ht : m.tenantId = t) (hbackend : m.backend = .hydra)
    (hid : m.publicId = id) (hown : OwnId others w t id)
    (hexists : w.hydra.clients.lookup m.oryGlobalId ≠ none) (hreply : ∀ p ∈ reply.publicIds, p = id) :
    ShowsOwn others w reply := by
  intro p hp
  rw [hreply p hp, ← hid]
  exact not_othersId hm (hown m hm ht hbackend hid) hexists

theorem keeps_get (id : String) (hown : ∀ t, credentialReader ctx = .ok t → OwnId others w t id) :
    (getClientCredential ctx id).run.Sat (gateway env) CredentialContract
      (Prog.Keeps (OthersKept others w) fun row _ => ShowsOwn others w (.credentials [row])) w := by
  unfold getClientCredential
  refine keeps_checked fun t hctx => keeps_withClient fun m hm ht hbackend hid => ?_
  refine Prog.keeps_run_bind (Prog.keeps_run_orThrow (keeps_getOauth2Client m.oryGlobalId))
    (fun w' hw' => hw' ▸ .rfl) ?_
  rintro client _ rfl hexists
  exact Prog.keeps_run_pure .rfl (showsOwn_of_found hm ht hbackend hid (hown t hctx) hexists
    (by simp [CredentialReply.publicIds, hydraToClientCredential]))

theorem keeps_update (req : UpdateClientCredentialRequest)
    (hown : ∀ p, req.validate ctx = .ok p → OwnId others w p.1 req.id) :
    (updateClientCredential ctx req).run.Sat (gateway env) CredentialContract
      (Prog.Keeps (OthersKept others w) fun row _ => ShowsOwn others w (.credentials [row])) w := by
  unfold updateClientCredential
  refine keeps_checked fun p hctx => ?_
  obtain ⟨t, method⟩ := p
  refine keeps_withClient fun m hm ht hbackend hid => ?_
  refine Prog.keeps_run_bind (Prog.keeps_run_orThrow (keeps_updateOauth2Client _
    (hown (t, method) hctx m hm ht hbackend hid))) (fun _ h => h) ?_
  intro client w' hkept hexists
  exact Prog.keeps_run_pure hkept (showsOwn_of_found hm ht hbackend hid (hown _ hctx) hexists
    (by simp [CredentialReply.publicIds, hydraToClientCredential]))

theorem keeps_delete (id : String)
    (hown : ∀ t, requireTenantScope ctx scopeApplicationAdmin = .ok t → OwnId others w t id) :
    (deleteClientCredential ctx id).run.Sat (gateway env) CredentialContract
      (Prog.Keeps (OthersKept others w) fun _ _ => ShowsOwn others w .empty) w := by
  unfold deleteClientCredential
  refine keeps_checked fun t hctx => keeps_withClient fun m hm ht hbackend hid => ?_
  have hm' := hown t hctx m hm ht hbackend hid
  refine Prog.keeps_run_bind (Prog.keeps_run_orThrow (keeps_deleteOauth2Client hm')) (fun _ h => h) ?_
  rintro _ w' hkept ⟨hexists, hdb⟩
  refine Prog.keeps_run_orThrow ((sat_deleteMapping hkept hdb ?_).post fun r w'' h => ?_)
  · rw [← hid]
    exact not_othersId hm hm' hexists
  · exact ⟨h, Prog.onOk_iff.mpr fun _ _ => by simp [ShowsOwn, CredentialReply.publicIds]⟩

theorem keeps_rotate (id secret : String)
    (hown : ∀ t, requireTenantScope ctx scopeApplicationAdmin = .ok t → OwnId others w t id) :
    (rotateClientCredentialSecret secret ctx id).run.Sat (gateway env) CredentialContract
      (Prog.Keeps (OthersKept others w) fun shown _ => ShowsOwn others w (.secret id shown)) w := by
  unfold rotateClientCredentialSecret rotateClientSecret
  refine keeps_checked fun t hctx => keeps_withClient fun m hm ht hbackend hid => ?_
  have hm' := hown t hctx m hm ht hbackend hid
  have hrotate : (rotateClientSecret secret m.oryGlobalId).run.Sat (gateway env) CredentialContract
      (Prog.Keeps (OthersKept others w) fun _ _ => w.hydra.clients.lookup m.oryGlobalId ≠ none) w := by
    refine Prog.keeps_run_bind (Prog.keeps_run_orThrow (keeps_getOauth2Client m.oryGlobalId))
      (fun w' hw' => hw' ▸ .rfl) ?_
    rintro client _ rfl -
    exact Prog.keeps_run_orThrow (keeps_updateOauth2Client _ hm')
  refine Prog.keeps_run_bind (Prog.keeps_run_orThrow hrotate) (fun _ h => h) ?_
  intro rotated w' hkept hexists
  exact Prog.keeps_run_mk hkept fun shown _ =>
    showsOwn_of_found hm ht hbackend hid (hown t hctx) hexists (by simp [CredentialReply.publicIds])

/-- One client of the list. -/
theorem sat_fetchCredential (t publicId : String) (hown : OwnId others w t publicId) :
    (fetchCredential t publicId).Sat (gateway env) CredentialContract (fun row w' => w' = w ∧
      ShowsOwn others w (.credentials row.toList)) w := by
  have hnone : ShowsOwn others w (.credentials (none : Option ClientCredential).toList) := by
    simp [ShowsOwn, CredentialReply.publicIds]
  unfold fetchCredential
  refine Prog.sat_bind.mpr ((keeps_getOryId t publicId).post ?_)
  rintro (e | x) _ ⟨rfl, hfound⟩
  · exact ⟨Eq.refl _, hnone⟩
  · obtain ⟨m, hm, ht, hbackend, hid, rfl⟩ := hfound
    refine Prog.sat_bind.mpr ((keeps_getOauth2Client m.oryGlobalId).post ?_)
    rintro (e | client) _ ⟨rfl, hexists⟩
    · exact ⟨Eq.refl _, hnone⟩
    · refine ⟨Eq.refl _, showsOwn_of_found hm ht hbackend hid hown hexists ?_⟩
      simp [CredentialReply.publicIds, hydraToClientCredential]

theorem sat_fetchCredentials (t : String) (publicIds : List String)
    (hown : ∀ p ∈ publicIds, OwnId others w t p) :
    (fetchCredentials t publicIds).Sat (gateway env) CredentialContract (fun rows w' => w' = w ∧
      ShowsOwn others w (.credentials rows)) w := by
  induction publicIds with
  | nil => exact ⟨Eq.refl _, by simp [ShowsOwn, CredentialReply.publicIds]⟩
  | cons p publicIds ih =>
      unfold fetchCredentials
      refine Prog.sat_bind.mpr ((sat_fetchCredential t p (hown p List.mem_cons_self)).post ?_)
      rintro row _ ⟨rfl, hrow⟩
      refine Prog.sat_bind.mpr ((ih fun p' hp' => hown p' (List.mem_cons_of_mem p hp')).post ?_)
      rintro rows _ ⟨rfl, hrows⟩
      refine ⟨Eq.refl _, fun p' hp' => ?_⟩
      have hp' : p' ∈ (row.toList ++ rows).map (·.id) := hp'
      rw [List.map_append] at hp'
      rcases List.mem_append.mp hp' with hp' | hp'
      · exact hrow p' hp'
      · exact hrows p' hp'

theorem keeps_list (hown : ∀ t, credentialReader ctx = .ok t → ∀ p, OwnId others w t p) :
    (listClientCredentials ctx).run.Sat (gateway env) CredentialContract
      (Prog.Keeps (OthersKept others w) fun rows _ => ShowsOwn others w (.credentials rows)) w := by
  unfold listClientCredentials
  refine keeps_checked fun t hctx => ?_
  have hread : (IdMappingStore.listPublicIds t .hydra).Sat (gateway env) CredentialContract
      (Prog.Keeps (fun w' => w' = w) fun _ _ => True) w := by
    refine Prog.sat_perform.mpr ?_
    rintro _ rfl c -
    refine ⟨trivial, gateway_of_isRead (by exact trivial) env c w, ?_⟩
    exact Prog.onOk_iff.mpr fun _ _ => trivial
  refine Prog.keeps_run_bind (Prog.keeps_run_orThrow hread) (fun w' hw' => hw' ▸ .rfl) ?_
  rintro publicIds _ rfl -
  refine Prog.keeps_run_attempt ((sat_fetchCredentials t publicIds fun p _ => hown t hctx p).post ?_)
  rintro rows _ ⟨rfl, hrows⟩
  exact ⟨.rfl, hrows⟩

/-- A call about the service's own clients leaves the others alone, whatever fails. -/
theorem keeps_method {op : CredentialRequest} (hown : NamesOwn others w ctx op) :
    (op.method ctx).run.Sat (gateway env) CredentialContract
      (Prog.Keeps (OthersKept others w) fun reply _ => ShowsOwn others w reply) w := by
  cases op with
  | get id => exact Prog.keeps_run_map (keeps_get id fun t ht m hm hmt hb hid =>
      hown t (by simp [CredentialRequest.tenant?, ht, Except.toOption]) m hm hmt hb hid.symm)
  | list => exact Prog.keeps_run_map (keeps_list fun t ht p m hm hmt hb _ =>
      hown t (by simp [CredentialRequest.tenant?, ht, Except.toOption]) m hm hmt hb trivial)
  | update req => exact Prog.keeps_run_map (keeps_update req fun p hp m hm hmt hb hid =>
      hown p.1 (by simp [CredentialRequest.tenant?, hp, Except.toOption]) m hm hmt hb hid.symm)
  | delete id => exact Prog.keeps_run_map (keeps_delete id fun t ht m hm hmt hb hid =>
      hown t (by simp [CredentialRequest.tenant?, ht, Except.toOption]) m hm hmt hb hid.symm)
  | rotate id secret => exact Prog.keeps_run_map (keeps_rotate id secret fun t ht m hm hmt hb hid =>
      hown t (by simp [CredentialRequest.tenant?, ht, Except.toOption]) m hm hmt hb hid.symm)

end keeps

/-! ## Where it does not hold -/

section reaches

variable (env : Env) {ctx : RequestContext} {w : World} {m : IdMappingRow} {doc : Value}

/-- Nothing fails. -/
abbrev calm : ℕ → Choice := fun _ => .plain "" 0

/-- The run of a call. -/
def CredentialRequest.run (env : Env) (ctx : RequestContext) (op : CredentialRequest) (o : ℕ → Choice)
    (w : World) : Except ServiceError CredentialReply × World :=
  (op.method ctx).run.run (gateway env) o w

theorem answer_getOryId (hm : m ∈ w.db.idMappings) :
    gateway env (.mapping (.getOryId m.tenantId m.backend m.publicId)) (.plain "" 0) w =
      (.ok m.oryGlobalId, w) := by
  rcases gateway_getOryId env (.plain "" 0) w m.tenantId m.backend m.publicId with
    ⟨m', hm', hP, hanswer⟩ | ⟨hnone, -⟩ | ⟨e, hfault, -⟩
  · obtain rfl : m' = m := w.db.mapping_unique hm' hm (.inl hP.2.2)
    exact hanswer
  · exact absurd ⟨rfl, rfl, rfl⟩ (hnone m hm)
  · cases hfault

theorem answer_getOauth2Client {x : String} (hdoc : w.hydra.clients.lookup x = some doc) :
    gateway env (.hydra (.getOauth2Client x)) (.plain "" 0) w = (.ok doc, w) := by
  refine Prod.ext ?_ (gateway_of_isRead (by exact trivial) env _ w)
  show lookupObject w.hydra.clients x = .ok doc
  simp [lookupObject, hdoc]

theorem answer_updateOauth2Client {x : String} (payload : Value)
    (hdoc : w.hydra.clients.lookup x = some doc) :
    (gateway env (.hydra (.updateOauth2Client x payload)) (.plain "" 0) w).1 = .ok payload := by
  simp [gateway, hydraHandler, oryAnswer, Fault.answer, Choice.plain, hdoc]

/-- A call that finds its client goes on with it. -/
theorem run_withClient {α : Type} (hm : m ∈ w.db.idMappings) (hbackend : m.backend = .hydra)
    (f : String → Service α) :
    (credentialClient m.tenantId m.publicId >>= f).run.run (gateway env) calm w =
      (f m.oryGlobalId).run.run (gateway env) calm w := by
  have hanswer := answer_getOryId env hm
  rw [hbackend] at hanswer
  show Prog.run (gateway env) (Prog.call (.mapping (.getOryId m.tenantId .hydra m.publicId)) _) calm w = _
  rw [Prog.run, hanswer]
  rfl

/-- The contract of a call that meets no fault. -/
abbrev CalmContract : Contract Gateway Choice World :=
  .alone (fun _ c _ => c = .plain "" 0) fun _ _ _ => True

theorem sat_fetchCredential_calm (hm : m ∈ w.db.idMappings) (hbackend : m.backend = .hydra)
    (hdoc : w.hydra.clients.lookup m.oryGlobalId = some doc) :
    (fetchCredential m.tenantId m.publicId).Sat (gateway env) CalmContract
      (fun row w' => w' = w ∧ row = some (hydraToClientCredential doc m.tenantId m.publicId)) w := by
  have hanswer := answer_getOryId env hm
  rw [hbackend] at hanswer
  unfold fetchCredential
  refine Prog.sat_bind.mpr (Prog.sat_perform.mpr ?_)
  rintro _ rfl _ rfl
  refine ⟨trivial, ?_⟩
  rw [hanswer]
  refine Prog.sat_bind.mpr (Prog.sat_perform.mpr ?_)
  rintro _ rfl _ rfl
  refine ⟨trivial, ?_⟩
  rw [answer_getOauth2Client env hdoc]
  exact ⟨rfl, rfl⟩

/-- What holds whatever fails holds where nothing does. -/
theorem sat_calm {α : Type} {p : Prog Gateway α} {Q : α → World → Prop}
    (hp : p.Sat (gateway env) CredentialContract Q w) : p.Sat (gateway env) CalmContract Q w :=
  hp.mono (fun _ _ h => h) (fun _ _ _ _ => trivial) (fun _ _ _ _ h => h) fun _ _ h => h

/-- No client is of another kind than itself. -/
theorem ownId_of_none (t p : String) : OwnId (fun _ => False) w t p := fun _ _ _ _ _ h => h.elim

theorem sat_fetchCredentials_calm (hm : m ∈ w.db.idMappings) (hbackend : m.backend = .hydra)
    (hdoc : w.hydra.clients.lookup m.oryGlobalId = some doc) (publicIds : List String)
    (hlisted : m.publicId ∈ publicIds) :
    (fetchCredentials m.tenantId publicIds).Sat (gateway env) CalmContract
      (fun rows _ => m.publicId ∈ rows.map (·.id)) w := by
  induction publicIds with
  | nil => cases hlisted
  | cons p publicIds ih =>
      unfold fetchCredentials
      by_cases hp : p = m.publicId
      · subst hp
        refine Prog.sat_bind.mpr ((sat_fetchCredential_calm env hm hbackend hdoc).post ?_)
        rintro row _ ⟨rfl, rfl⟩
        refine Prog.sat_bind.mpr ((sat_calm env (sat_fetchCredentials m.tenantId publicIds fun p _ =>
          ownId_of_none m.tenantId p)).post fun rows _ _ => ?_)
        exact List.mem_cons_self
      · refine Prog.sat_bind.mpr ((sat_calm env (sat_fetchCredential m.tenantId p
          (ownId_of_none m.tenantId p))).post ?_)
        rintro row _ ⟨rfl, -⟩
        have hrest := (List.mem_cons.mp hlisted).resolve_left (Ne.symm hp)
        refine Prog.sat_bind.mpr ((ih hrest).post fun rows _ hmem => ?_)
        show m.publicId ∈ (row.toList ++ rows).map (·.id)
        rw [List.map_append]
        exact List.mem_append_right _ hmem

theorem ok_of_toOption {ε α : Type} {r : Except ε α} {a : α} (h : r.toOption = some a) : r = .ok a := by
  cases r with
  | error e => simp [Except.toOption] at h
  | ok b => simpa [Except.toOption] using h

theorem run_get (hm : m ∈ w.db.idMappings) (hbackend : m.backend = .hydra)
    (hctx : credentialReader ctx = .ok m.tenantId)
    (hdoc : w.hydra.clients.lookup m.oryGlobalId = some doc) :
    (getClientCredential ctx m.publicId).run.run (gateway env) calm w =
      (.ok (hydraToClientCredential doc m.tenantId m.publicId), w) := by
  unfold getClientCredential
  rw [hctx]
  refine (run_withClient env hm hbackend _).trans ?_
  show Prog.run (gateway env) (Prog.call (.hydra (.getOauth2Client m.oryGlobalId)) _) calm w = _
  rw [Prog.run, answer_getOauth2Client env hdoc]
  rfl

/-- The credential that a call shows after it replaced a client. -/
theorem run_update {req : UpdateClientCredentialRequest} {method : String} (hm : m ∈ w.db.idMappings)
    (hbackend : m.backend = .hydra) (hid : req.id = m.publicId)
    (hctx : req.validate ctx = .ok (m.tenantId, method))
    (hdoc : w.hydra.clients.lookup m.oryGlobalId = some doc) :
    ∃ w', (updateClientCredential ctx req).run.run (gateway env) calm w =
      (.ok (hydraToClientCredential (credentialPayload req.name req.scope method m.oryGlobalId)
        m.tenantId m.publicId), w') := by
  have hanswer := answer_updateOauth2Client env
    (credentialPayload req.name req.scope method m.oryGlobalId) hdoc
  unfold updateClientCredential
  rw [hctx, hid]
  refine ⟨(gateway env (.hydra (.updateOauth2Client m.oryGlobalId
    (credentialPayload req.name req.scope method m.oryGlobalId))) (.plain "" 0) w).2,
    (run_withClient env hm hbackend _).trans ?_⟩
  show Prog.run (gateway env) (Prog.call (.hydra (.updateOauth2Client m.oryGlobalId _)) _) calm w = _
  rw [Prog.run, hanswer]
  rfl

/-- The world after a deletion. -/
theorem run_delete (hm : m ∈ w.db.idMappings) (hbackend : m.backend = .hydra)
    (hctx : requireTenantScope ctx scopeApplicationAdmin = .ok m.tenantId)
    (hdoc : w.hydra.clients.lookup m.oryGlobalId = some doc) :
    ((deleteClientCredential ctx m.publicId).run.run (gateway env) calm w).2.hydra.clients.lookup
      m.oryGlobalId = none := by
  have hanswer : gateway env (.hydra (.deleteOauth2Client m.oryGlobalId)) (.plain "" 0) w =
      (.ok (), { w with hydra := { w.hydra with
        clients := w.hydra.clients.filter fun kv => kv.1 ≠ m.oryGlobalId } }) := by
    simp [gateway, hydraHandler, oryAnswer, Fault.answer, Choice.plain, hdoc]
  unfold deleteClientCredential
  rw [hctx]
  have hrun := run_withClient env hm hbackend fun oryId => (do
    Prog.orThrow mapOryError (callHydra (.deleteOauth2Client oryId))
    Prog.orThrow ServiceError.ofDbError (IdMappingStore.delete m.tenantId .hydra m.publicId) :
      Service Unit)
  refine (congrArg (fun r : Except ServiceError Unit × World =>
    r.2.hydra.clients.lookup m.oryGlobalId) hrun).trans ?_
  show (Prog.run (gateway env) (Prog.call (.hydra (.deleteOauth2Client m.oryGlobalId)) _) calm
    w).2.hydra.clients.lookup m.oryGlobalId = none
  rw [Prog.run, hanswer]
  exact lookup_filter_self m.oryGlobalId w.hydra.clients

/-- The secret that a rotation shows. -/
theorem run_rotate {fields : List (String × Value)} (secret : String) (hm : m ∈ w.db.idMappings)
    (hbackend : m.backend = .hydra) (hctx : requireTenantScope ctx scopeApplicationAdmin = .ok m.tenantId)
    (hdoc : w.hydra.clients.lookup m.oryGlobalId = some (.obj fields)) :
    ((rotateClientCredentialSecret secret ctx m.publicId).run.run (gateway env) calm w).1 = .ok secret := by
  have hanswer := answer_updateOauth2Client env
    ((Value.obj fields).setIndex "client_secret" (.str secret)) hdoc
  have hindex : (((Value.obj fields).setIndex "client_secret" (.str secret)).index
      "client_secret").asStr = some secret := by
    simp [Value.setIndex, Value.insert, Value.index, Value.get, Value.asStr]
  unfold rotateClientCredentialSecret
  rw [hctx]
  refine (congrArg Prod.fst (run_withClient env hm hbackend _)).trans ?_
  show (Prog.run (gateway env) (Prog.call (.hydra (.getOauth2Client m.oryGlobalId)) _) calm w).1 = _
  rw [Prog.run, answer_getOauth2Client env hdoc]
  show (Prog.run (gateway env) (Prog.call (.hydra (.updateOauth2Client m.oryGlobalId _)) _) _ w).1 = _
  rw [Prog.run, hanswer]
  show (match (((Value.obj fields).setIndex "client_secret" (.str secret)).index "client_secret").asStr with
    | some secret => Except.ok secret
    | none => .error (ServiceError.internal "hydra response missing client_secret")) = _
  rw [hindex]

/-- The clients that the list shows. -/
theorem run_list (hm : m ∈ w.db.idMappings) (hbackend : m.backend = .hydra)
    (hctx : credentialReader ctx = .ok m.tenantId)
    (hdoc : w.hydra.clients.lookup m.oryGlobalId = some doc) :
    ∃ rows, ((listClientCredentials ctx).run.run (gateway env) calm w).1 = .ok rows ∧
      m.publicId ∈ rows.map (·.id) := by
  have hsat : (listClientCredentials ctx).run.Sat (gateway env) CalmContract
      (fun r _ => ∃ rows, r = .ok rows ∧ m.publicId ∈ rows.map (·.id)) w := by
    unfold listClientCredentials
    rw [hctx]
    rintro _ rfl _ rfl
    refine ⟨trivial, ?_⟩
    have hlisted : m.publicId ∈ (w.db.mappingRows m.tenantId .hydra).map (·.publicId) :=
      List.mem_map_of_mem (Db.mem_mappingRows.mpr ⟨hm, rfl, hbackend⟩)
    refine Prog.sat_run_attempt.mpr ((sat_fetchCredentials_calm env hm hbackend hdoc _ hlisted).post ?_)
    exact fun rows _ hrows => ⟨rows, rfl, hrows⟩
  exact hsat.run_of_choices (o := calm) fun _ _ _ => rfl

/-- A call that names a live client shows it or deletes it. -/
theorem reaches {op : CredentialRequest} {fields : List (String × Value)} (hm : m ∈ w.db.idMappings)
    (htenant : op.tenant? ctx = some m.tenantId) (hbackend : m.backend = .hydra)
    (hnames : op.Names m.publicId) (hdoc : w.hydra.clients.lookup m.oryGlobalId = some (.obj fields)) :
    (∃ reply, (op.run env ctx calm w).1 = .ok reply ∧ m.publicId ∈ reply.publicIds) ∨
      (op.run env ctx calm w).2.hydra.clients.lookup m.oryGlobalId = none := by
  unfold CredentialRequest.run
  cases op with
  | get id =>
      obtain rfl : id = m.publicId := hnames
      have hrun := Prog.run_map_ok (fun row => CredentialReply.credentials [row])
        (run_get env hm hbackend (ok_of_toOption htenant) hdoc)
      refine .inl ⟨_, congrArg Prod.fst hrun, ?_⟩
      simp [CredentialReply.publicIds, hydraToClientCredential]
  | list =>
      obtain ⟨rows, hrows, hmem⟩ := run_list env hm hbackend (ok_of_toOption htenant) hdoc
      have hrun := Prog.run_map_ok CredentialReply.credentials (Prod.ext hrows rfl)
      exact .inl ⟨_, congrArg Prod.fst hrun, hmem⟩
  | update req =>
      obtain ⟨p, hctx, htenant⟩ := Option.map_eq_some_iff.mp htenant
      obtain ⟨t, method⟩ := p
      obtain rfl : t = m.tenantId := htenant
      obtain ⟨w', hrow⟩ := run_update env hm hbackend hnames (ok_of_toOption hctx) hdoc
      have hrun := Prog.run_map_ok (fun row => CredentialReply.credentials [row]) hrow
      refine .inl ⟨_, congrArg Prod.fst hrun, ?_⟩
      simp [CredentialReply.publicIds, hydraToClientCredential]
  | delete id =>
      obtain rfl : id = m.publicId := hnames
      refine .inr ?_
      have hgone := run_delete env hm hbackend (ok_of_toOption htenant) hdoc
      unfold CredentialRequest.method
      rw [ExceptT.run_map, Prog.run_map]
      exact hgone
  | rotate id secret =>
      obtain rfl : id = m.publicId := hnames
      have hshown := run_rotate env secret hm hbackend (ok_of_toOption htenant) hdoc
      have hrun := Prog.run_map_ok (CredentialReply.secret m.publicId) (Prod.ext hshown rfl)
      refine .inl ⟨_, congrArg Prod.fst hrun, ?_⟩
      simp [CredentialReply.publicIds]

end reaches

/-! ## Client credentials only -/

/-- **The frame.** Hydra's clients being objects, a call neither shows nor changes a client of another
kind, nor what belongs to it, in any run, just if no client that its id names in the caller's tenant
is a live one of another kind. -/
theorem credential_frame_iff (env : Env) (others : String → Prop) (ctx : RequestContext) (w : World)
    (op : CredentialRequest)
    (hobjects : ∀ x doc, w.hydra.clients.lookup x = some doc → ∃ fields, doc = .obj fields) :
    (∀ o, CredentialFrame others w (op.run env ctx o w).1 (op.run env ctx o w).2) ↔
      NamesOwn others w ctx op := by
  constructor
  · intro hframe t ht m hm hmt hbackend hnames hothers
    by_contra hlive
    obtain ⟨doc, hdoc⟩ := Option.ne_none_iff_exists'.mp hlive
    obtain ⟨fields, rfl⟩ := hobjects m.oryGlobalId doc hdoc
    have hcalm := hframe calm
    rcases reaches env hm (hmt ▸ ht) hbackend hnames hdoc with ⟨reply, hreply, hshown⟩ | hgone
    · exact hcalm.notShown reply hreply m.publicId hshown ⟨m, hm, hbackend, rfl, hothers⟩
    · rw [hcalm.kept.clients m.oryGlobalId hothers, hdoc] at hgone
      cases hgone
  · intro hown o
    have hend : Prog.Keeps (OthersKept others w) (fun reply _ => ShowsOwn others w reply)
        (op.run env ctx o w).1 (op.run env ctx o w).2 := by
      have hmethod : (op.method ctx).run.Sat (gateway env) CredentialContract
          (Prog.Keeps (OthersKept others w) fun reply _ => ShowsOwn others w reply) w :=
        keeps_method hown
      exact hmethod.run_of_choices fun _ _ _ => trivial
    exact ⟨fun reply hreply => Prog.onOk_iff.mp hend.2 reply hreply, hend.1⟩

/-- An administrator of the tenant `"acme"`. -/
def clientAdmin : RequestContext :=
  ⟨some "acme", some ⟨"acme", "admin", .user, [scopeApplicationAdmin]⟩⟩

/-- Every redirect URI of the runs below is an `https` URL. -/
def httpsOnly : Libraries := ⟨fun _ => .ok ⟨"https", none⟩, fun _ => none, fun _ => none, fun _ => ""⟩

/-- The world after an application was created. -/
def withApplication : World :=
  ((createApplication httpsOnly ⟨"system", [], false⟩ clientAdmin
    ⟨"Shop", ["https://shop.example/cb"], ["authorization_code"], ["code"], ["openid"], "", false,
      false⟩).run.run (gateway .firstRow) (fun _ => .plain "app" 0) (World.empty [⟨"acme"⟩])).2

/-- A change of a client credential that has the id of the application. -/
def overwrite : CredentialRequest := .update ⟨"app", "Robot", ["openid"], ""⟩

/-- The grant types and the redirect URIs of the application's client. -/
def grantsOf (w : World) : Option (List String × List String) :=
  (w.hydra.clients.lookup "app").map fun client =>
    (jsonStringArray (client.index "grant_types"), jsonStringArray (client.index "redirect_uris"))

theorem withApplication_objects (x : String) (doc : Value)
    (h : withApplication.hydra.clients.lookup x = some doc) : ∃ fields, doc = .obj fields := by
  obtain ⟨fields, hclients⟩ : ∃ fields, withApplication.hydra.clients = [("app", .obj fields)] :=
    ⟨_, rfl⟩
  rw [hclients] at h
  by_cases hx : x = "app"
  · subst hx
    exact ⟨fields, by simpa using h.symm⟩
  · simp [List.lookup_cons, beq_false_of_ne hx] at h

theorem credential_frame_iff_overwrite :
    (∀ o, CredentialFrame (fun x => x = "app") withApplication
        (overwrite.run .firstRow clientAdmin o withApplication).1
        (overwrite.run .firstRow clientAdmin o withApplication).2) ↔
      NamesOwn (fun x => x = "app") withApplication clientAdmin overwrite :=
  credential_frame_iff .firstRow _ clientAdmin withApplication overwrite withApplication_objects

/-- The client of an application takes the shape of a client credential, and is deleted as one, with
the application's row. -/
theorem application_overwritten :
    grantsOf withApplication = some (["authorization_code"], ["https://shop.example/cb"]) ∧
      grantsOf (overwrite.run .firstRow clientAdmin calm withApplication).2 =
        some (["client_credentials"], []) ∧
      withApplication.db.applications.length = 1 ∧
      ((CredentialRequest.delete "app").run .firstRow clientAdmin calm withApplication).2.db.applications =
        [] ∧
      ¬ ∀ o, CredentialFrame (fun x => x = "app") withApplication
        (overwrite.run .firstRow clientAdmin o withApplication).1
        (overwrite.run .firstRow clientAdmin o withApplication).2 := by
  have hbefore : grantsOf withApplication = some (["authorization_code"], ["https://shop.example/cb"]) := by
    decide +kernel
  have hafter : grantsOf (overwrite.run .firstRow clientAdmin calm withApplication).2 =
      some (["client_credentials"], []) := by decide +kernel
  refine ⟨hbefore, hafter, by decide +kernel, by decide +kernel, fun hframe => ?_⟩
  have hsame := (hframe calm).kept.clients "app" rfl
  unfold grantsOf at hbefore hafter
  rw [hsame, hbefore] at hafter
  exact absurd hafter (by decide)

end SsoGateway
