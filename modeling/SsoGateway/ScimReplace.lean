import SsoGateway.GroupMembership

/-!
# Replacing what is already so

`update_user` and `update_group` replace memberships: they take the old ones out and put the new ones in.
A backend that refuses a tuple it already has refuses the new ones if the old tuples are still there.

* `ScimReplace` — the two operations; `RepeatsUnchanged` — another run succeeds and changes nothing.
* `TakenOut`, `PutBack` — a store from which members are taken, and to which they return.
* `scim_replace_repeats` — which operations can be repeated.
* `scim_repeated_put_expels` — a user who is put into their group twice.

Source: `services/scim.rs` `update_user`, `update_group`, `add_user_to_group`.
-/

namespace SsoGateway

open Lib

/-! ## Replacing -/

/-- The request of an operation that replaces memberships. -/
inductive ScimReplace where
  | user (id : String) (input : ScimUser)
  | group (id : String) (input : ScimGroup)

/-- The operation, whatever it answers with. -/
def ScimReplace.prog (compile : SchemaCompiler) (ctx : RequestContext) : ScimReplace → Service Unit
  | .user id input => do
      let _ ← updateUser compile ctx id (some input)
  | .group id input => do
      let _ ← updateGroup ctx id (some input)

/-- It puts a user into groups. -/
def ScimReplace.PutsUserIntoGroups : ScimReplace → Prop
  | .user _ input => input.groups ≠ []
  | .group _ _ => False

/-- The groups, who is in them, and the tuples are the same. -/
structure SameAccess (w w' : World) : Prop where
  groups : w'.directory.groups = w.directory.groups
  members : ∀ x, x ∈ w'.directory.groupMembers ↔ x ∈ w.directory.groupMembers
  groupTuples : ∀ x, x ∈ w'.directory.groupTuples ↔ x ∈ w.directory.groupTuples
  tuples : ∀ x, x ∈ w'.tuples ↔ x ∈ w.tuples

/-- Where nothing fails, another run succeeds and leaves the groups as they are. -/
def RepeatsUnchanged (env : Env) (p : Service Unit) (w : World) : Prop :=
  ∀ o : ℕ → Choice, (∀ n, (o n).FaultFree) →
    (p.run.run (gateway env) o w).1 = .ok () ∧ SameAccess w (p.run.run (gateway env) o w).2

/-! ## Taking out and putting back -/

section restoring

variable {α : Type} {f : String → α} {users left : List String} {u : String} {S S' S'' : List α}

/-- `S'` is `S` without what `f` makes of the users, but for those that are left to take out. -/
def TakenOut (f : String → α) (users left : List String) (S S' : List α) : Prop :=
  (∀ x ∈ S', x ∈ S ∧ ∀ u ∈ users, x = f u → u ∈ left) ∧ ∀ x ∈ S, (∀ u ∈ users, x ≠ f u) → x ∈ S'

/-- `S'` lacks of `S` just what `f` makes of the users that are left to put back. -/
def PutBack (f : String → α) (left : List String) (S S' : List α) : Prop :=
  (∀ x, x ∈ S ↔ x ∈ S' ∨ ∃ u ∈ left, x = f u) ∧ ∀ u ∈ left, f u ∉ S'

theorem takenOut_start (h : ∀ u ∈ users, u ∈ left) : TakenOut f users left S S :=
  ⟨fun _ hx => ⟨hx, fun u hu _ => h u hu⟩, fun _ hx _ => hx⟩

/-- One user is taken out. -/
theorem TakenOut.remove (h : TakenOut f users (u :: left) S S') (hu : u ∈ users)
    (hS : ∀ x, x ∈ S'' ↔ x ∈ S' ∧ x ≠ f u) : TakenOut f users left S S'' := by
  refine ⟨fun x hx => ?_, fun x hx hother => ?_⟩
  · obtain ⟨hx, hne⟩ := (hS x).mp hx
    obtain ⟨hin, hleft⟩ := h.1 x hx
    refine ⟨hin, fun v hv hxv => ?_⟩
    have hvu : v ≠ u := by
      rintro rfl
      exact hne hxv
    simpa [hvu] using hleft v hv hxv
  · exact (hS x).mpr ⟨h.2 x hx hother, hother u hu⟩

/-- When all have been taken out, all are left to put back. -/
theorem TakenOut.putBack (h : TakenOut f users [] S S') (hin : ∀ u ∈ users, f u ∈ S) :
    PutBack f users S S' := by
  refine ⟨fun x => ⟨fun hx => ?_, ?_⟩, fun u hu hx => ?_⟩
  · by_cases hmade : ∃ u ∈ users, x = f u
    · exact .inr hmade
    · push Not at hmade
      exact .inl (h.2 x hx hmade)
  · rintro (hx | ⟨u, hu, rfl⟩)
    · exact (h.1 x hx).1
    · exact hin u hu
  · simpa using (h.1 _ hx).2 u hu rfl

/-- One user is put back. -/
theorem PutBack.add (hf : Function.Injective f) (h : PutBack f (u :: left) S S') (hu : u ∉ left)
    (hS : ∀ x, x ∈ S'' ↔ x ∈ S' ∨ x = f u) : PutBack f left S S'' := by
  refine ⟨fun x => ?_, fun v hv hx => ?_⟩
  · rw [h.1, hS]
    simp [or_assoc]
  · rcases (hS _).mp hx with hx | hx
    · exact h.2 v (List.mem_cons_of_mem u hv) hx
    · exact hu (hf hx ▸ hv)

theorem PutBack.same (h : PutBack f [] S S') (x : α) : x ∈ S' ↔ x ∈ S := by
  simpa using (h.1 x).symm

end restoring

/-! ## The three stores of a group -/

/-- What a user adds to the three stores as a member of a group. -/
def OnStores (t g : String) (R : ∀ {α : Type}, (String → α) → List α → List α → Prop)
    (w w' : World) : Prop :=
  R (fun u => (g, u)) w.directory.groupMembers w'.directory.groupMembers ∧
    R (fun u => (t, g, u)) w.directory.groupTuples w'.directory.groupTuples ∧
    R (fun u => (⟨t, entitlementKey g memberRel u⟩ : StoredTuple)) w.tuples w'.tuples

/-- The user is put into the stores. -/
def PutIn (t g u : String) : World → World → Prop :=
  OnStores t g fun f S S' => ∀ x, x ∈ S' ↔ x ∈ S ∨ x = f u

/-- The user is taken out of the stores. -/
def TookOut (t g u : String) : World → World → Prop :=
  OnStores t g fun f S S' => ∀ x, x ∈ S' ↔ x ∈ S ∧ x ≠ f u

theorem OnStores.comp {t g : String} {R R' R'' : ∀ {α : Type}, (String → α) → List α → List α → Prop}
    {w w' w'' : World} (h : OnStores t g R w w') (h' : OnStores t g R' w' w'')
    (hcomp : ∀ {α : Type} (f : String → α) (S S' S'' : List α), Function.Injective f →
      R f S S' → R' f S' S'' → R'' f S S'') : OnStores t g R'' w w'' := by
  refine ⟨hcomp _ _ _ _ ?_ h.1 h'.1, hcomp _ _ _ _ ?_ h.2.1 h'.2.1, hcomp _ _ _ _ ?_ h.2.2 h'.2.2⟩
  · intro u v huv
    simpa using huv
  · intro u v huv
    simpa using huv
  · intro u v huv
    simpa [entitlementKey] using huv

/-- The groups and the mappings are the same. -/
structure SameGroups (w w' : World) : Prop where
  groups : w'.directory.groups = w.directory.groups
  mappings : w'.db = w.db

theorem SameGroups.trans {w w' w'' : World} (h : SameGroups w w') (h' : SameGroups w' w'') :
    SameGroups w w'' := ⟨h'.groups.trans h.groups, h'.mappings.trans h.mappings⟩

/-- The tenant knows the user. -/
def UserMapped (w : World) (t u : String) : Prop :=
  ∃ m ∈ w.db.idMappings, m.tenantId = t ∧ m.backend = .kratos ∧ m.publicId = u

theorem SameGroups.hasGroup {w w' : World} (h : SameGroups w w') {t g : String} :
    w'.directory.HasGroup t g ↔ w.directory.HasGroup t g := by
  unfold Directory.HasGroup
  rw [h.groups]

theorem SameGroups.userMapped {w w' : World} (h : SameGroups w w') {t u : String} :
    UserMapped w' t u ↔ UserMapped w t u := by
  unfold UserMapped
  rw [h.mappings]

/-! ## Calls -/

section calls

variable {env : Env} {c : Choice} {w : World} {t g u : String}

/-- A read of the SCIM service changes nothing. -/
theorem gateway_of_isScimRead {op : GatewayOp} (hop : op.IsScimRead) (env : Env) (c : Choice)
    (w : World) : (gateway env op c w).2 = w := by
  have hread : ∀ {ε α : Type} (report : OryClientError → ε) (r : Except ε α),
      (Fault.answer report w.directory (r, w.directory) (c.fault 0)).2 = w.directory := by
    intro ε α report r
    exact (Fault.answer_snd (c.fault 0)).elim id id
  unfold GatewayOp.IsScimRead at hop
  split at hop
  case h_1 t b p =>
      have hop : GatewayOp.IsRead (.mapping (.getOryId t b p)) := trivial
      exact gateway_of_isRead hop env c w
  case h_2 i =>
      have hop : GatewayOp.IsRead (.kratos (.getIdentity i)) := trivial
      exact gateway_of_isRead hop env c w
  case h_7 => exact hop.elim
  all_goals simp [gateway, directoryHandler, hread]

theorem sat_scimReads {α : Type} {A : GatewayOp → Choice → World → Prop} {p : Prog Gateway α}
    (hp : p.Calls GatewayOp.IsScimRead) :
    p.Sat (gateway env) (.alone A fun _ _ _ => True) (fun _ w' => w' = w) w := by
  refine hp.sat (I := fun w' => w' = w) (fun w₁ w₂ h hrely => ?_) (fun op c w₁ hop h _ => ?_) rfl
  · cases hrely
    exact h
  · exact ⟨trivial, (gateway_of_isScimRead hop env c w₁).trans h⟩

theorem gateway_getOryId_same (c : Choice) (w : World) :
    (gateway env (.mapping (.getOryId t .kratos u)) c w).2 = w := by
  have hop : GatewayOp.IsRead (.mapping (.getOryId t .kratos u)) := trivial
  exact gateway_of_isRead hop env c w

theorem gateway_ensureGroupNamespace_same (c : Choice) (w : World) :
    (gateway env (.directory (.ensureGroupNamespace t)) c w).2 = w := by
  have hread : (Fault.answer id w.directory ((.ok () : Except OryClientError Unit), w.directory)
      (c.fault 0)).2 = w.directory := (Fault.answer_snd (c.fault 0)).elim id id
  simp only [gateway, directoryHandler, hread]

theorem gateway_ensureGroupNamespace_faultless (hc : c.FaultFree) :
    (gateway env (.directory (.ensureGroupNamespace t)) c w).1 = .ok () := by
  simp [gateway, directoryHandler, hc 0]

/-- The table has the user, or the call does not succeed. -/
theorem gateway_getOryId_ok {o : String}
    (h : (gateway env (.mapping (.getOryId t .kratos u)) c w).1 = .ok o) :
    ∃ m ∈ w.db.idMappings, (m.tenantId = t ∧ m.backend = .kratos ∧ m.publicId = u) ∧
      m.oryGlobalId = o := by
  rcases gateway_getOryId env c w t .kratos u with ⟨m, hm, hP, heq⟩ | ⟨-, heq⟩ | ⟨e, -, heq⟩
  · rw [heq] at h
    exact ⟨m, hm, hP, Except.ok.inj h⟩
  · rw [heq] at h
    cases h
  · rw [heq] at h
    cases h

theorem gateway_getOryId_mapped (env : Env) (hc : c.FaultFree) (hmapped : UserMapped w t u) :
    ∃ o, (gateway env (.mapping (.getOryId t .kratos u)) c w).1 = .ok o := by
  rcases gateway_getOryId env c w t .kratos u with ⟨m, -, -, heq⟩ | ⟨hnone, -⟩ | ⟨e, hf, -⟩
  · exact ⟨_, congrArg Prod.fst heq⟩
  · obtain ⟨m, hm, hP⟩ := hmapped
    exact absurd hP (hnone m hm)
  · simp [hc 0] at hf

/-- A row is inserted into a group of the tenant. -/
theorem gateway_addMember_ok {a : Unit}
    (h : (gateway env (.directory (.addMember t g u)) c w).1 = .ok a) :
    w.directory.HasGroup t g ∧ ∃ d', (gateway env (.directory (.addMember t g u)) c w).2 =
        { w with directory := d' } ∧ d'.groups = w.directory.groups ∧
      d'.groupMembers = w.directory.groupMembers.insert (g, u) ∧
      d'.groupTuples = w.directory.groupTuples := by
  obtain ⟨-, d', hd', hafter⟩ := gateway_write_ok (.addMember t g u) rfl h
  unfold Directory.insertMember at hd'
  split at hd'
  · rename_i hgroup
    cases hd'
    exact ⟨hgroup, _, hafter, rfl, rfl, rfl⟩
  · cases hd'

theorem gateway_addMember_faultless (env : Env) (hc : c.FaultFree) (hgroup : w.directory.HasGroup t g) :
    (gateway env (.directory (.addMember t g u)) c w).1 = .ok () := by
  simp [gateway, directoryHandler, Directory.write, Directory.insertMember, hc 0, hgroup]

/-- A backend that rejects duplicates had no such tuple. -/
theorem gateway_createGroupTuple_fresh {a : Unit} (hdup : env.rejectsDuplicates = true)
    (h : (gateway env (.directory (.createGroupTuple t g u)) c w).1 = .ok a) :
    (t, g, u) ∉ w.directory.groupTuples := by
  intro hin
  simp only [gateway, directoryHandler, if_pos (And.intro hdup hin)] at h
  obtain ⟨-, hr⟩ := Fault.answer_ok h
  cases hr

theorem gateway_createGroupTuple_faultless (env : Env) (hc : c.FaultFree)
    (hfresh : (t, g, u) ∉ w.directory.groupTuples) :
    (gateway env (.directory (.createGroupTuple t g u)) c w).1 = .ok () := by
  simp [gateway, directoryHandler, hc 0, hfresh]

/-- The members of a group are listed. -/
theorem gateway_listMembers_ok {users : List String}
    (h : (gateway env (.directory (.listMembers g)) c w).1 = .ok users) :
    (gateway env (.directory (.listMembers g)) c w).2 = w ∧
      ∀ u, (g, u) ∈ w.directory.groupMembers ↔ u ∈ users := by
  have hop : GatewayOp.IsScimRead (.directory (.listMembers g)) := trivial
  refine ⟨gateway_of_isScimRead hop env c w, fun u => ?_⟩
  simp only [gateway, directoryHandler] at h
  obtain ⟨-, husers⟩ := Fault.answer_ok h
  rw [← Except.ok.inj husers]
  simp

theorem gateway_listMembers_faultless (env : Env) (hc : c.FaultFree) :
    ∃ users, (gateway env (.directory (.listMembers g)) c w).1 = .ok users := by
  simp [gateway, directoryHandler, hc 0]

theorem gateway_updateGroup_faultless (env : Env) (n : String) (hc : c.FaultFree)
    (hgroup : w.directory.HasGroup t g) :
    ∃ row, (gateway env (.directory (.updateGroup t g n)) c w).1 = .ok row := by
  simp only [gateway, directoryHandler, hc 0, Fault.answer_none]
  cases hfound : w.directory.findGroup t g with
  | some row => exact ⟨_, rfl⟩
  | none =>
      obtain ⟨row, hrow, hkey⟩ := hgroup
      exact absurd hkey (by simpa using List.find?_eq_none.mp hfound row hrow)

/-- The delete of a tuple leaves the tables alone. -/
theorem gateway_deleteGroupTuple_rows (c : Choice) (w : World) :
    (gateway env (.directory (.deleteGroupTuple t g u)) c w).2.directory.groups = w.directory.groups ∧
      (gateway env (.directory (.deleteGroupTuple t g u)) c w).2.directory.groupMembers =
        w.directory.groupMembers := by
  simp only [gateway, directoryHandler]
  rcases Fault.answer_snd (c.fault 0) with h | h
  · rw [h]
    exact ⟨rfl, rfl⟩
  · rw [h]
    split
    · exact ⟨rfl, rfl⟩
    · exact ⟨rfl, rfl⟩

theorem gateway_setGroupMembership_faultless (env : Env) (hc : c.FaultFree) (member : Bool) :
    (gateway env (.entitlement (.setGroupMembership t g u member)) c w).1 = .ok () := by
  refine entitlementHandler_of_sat env c w.tuples (.setGroupMembership t g u member)
    (A := fun f => f = none) (Q := fun r _ => r = .ok ()) hc ?_
  rw [EntitlementOp.method, EntitlementServiceImpl.setGroupMembership, Prog.sat_run_bind]
  have hnone : ¬ EntitlementServiceImpl.Faulty fun f : Option Fault => f = none := by
    rintro ⟨f, hf⟩
    cases hf
  refine EntitlementServiceImpl.sat_ensureNamespace ?_ fun hf => absurd hf hnone
  by_cases hmember : member = true
  · simp only [hmember, if_true]
    exact EntitlementServiceImpl.sat_ensureTuples rfl fun hf => absurd hf hnone
  · simp only [hmember]
    exact EntitlementServiceImpl.sat_ensureTuples rfl fun hf => absurd hf hnone

/-- The membership tuple is there afterwards, or is not. -/
theorem mem_tuples_setGroupMembership {member : Bool} {a : Unit}
    (h : (gateway env (.entitlement (.setGroupMembership t g u member)) c w).1 = .ok a)
    (x : StoredTuple) :
    x ∈ (gateway env (.entitlement (.setGroupMembership t g u member)) c w).2.tuples ↔
      if member = true then x ∈ w.tuples ∨ x = ⟨t, entitlementKey g memberRel u⟩
      else x ∈ w.tuples ∧ x ≠ ⟨t, entitlementKey g memberRel u⟩ := by
  obtain ⟨s, k⟩ := x
  rw [tuples_setGroupMembership h]
  by_cases hmember : member = true
  · simp [hmember, mem_applyTuples, or_comm]
  · simp [hmember, mem_applyTuples]

end calls

/-! ## One user -/

section oneUser

variable {env : Env} {w : World} {t g u : String}

/-- A user has been added to a group: the user was known, the group was there, and the tuple of
`scim_group` was not. -/
structure Joined (t g u : String) (w w' : World) : Prop where
  mapped : UserMapped w t u
  group : w.directory.HasGroup t g
  fresh : (t, g, u) ∉ w.directory.groupTuples
  same : SameGroups w w'
  stores : PutIn t g u w w'

/-- A success of `add_user_to_group` has added the user. -/
theorem ok_addUserToGroup_joined (hdup : env.rejectsDuplicates = true) :
    (addUserToGroup t u g).run.Sat (gateway env) anyGatewayRun
      (Prog.OnOk fun _ w' => Joined t g u w w') w := by
  unfold addUserToGroup
  refine Prog.onOk_run_bind (P := fun _ w' => UserMapped w t u ∧ w' = w)
    (Prog.onOk_run_orThrow (sat_anyGatewayRun_perform fun c => Prog.onOk_iff.mpr fun o ho => ?_)) ?_
  · obtain ⟨m, hm, hP, -⟩ := gateway_getOryId_ok ho
    exact ⟨⟨m, hm, hP⟩, gateway_getOryId_same c w⟩
  rintro _ w' ⟨hmapped, hsame⟩
  subst w'
  refine Prog.onOk_run_bind (P := fun _ w' => ∃ d, w' = { w with directory := d } ∧
      w.directory.HasGroup t g ∧ d.groups = w.directory.groups ∧
      d.groupMembers = w.directory.groupMembers.insert (g, u) ∧
      d.groupTuples = w.directory.groupTuples)
    (Prog.onOk_run_orThrow (sat_anyGatewayRun_perform fun c => Prog.onOk_iff.mpr fun a ha => ?_)) ?_
  · obtain ⟨hgroup, d, hafter, hd⟩ := gateway_addMember_ok ha
    exact ⟨d, hafter, hgroup, hd⟩
  rintro _ _ ⟨d, rfl, hgroup, hgroups, hmembers, htuples⟩
  refine Prog.onOk_run_bind (P := fun _ w' => w' = { w with directory := d })
    (Prog.onOk_run_orThrow (sat_anyGatewayRun_perform fun c => Prog.onOk_iff.mpr fun _ _ =>
      gateway_ensureGroupNamespace_same c _)) ?_
  rintro _ _ rfl
  refine Prog.onOk_run_bind (P := fun _ w' => (t, g, u) ∉ w.directory.groupTuples ∧
      w' = { w with directory := { d with groupTuples := d.groupTuples.insert (t, g, u) } })
    (Prog.onOk_run_orThrow (sat_anyGatewayRun_perform fun c => Prog.onOk_iff.mpr fun a ha => ?_)) ?_
  · exact ⟨htuples ▸ gateway_createGroupTuple_fresh hdup ha, gateway_createGroupTuple_ok ha⟩
  rintro _ _ ⟨hfresh, rfl⟩
  refine Prog.onOk_run_orThrow (sat_anyGatewayRun_perform fun c => Prog.onOk_iff.mpr fun a ha => ?_)
  refine ⟨hmapped, hgroup, hfresh, ⟨hgroups, rfl⟩, fun x => ?_, fun x => ?_, fun x => ?_⟩
  · simp [gateway, hmembers, or_comm]
  · simp [gateway, htuples, or_comm]
  · simpa using mem_tuples_setGroupMembership ha x

/-- Where nothing fails, a known user is added to a group of the tenant. -/
theorem succeeds_addUserToGroup (hmapped : UserMapped w t u) (hgroup : w.directory.HasGroup t g)
    (hfresh : (t, g, u) ∉ w.directory.groupTuples) :
    (addUserToGroup t u g).run.Sat (gateway env) faultless
      (Prog.Succeeds fun _ w' => SameGroups w w' ∧ PutIn t g u w w') w := by
  unfold addUserToGroup
  refine Prog.succeeds_run_bind (P := fun _ w' => w' = w) (Prog.succeeds_run_orThrow
    (sat_faultless_perform fun c hc => ?_)) ?_
  · obtain ⟨o, ho⟩ := gateway_getOryId_mapped env hc hmapped
    exact Prog.succeeds_iff.mpr ⟨o, ho, gateway_getOryId_same c w⟩
  rintro _ w' hsame
  subst w'
  refine Prog.succeeds_run_bind (P := fun _ w' => ∃ d, w' = { w with directory := d } ∧
      d.groups = w.directory.groups ∧ d.groupMembers = w.directory.groupMembers.insert (g, u) ∧
      d.groupTuples = w.directory.groupTuples) (Prog.succeeds_run_orThrow
    (sat_faultless_perform fun c hc => ?_)) ?_
  · have hok := gateway_addMember_faultless env (u := u) hc hgroup
    obtain ⟨-, d, hafter, hd⟩ := gateway_addMember_ok hok
    exact Prog.succeeds_iff.mpr ⟨(), hok, d, hafter, hd⟩
  rintro _ _ ⟨d, rfl, hgroups, hmembers, htuples⟩
  refine Prog.succeeds_run_bind (P := fun _ w' => w' = { w with directory := d })
    (Prog.succeeds_run_orThrow (sat_faultless_perform fun c hc => Prog.succeeds_iff.mpr
      ⟨(), gateway_ensureGroupNamespace_faultless hc, gateway_ensureGroupNamespace_same c _⟩)) ?_
  rintro _ _ rfl
  refine Prog.succeeds_run_bind (P := fun _ w' =>
      w' = { w with directory := { d with groupTuples := d.groupTuples.insert (t, g, u) } })
    (Prog.succeeds_run_orThrow (sat_faultless_perform fun c hc => ?_)) ?_
  · have hok := gateway_createGroupTuple_faultless env (t := t) (g := g) (u := u)
      (w := { w with directory := d }) hc (htuples ▸ hfresh)
    exact Prog.succeeds_iff.mpr ⟨(), hok, gateway_createGroupTuple_ok hok⟩
  rintro _ _ rfl
  refine Prog.succeeds_run_orThrow (sat_faultless_perform fun c hc => Prog.succeeds_iff.mpr ?_)
  have hok := gateway_setGroupMembership_faultless env (t := t) (g := g) (u := u)
    (w := { w with directory := { d with groupTuples := d.groupTuples.insert (t, g, u) } }) hc true
  refine ⟨(), hok, ⟨hgroups, rfl⟩, fun x => ?_, fun x => ?_, fun x => ?_⟩
  · simp [gateway, hmembers, or_comm]
  · simp [gateway, htuples, or_comm]
  · simpa using mem_tuples_setGroupMembership hok x

/-- A member is taken out of the rows of a group. -/
theorem ok_removeFromGroup_rows :
    (removeFromGroup t g u).run.Sat (gateway env) anyGatewayRun (Prog.OnOk fun _ w' =>
      w'.directory.groups = w.directory.groups ∧
      w'.directory.groupMembers = w.directory.groupMembers.filter fun m => m ≠ (g, u)) w := by
  unfold removeFromGroup leaveGroup
  refine Prog.onOk_run_bind (P := fun _ w' => w'.directory.groups = w.directory.groups ∧
      w'.directory.groupMembers = w.directory.groupMembers.filter fun m => m ≠ (g, u))
    (Prog.onOk_run_orThrow (sat_anyGatewayRun_perform fun c => Prog.onOk_iff.mpr fun a ha => ?_)) ?_
  · obtain ⟨-, d', hd', hafter⟩ := gateway_write_ok (.removeMember g u) rfl ha
    cases hd'
    rw [hafter]
    exact ⟨rfl, rfl⟩
  intro _ w₁ h₁
  refine Prog.onOk_run_bind (P := fun _ w' => w'.directory = w₁.directory)
    (Prog.onOk_run_orThrow (sat_anyGatewayRun_perform fun c => Prog.onOk_iff.mpr fun _ _ => rfl)) ?_
  intro _ w₂ h₂
  rw [← h₂] at h₁
  refine Prog.onOk_run_bind (P := fun _ w' => w'.directory.groups = w₂.directory.groups ∧
      w'.directory.groupMembers = w₂.directory.groupMembers)
    (Prog.onOk_run_attempt (sat_anyGatewayRun_perform fun c => gateway_deleteGroupTuple_rows c w₂)) ?_
  rintro _ w₃ ⟨hgroups, hmembers⟩
  exact ⟨hgroups.trans h₁.1, hmembers.trans h₁.2⟩

/-- Where nothing fails, a member is taken out of a group. -/
theorem succeeds_removeFromGroup :
    (removeFromGroup t g u).run.Sat (gateway env) faultless
      (Prog.Succeeds fun _ w' => SameGroups w w' ∧ TookOut t g u w w') w := by
  unfold removeFromGroup leaveGroup
  refine Prog.succeeds_run_bind (P := fun _ w' =>
      w' = { w with directory := w.directory.keepMembers fun m => m ≠ (g, u) })
    (Prog.succeeds_run_orThrow (sat_faultless_perform fun c hc => Prog.succeeds_iff.mpr
      ⟨(), ?_, ?_⟩)) ?_
  · simp [gateway, directoryHandler, Directory.write, hc 0]
  · simp [gateway, directoryHandler, Directory.write, hc 0]
  rintro _ _ rfl
  refine Prog.succeeds_run_bind (P := fun _ w' => w'.db = w.db ∧
      w'.directory = w.directory.keepMembers (fun m => m ≠ (g, u)) ∧
      ∀ x, x ∈ w'.tuples ↔ x ∈ w.tuples ∧ x ≠ ⟨t, entitlementKey g memberRel u⟩)
    (Prog.succeeds_run_orThrow (sat_faultless_perform fun c hc => ?_)) ?_
  · have hok := gateway_setGroupMembership_faultless env (t := t) (g := g) (u := u)
      (w := { w with directory := w.directory.keepMembers fun m => m ≠ (g, u) }) hc false
    exact Prog.succeeds_iff.mpr ⟨(), hok, rfl, rfl, fun x => by
      simpa using mem_tuples_setGroupMembership hok x⟩
  rintro _ w₂ ⟨hdb, hdirectory, hentitled⟩
  refine Prog.succeeds_run_bind (P := fun _ w' => SameGroups w w' ∧ TookOut t g u w w')
    (Prog.sat_run_attempt.mpr (sat_faultless_perform fun c hc => ?_)) fun _ _ h => h
  have hnever : ∀ f ∈ c.fault 0, f.applied = true := by
    simp [hc 0]
  obtain ⟨tuples, hafter, htuples⟩ := gateway_deleteGroupTuple env w₂ hnever
  rw [hafter]
  have hgroups := congrArg Directory.groups hdirectory
  refine ⟨⟨hgroups, hdb⟩, fun x => ?_, fun x => ?_, hentitled⟩
  · simp [hdirectory, Directory.keepMembers]
  · simp [htuples, hdirectory, Directory.keepMembers]

end oneUser

/-! ## Groups -/

/-- The users among the members of a request. -/
def usersOf (members : List ScimMember) : List String :=
  (members.filter fun m => m.type = "User" ∨ m.type = "").map (·.value)

/-- Only the users are added. -/
theorem addMembers_eq (t g : String) (members : List ScimMember) :
    addMembers t g members = (usersOf members).forM fun u => addUserToGroup t u g := by
  induction members with
  | nil => rfl
  | cons m members ih =>
      have hcons : addMembers t g (m :: members) =
          (if m.type = "User" ∨ m.type = "" then addUserToGroup t m.value g else pure ()) >>=
            fun _ => addMembers t g members := rfl
      rw [hcons, ih]
      by_cases huser : m.type = "User" ∨ m.type = ""
      · have husers : usersOf (m :: members) = m.value :: usersOf members := by
          simp [usersOf, huser]
        rw [if_pos huser, husers]
        rfl
      · have husers : usersOf (m :: members) = usersOf members := by
          simp [usersOf, huser]
        rw [if_neg huser, husers]
        rfl

/-- The group has its name, and the users as its members, in all three stores. -/
structure Gathered (t g n : String) (users : List String) (w : World) : Prop where
  group : w.directory.HasGroup t g
  named : w.directory.groups.map (Directory.renamed t g n) = w.directory.groups
  members : ∀ u, (g, u) ∈ w.directory.groupMembers ↔ u ∈ users
  groupTuples : ∀ u ∈ users, (t, g, u) ∈ w.directory.groupTuples
  tuples : ∀ u ∈ users, (⟨t, entitlementKey g memberRel u⟩ : StoredTuple) ∈ w.tuples
  mapped : ∀ u ∈ users, UserMapped w t u
  nodup : users.Nodup

section groups

variable {env : Env} {w w' : World} {t g n u : String} {users : List String}

theorem Gathered.add (h : Gathered t g n users w) (hjoined : Joined t g u w w') :
    Gathered t g n (users ++ [u]) w' := by
  obtain ⟨hmapped, hgroup, hfresh, hsame, hmembers, hgroupTuples, htuples⟩ := hjoined
  have hnew : u ∉ users := fun hin => hfresh (h.groupTuples u hin)
  refine ⟨hsame.hasGroup.mpr h.group, hsame.groups ▸ h.named, fun v => ?_, ?_, ?_, ?_, ?_⟩
  · simp [hmembers, h.members]
  · simp only [List.mem_append, List.mem_singleton]
    rintro v (hv | rfl)
    · exact (hgroupTuples _).mpr (.inl (h.groupTuples v hv))
    · exact (hgroupTuples _).mpr (.inr rfl)
  · simp only [List.mem_append, List.mem_singleton]
    rintro v (hv | rfl)
    · exact (htuples _).mpr (.inl (h.tuples v hv))
    · exact (htuples _).mpr (.inr rfl)
  · simp only [List.mem_append, List.mem_singleton]
    rintro v (hv | rfl)
    · exact hsame.userMapped.mpr (h.mapped v hv)
    · exact hsame.userMapped.mpr hmapped
  · rw [← List.concat_eq_append]
    exact h.nodup.concat hnew

/-- All users are added to a group that has been emptied. -/
theorem ok_gather (hdup : env.rejectsDuplicates = true) (hw : Gathered t g n [] w) :
    (users.forM fun u => addUserToGroup t u g).run.Sat (gateway env) anyGatewayRun
      (Prog.OnOk fun _ w' => Gathered t g n users w') w := by
  -- the users added so far are what is missing in front of those that are left
  refine (Prog.onOk_run_forM (I := fun left w => ∃ added, users = added ++ left ∧
    Gathered t g n added w) (fun u left w hI => ?_) ⟨[], rfl, hw⟩).post ?_
  · obtain ⟨added, husers, hadded⟩ := hI
    refine (ok_addUserToGroup_joined hdup).post fun r w' hr => hr.mono fun _ w' hjoined => ?_
    exact ⟨added ++ [u], by simp [husers], hadded.add hjoined⟩
  · rintro r w' hr
    refine hr.mono fun _ w' hw' => ?_
    obtain ⟨added, husers, hadded⟩ := hw'
    rw [List.append_nil] at husers
    exact husers ▸ hadded

/-- A group is emptied. -/
theorem ok_empty {left : List String} (hgroup : w.directory.HasGroup t g)
    (hnamed : w.directory.groups.map (Directory.renamed t g n) = w.directory.groups)
    (hleft : ∀ u, (g, u) ∈ w.directory.groupMembers → u ∈ left) :
    (left.forM (removeFromGroup t g)).run.Sat (gateway env) anyGatewayRun
      (Prog.OnOk fun _ w' => Gathered t g n [] w') w := by
  refine (Prog.onOk_run_forM (I := fun left w => w.directory.HasGroup t g ∧
      w.directory.groups.map (Directory.renamed t g n) = w.directory.groups ∧
      ∀ u, (g, u) ∈ w.directory.groupMembers → u ∈ left)
    (fun u left w hI => ?_) ⟨hgroup, hnamed, hleft⟩).post ?_
  · obtain ⟨hgroup, hnamed, hleft⟩ := hI
    refine ok_removeFromGroup_rows.post fun r w' hr => hr.mono ?_
    rintro _ w' ⟨hgroups, hmembers⟩
    unfold Directory.HasGroup at hgroup ⊢
    rw [hgroups, hmembers]
    refine ⟨hgroup, hnamed, fun v hv => ?_⟩
    obtain ⟨hv, hne⟩ := List.mem_filter.mp hv
    have hvu : v ≠ u := by simpa using hne
    simpa [hvu] using hleft v hv
  · rintro r w' hr
    refine hr.mono ?_
    rintro _ w' ⟨hgroup, hnamed, hnone⟩
    refine ⟨hgroup, hnamed, fun u => ⟨fun hu => hnone u hu, ?_⟩, ?_, ?_, ?_, List.nodup_nil⟩
    all_goals simp

/-- A row that is renamed to the name it has. -/
theorem renamed_renamed (t g n : String) (rows : List ScimGroupRow) :
    (rows.map (Directory.renamed t g n)).map (Directory.renamed t g n) =
      rows.map (Directory.renamed t g n) := by
  rw [List.map_map]
  refine List.map_congr_left fun row _ => ?_
  by_cases hrow : row.tenantId = t ∧ row.id = g
  · simp [Directory.renamed, hrow]
  · simp [Directory.renamed, hrow]

/-- **A first replacement** of the members of a group. -/
theorem ok_updateGroup_gathered (hdup : env.rejectsDuplicates = true) {ctx : RequestContext}
    {input : ScimGroup} (hreq : requireGroup ctx (some input) = .ok (t, input)) :
    (updateGroup ctx g (some input)).run.Sat (gateway env) anyGatewayRun
      (Prog.OnOk fun _ w' => Gathered t g input.displayName (usersOf input.members) w') w := by
  unfold updateGroup
  rw [hreq]
  refine Prog.onOk_run_bind (P := fun pair w' => pair = (t, input) ∧ w' = w)
    (Prog.onOk_run_mk fun pair hpair => ⟨(Except.ok.inj hpair).symm, rfl⟩) ?_
  rintro _ w' ⟨rfl, hsame⟩
  subst w'
  refine Prog.onOk_run_bind (P := fun _ w' => w'.directory.HasGroup t g ∧
      w'.directory.groups.map (Directory.renamed t g input.displayName) = w'.directory.groups)
    (Prog.onOk_run_orThrow (sat_anyGatewayRun_perform fun c => Prog.onOk_iff.mpr fun row hrow => ?_)) ?_
  · obtain ⟨hgroup, hafter⟩ := gateway_updateGroup_ok hrow
    rw [hafter]
    exact ⟨(Directory.hasGroup_renameGroup _).mpr hgroup, renamed_renamed t g _ _⟩
  rintro row w₁ ⟨hgroup, hnamed⟩
  refine Prog.onOk_run_bind (P := fun _ w' => w' = w₁) (Prog.onOk_run_orThrow
    (sat_anyGatewayRun_perform fun c => Prog.onOk_iff.mpr fun _ _ =>
      gateway_ensureGroupNamespace_same c _)) ?_
  rintro _ w' hsame
  subst w'
  refine Prog.onOk_run_bind (P := fun existing w' => w' = w₁ ∧
      ∀ u, (g, u) ∈ w₁.directory.groupMembers ↔ u ∈ existing)
    (Prog.onOk_run_orThrow (sat_anyGatewayRun_perform fun c => Prog.onOk_iff.mpr fun users h =>
      gateway_listMembers_ok h)) ?_
  rintro existing w' ⟨hsame, hexisting⟩
  subst w'
  refine Prog.onOk_run_bind (ok_empty hgroup hnamed fun u => (hexisting u).mp) fun _ w₂ hw₂ => ?_
  refine Prog.onOk_run_bind (P := fun _ w' =>
      Gathered t g input.displayName (usersOf input.members) w') ?_ fun _ w₃ hw₃ => ?_
  · rw [addMembers_eq]
    exact ok_gather hdup hw₂
  · refine (sat_scimReads (calls_loadGroup (fun _ hop => hop) t row)).post fun r w' hsame => ?_
    exact Prog.onOk_iff.mpr fun _ _ => hsame ▸ hw₃

/-- Where nothing fails, the members of a group can all be taken out. -/
theorem succeeds_takeOut {existing : List String} (hsame : SameGroups w w')
    (hin : ∀ u ∈ existing, u ∈ users)
    (hw' : OnStores t g (fun f S S' => TakenOut f users existing S S') w w') :
    (existing.forM (removeFromGroup t g)).run.Sat (gateway env) faultless
      (Prog.Succeeds fun _ w' => SameGroups w w' ∧
        OnStores t g (fun f S S' => TakenOut f users [] S S') w w') w' := by
  refine (Prog.succeeds_run_forM (I := fun left w' => (∀ u ∈ left, u ∈ users) ∧ SameGroups w w' ∧
      OnStores t g (fun f S S' => TakenOut f users left S S') w w')
    (fun u left w₁ hI => ?_) ⟨hin, hsame, hw'⟩).post fun r w' hr => hr.mono fun _ _ h => h.2
  obtain ⟨hin, hsame, hout⟩ := hI
  refine succeeds_removeFromGroup.post fun r w₂ hr => hr.mono ?_
  rintro _ w₂ ⟨hsame', htook⟩
  refine ⟨fun v hv => hin v (List.mem_cons_of_mem u hv), hsame.trans hsame', ?_⟩
  exact hout.comp htook fun f S S' S'' _ h h' => h.remove (hin u List.mem_cons_self) h'

/-- Where nothing fails, the members of a group can all be put back. -/
theorem succeeds_putBack (hw : Gathered t g n users w) (hsame : SameGroups w w')
    (hw' : OnStores t g (fun f S S' => PutBack f users S S') w w') :
    (users.forM fun u => addUserToGroup t u g).run.Sat (gateway env) faultless
      (Prog.Succeeds fun _ w' => SameAccess w w') w' := by
  refine (Prog.succeeds_run_forM (I := fun left w' => (left.Nodup ∧ ∀ u ∈ left, u ∈ users) ∧
      SameGroups w w' ∧ OnStores t g (fun f S S' => PutBack f left S S') w w')
    (fun u left w₁ hI => ?_) ⟨⟨hw.nodup, fun u hu => hu⟩, hsame, hw'⟩).post ?_
  · obtain ⟨⟨hnodup, hin⟩, hsame, hback⟩ := hI
    obtain ⟨hu, hnodup⟩ := List.nodup_cons.mp hnodup
    have huser := hin u List.mem_cons_self
    refine (succeeds_addUserToGroup (hsame.userMapped.mpr (hw.mapped u huser))
      (hsame.hasGroup.mpr hw.group) (hback.2.1.2 u List.mem_cons_self)).post fun r w₂ hr => hr.mono ?_
    rintro _ w₂ ⟨hsame', hput⟩
    refine ⟨⟨hnodup, fun v hv => hin v (List.mem_cons_of_mem u hv)⟩, hsame.trans hsame', ?_⟩
    exact hback.comp hput fun f S S' S'' hf h h' => h.add hf hu h'
  · rintro r w₂ hr
    refine hr.mono ?_
    rintro _ w₂ ⟨-, hsame, hmembers, hgroupTuples, htuples⟩
    exact ⟨hsame.groups, hmembers.same, hgroupTuples.same, htuples.same⟩

/-- Where nothing fails, a group is loaded. -/
theorem succeeds_loadGroup (row : ScimGroupRow) :
    (loadGroup t row).run.Sat (gateway env) faultless (Prog.Succeeds fun _ w' => w' = w) w := by
  unfold loadGroup
  refine Prog.succeeds_run_bind (P := fun _ w' => w' = w) (Prog.succeeds_run_orThrow
    (sat_faultless_perform fun c hc => ?_)) ?_
  · obtain ⟨users, husers⟩ := gateway_listMembers_faultless env (g := row.id) (w := w) hc
    exact Prog.succeeds_iff.mpr ⟨users, husers, (gateway_listMembers_ok husers).1⟩
  rintro users w' hsame
  subst w'
  refine Prog.succeeds_run_bind (P := fun _ w' => w' = w) (Prog.sat_run_attempt.mpr
    (sat_scimReads (Prog.calls_mapM fun u _ => ?_))) fun _ _ h => h
  exact calls_loadMember (fun _ hop => hop) t u

/-- **A second replacement** of the members of a group changes nothing. -/
theorem succeeds_updateGroup_again {ctx : RequestContext} {input : ScimGroup}
    (hreq : requireGroup ctx (some input) = .ok (t, input))
    (hw : Gathered t g input.displayName (usersOf input.members) w) :
    (updateGroup ctx g (some input)).run.Sat (gateway env) faultless
      (Prog.Succeeds fun _ w' => SameAccess w w') w := by
  unfold updateGroup
  rw [hreq]
  refine Prog.succeeds_run_bind (P := fun pair w' => pair = (t, input) ∧ w' = w) ⟨rfl, rfl⟩ ?_
  rintro _ w' ⟨rfl, hsame⟩
  subst w'
  refine Prog.succeeds_run_bind (P := fun _ w' =>
      w' = { w with directory := w.directory.renameGroup t g input.displayName })
    (Prog.succeeds_run_orThrow (sat_faultless_perform fun c hc => ?_)) ?_
  · obtain ⟨row, hrow⟩ := gateway_updateGroup_faultless env input.displayName hc hw.group
    exact Prog.succeeds_iff.mpr ⟨row, hrow, (gateway_updateGroup_ok hrow).2⟩
  rintro row w₁ hw₁
  have hsame₁ : SameGroups w w₁ := by
    subst hw₁
    exact ⟨hw.named, rfl⟩
  have hstart : ∀ existing : List String, (∀ u ∈ usersOf input.members, u ∈ existing) →
      OnStores t g (fun f S S' => TakenOut f (usersOf input.members) existing S S') w w₁ := by
    intro existing hin
    subst hw₁
    exact ⟨takenOut_start hin, takenOut_start hin, takenOut_start hin⟩
  have hmembers : ∀ u, (g, u) ∈ w₁.directory.groupMembers ↔ u ∈ usersOf input.members := by
    subst hw₁
    exact hw.members
  refine Prog.succeeds_run_bind (P := fun _ w' => w' = w₁) (Prog.succeeds_run_orThrow
    (sat_faultless_perform fun c hc => Prog.succeeds_iff.mpr
      ⟨(), gateway_ensureGroupNamespace_faultless hc, gateway_ensureGroupNamespace_same c _⟩)) ?_
  rintro _ w' hsame
  subst w'
  refine Prog.succeeds_run_bind (P := fun existing w' => w' = w₁ ∧
      ∀ u, (g, u) ∈ w₁.directory.groupMembers ↔ u ∈ existing)
    (Prog.succeeds_run_orThrow (sat_faultless_perform fun c hc => ?_)) ?_
  · obtain ⟨users, husers⟩ := gateway_listMembers_faultless env (g := g) (w := w₁) hc
    exact Prog.succeeds_iff.mpr ⟨users, husers, gateway_listMembers_ok husers⟩
  rintro existing w' ⟨hsame, hexisting⟩
  subst w'
  have hlisted : ∀ u, u ∈ existing ↔ u ∈ usersOf input.members :=
    fun u => (hexisting u).symm.trans (hmembers u)
  refine Prog.succeeds_run_bind (succeeds_takeOut hsame₁ (fun u => (hlisted u).mp)
    (hstart existing fun u => (hlisted u).mpr)) ?_
  rintro _ w₂ ⟨hsame₂, hout⟩
  refine Prog.succeeds_run_bind (P := fun _ w' => SameAccess w w') ?_ fun _ w₃ hw₃ => ?_
  · rw [addMembers_eq]
    refine succeeds_putBack hw hsame₂ ⟨hout.1.putBack ?_, hout.2.1.putBack hw.groupTuples,
      hout.2.2.putBack hw.tuples⟩
    exact fun u hu => (hw.members u).mpr hu
  · refine (succeeds_loadGroup row).post fun r w' hr => hr.mono ?_
    rintro _ w' rfl
    exact hw₃

end groups

/-! ## Users in groups -/

/-- No tuple of `scim_group` is deleted. -/
def GatewayOp.KeepsGroupTuples (op : GatewayOp) : Prop :=
  ∀ t g u, op ≠ .directory (.deleteGroupTuple t g u)

theorem keepsGroupTuples_of_isScimRead (op : GatewayOp) (hop : op.IsScimRead) :
    op.KeepsGroupTuples := by
  rintro t g u rfl
  exact hop.elim

theorem keepsGroupTuples_of_isGroupCall (op : GatewayOp) (hop : op.IsGroupCall) :
    op.KeepsGroupTuples := by
  rintro t g u rfl
  exact hop.elim

section users

variable {env : Env} {w : World} {t g u : String} {x : String × String × String}

theorem mem_groupTuples_kept {op : GatewayOp} (hop : op.KeepsGroupTuples) (c : Choice)
    (hx : x ∈ w.directory.groupTuples) : x ∈ (gateway env op c w).2.directory.groupTuples := by
  by_cases hspares : op.SparesGroups
  · rw [(undisturbed_of_spares env hspares c w).1]
    exact hx
  have hwrite : ∀ {α : Type} (r : Except DbError Directory) (a : α),
      (∀ d', r = .ok d' → d'.groupTuples = w.directory.groupTuples) →
      x ∈ (w.directory.write c r a).2.groupTuples := by
    intro α r a hr
    unfold Directory.write
    rcases Fault.answer_snd (c.fault 0) with h | h
    · rw [h]
      exact hx
    · rw [h]
      cases r with
      | ok d' =>
          dsimp only
          rw [hr d' rfl]
          exact hx
      | error e => exact hx
  have hanswer : ∀ {ε α : Type} (report : OryClientError → ε) (r : Except ε α × Directory),
      x ∈ r.2.groupTuples →
      x ∈ (Fault.answer report w.directory r (c.fault 0)).2.groupTuples := by
    intro ε α report r hr
    rcases Fault.answer_snd (c.fault 0) with h | h
    · rw [h]
      exact hx
    · rw [h]
      exact hr
  cases op with
  | entitlement op => exact hx
  | directory op =>
      cases op with
      | upsertMembership => exact hanswer _ _ hx
      | createGroup =>
          exact hwrite _ _ fun d' hd' => (Directory.member_insertGroup (t := "") (g := "") (u := "") hd').2
      | updateGroup t g n =>
          refine hanswer _ _ ?_
          split
          · exact hx
          · exact hx
      | deleteGroup t' g' =>
          exact hwrite _ _ fun d' hd' => (Directory.member_deleteGroup (t := "") (g := "") (u := "") hd').2.2
      | addMember t' g' u' =>
          exact hwrite _ _ fun d' hd' => (Directory.member_insertMember (t := "") (g := "") (u := "") hd').2
      | removeMember | removeUserFromAllGroups =>
          refine hwrite _ _ fun d' hd' => ?_
          cases hd'
          rfl
      | createGroupTuple =>
          refine hanswer _ _ ?_
          split
          · exact hx
          · exact List.mem_insert_of_mem hx
      | deleteGroupTuple t g u => exact absurd rfl (hop t g u)
      | _ => exact absurd trivial hspares
  | _ => exact absurd trivial hspares

/-- The tuple is still there, if it was there. -/
def Kept (x : String × String × String) (w w' : World) : Prop :=
  x ∈ w.directory.groupTuples → x ∈ w'.directory.groupTuples

/-- A part that deletes no tuple of `scim_group`. -/
theorem onOk_kept {ε α : Type} {p : ExceptT ε (Prog Gateway) α}
    (hp : p.run.Calls GatewayOp.KeepsGroupTuples) {w₀ : World} (h : Kept x w₀ w) :
    p.run.Sat (gateway env) anyGatewayRun (Prog.OnOk fun _ w' => Kept x w₀ w') w := by
  have hsat : p.run.Sat (gateway env) anyGatewayRun (fun _ w' => Kept x w₀ w') w := by
    refine hp.sat (I := fun w' => Kept x w₀ w') (fun w₁ w₂ h hrely => ?_) (fun op c w₁ hop h _ => ?_) h
    · cases hrely
      exact h
    · exact ⟨trivial, fun hx => mem_groupTuples_kept hop c (h hx)⟩
  exact hsat.post fun _ _ h => Prog.onOk_iff.mpr fun _ _ => h

/-- **Groups of a user.** Where duplicates are rejected, the first group cannot have had the tuple of the
user before, and it has it afterwards. -/
theorem ok_replaceGroups_fresh (hdup : env.rejectsDuplicates = true) (rest : List String) :
    (replaceGroups t u (g :: rest)).run.Sat (gateway env) anyGatewayRun (Prog.OnOk fun _ w' =>
      (t, g, u) ∉ w.directory.groupTuples ∧ (t, g, u) ∈ w'.directory.groupTuples) w := by
  unfold replaceGroups
  rw [if_neg (List.cons_ne_nil g rest)]
  have hstart : Kept (t, g, u) w w := id
  refine Prog.onOk_run_bind (onOk_kept (Prog.calls_run_orThrow (Prog.calls_perform (by
    simp [GatewayOp.KeepsGroupTuples]))) hstart) fun old w₁ h₁ => ?_
  refine Prog.onOk_run_bind (onOk_kept (Prog.calls_run_orThrow (Prog.calls_perform (by
    simp [GatewayOp.KeepsGroupTuples]))) h₁) fun _ w₂ h₂ => ?_
  refine Prog.onOk_run_bind (onOk_kept (Prog.calls_run_forM fun g' _ => Prog.calls_run_orThrow
    (Prog.calls_perform (by simp [GatewayOp.KeepsGroupTuples]))) h₂) fun _ w₃ h₃ => ?_
  have hcons : ((g :: rest).forM (addUserToGroup t u)) =
      addUserToGroup t u g >>= fun _ => rest.forM (addUserToGroup t u) := rfl
  rw [hcons]
  refine Prog.onOk_run_bind (ok_addUserToGroup_joined hdup) fun _ w₄ hjoined => ?_
  have hin : (t, g, u) ∈ w₄.directory.groupTuples := (hjoined.stores.2.1 _).mpr (.inr rfl)
  have hkept : Kept (t, g, u) w₄ w₄ := id
  refine (onOk_kept (Prog.calls_run_forM fun g' _ => calls_addUserToGroup
    keepsGroupTuples_of_isGroupCall t u g') hkept).post fun r w' hr => hr.mono ?_
  intro _ w' hw'
  exact ⟨fun hbefore => hjoined.fresh (h₃ hbefore), hw' hin⟩

/-- The same of `update_user`. -/
theorem ok_updateUser_fresh (hdup : env.rejectsDuplicates = true) {compile : SchemaCompiler}
    {ctx : RequestContext} {input : ScimUser} (hreq : requireUser ctx (some input) = .ok (t, input))
    {rest : List String} (hgroups : input.groups = g :: rest) :
    (updateUser compile ctx u (some input)).run.Sat (gateway env) anyGatewayRun (Prog.OnOk fun _ w' =>
      (t, g, u) ∉ w.directory.groupTuples ∧ (t, g, u) ∈ w'.directory.groupTuples) w := by
  unfold updateUser
  rw [hreq]
  refine Prog.onOk_run_bind (P := fun pair w' => pair = (t, input) ∧ w' = w)
    (Prog.onOk_run_mk fun pair hpair => ⟨(Except.ok.inj hpair).symm, rfl⟩) ?_
  rintro _ w' ⟨rfl, hsame⟩
  subst w'
  have hstart : Kept (t, g, u) w w := id
  refine Prog.onOk_run_bind (onOk_kept (calls_resolveUser keepsGroupTuples_of_isScimRead t u) hstart)
    fun oryId w₁ h₁ => ?_
  refine Prog.onOk_run_bind (onOk_kept (calls_resolveSchema keepsGroupTuples_of_isScimRead t "") h₁)
    fun schema w₂ h₂ => ?_
  refine Prog.onOk_run_bind (P := fun _ w' => Kept (t, g, u) w w') (Prog.onOk_run_mk fun _ _ => h₂)
    fun _ w₃ h₃ => ?_
  refine Prog.onOk_run_bind (onOk_kept (Prog.calls_run_orThrow (Prog.calls_perform (by
    simp [GatewayOp.KeepsGroupTuples]))) h₃) fun _ w₄ h₄ => ?_
  rw [hgroups]
  refine Prog.onOk_run_bind (ok_replaceGroups_fresh hdup rest) ?_
  rintro _ w₅ ⟨hfresh, hin⟩
  have hkept : Kept (t, g, u) w₅ w₅ := id
  refine (onOk_kept (calls_loadUser keepsGroupTuples_of_isScimRead t u) hkept).post
    fun r w' hr => hr.mono ?_
  intro _ w' hw'
  exact ⟨fun hbefore => hfresh (h₄ hbefore), hw' hin⟩

end users

/-! ## Users without groups -/

/-- What an update of a user that names no groups finds. -/
structure Updatable (compile : SchemaCompiler) (t u : String) (input : ScimUser) (w : World) : Prop where
  identity : ∃ m ∈ w.db.idMappings, (m.tenantId = t ∧ m.backend = .kratos ∧ m.publicId = u) ∧
    (w.kratos.identities.lookup m.oryGlobalId).isSome = true
  schema : ∃ s, w.directory.schemas.find? (fun s => s.tenantId = t ∧ s.isDefault = true) = some s ∧
    validateTraits compile s.schemaJson (scimUserToTraits input) = .ok ()

section plain

variable {env : Env} {c : Choice} {w : World} {t u : String} {compile : SchemaCompiler} {input : ScimUser}

/-- The default schema is found. -/
theorem gateway_getDefaultSchema_ok {s : IdentitySchemaRow}
    (h : (gateway env (.directory (.getDefaultSchema t)) c w).1 = .ok s) :
    w.directory.schemas.find? (fun s => s.tenantId = t ∧ s.isDefault = true) = some s := by
  simp only [gateway, directoryHandler] at h
  obtain ⟨-, hs⟩ := Fault.answer_ok h
  dsimp only at hs
  cases hfound : w.directory.schemas.find? fun s => s.tenantId = t ∧ s.isDefault = true with
  | some s' =>
      rw [hfound] at hs
      exact congrArg some (Except.ok.inj hs)
  | none =>
      rw [hfound] at hs
      cases hs

theorem gateway_getDefaultSchema_faultless (env : Env) {s : IdentitySchemaRow} (hc : c.FaultFree)
    (hs : w.directory.schemas.find? (fun s => s.tenantId = t ∧ s.isDefault = true) = some s) :
    (gateway env (.directory (.getDefaultSchema t)) c w).1 = .ok s := by
  simp only [gateway, directoryHandler, hc 0, Fault.answer_none, hs]
  rfl

/-- An update leaves all but Kratos alone, and Kratos with the identity. -/
theorem gateway_updateIdentity_ok {o : String} {payload v : Value}
    (h : (gateway env (.kratos (.updateIdentity o payload)) c w).1 = .ok v) :
    ∃ k, (gateway env (.kratos (.updateIdentity o payload)) c w).2 = { w with kratos := k } ∧
      (k.identities.lookup o).isSome = true := by
  simp only [gateway, kratosHandler, oryAnswer] at h ⊢
  obtain ⟨hf, hr⟩ := Fault.answer_ok h
  rw [hf, Fault.answer_none]
  cases hfound : w.kratos.identities.lookup o with
  | none =>
      rw [hfound] at hr
      cases hr
  | some old => exact ⟨_, rfl, by simp⟩

theorem gateway_updateIdentity_faultless (env : Env) {o : String} (payload : Value) (hc : c.FaultFree)
    (ho : (w.kratos.identities.lookup o).isSome = true) :
    ∃ v, (gateway env (.kratos (.updateIdentity o payload)) c w).1 = .ok v := by
  obtain ⟨old, hold⟩ := Option.isSome_iff_exists.mp ho
  simp [gateway, kratosHandler, oryAnswer, hc 0, hold]

theorem gateway_getIdentity_faultless (env : Env) {o : String} (hc : c.FaultFree)
    (ho : (w.kratos.identities.lookup o).isSome = true) :
    ∃ v, (gateway env (.kratos (.getIdentity o)) c w).1 = .ok v := by
  obtain ⟨old, hold⟩ := Option.isSome_iff_exists.mp ho
  simp [gateway, kratosHandler, oryAnswer, lookupObject, hc 0, hold]

theorem ok_resolveUser :
    (resolveUser t u).run.Sat (gateway env) anyGatewayRun (Prog.OnOk fun o w' => w' = w ∧
      ∃ m ∈ w.db.idMappings, (m.tenantId = t ∧ m.backend = .kratos ∧ m.publicId = u) ∧
        m.oryGlobalId = o) w := by
  unfold resolveUser
  refine Prog.onOk_run_bind (P := fun o w' => w' = w ∧ ∃ m ∈ w.db.idMappings,
      (m.tenantId = t ∧ m.backend = .kratos ∧ m.publicId = u) ∧ m.oryGlobalId = o)
    (Prog.onOk_run_orThrow (sat_anyGatewayRun_perform fun c => Prog.onOk_iff.mpr fun o ho =>
      ⟨gateway_getOryId_same c w, gateway_getOryId_ok ho⟩)) ?_
  rintro o w' ⟨hsame, hm⟩
  subst w'
  refine Prog.onOk_run_bind (P := fun _ w' => w' = w) (Prog.onOk_run_attempt
    (sat_anyGatewayRun_perform fun c => gateway_of_isScimRead (by trivial) env c w)) ?_
  rintro _ w' hsame
  exact ⟨hsame, hm⟩

/-- A success has found it all. -/
theorem ok_updateUser_updatable {ctx : RequestContext}
    (hreq : requireUser ctx (some input) = .ok (t, input)) (hgroups : input.groups = []) :
    (updateUser compile ctx u (some input)).run.Sat (gateway env) anyGatewayRun
      (Prog.OnOk fun _ w' => Updatable compile t u input w') w := by
  unfold updateUser
  rw [hreq]
  refine Prog.onOk_run_bind (P := fun pair w' => pair = (t, input) ∧ w' = w)
    (Prog.onOk_run_mk fun pair hpair => ⟨(Except.ok.inj hpair).symm, rfl⟩) ?_
  rintro _ w' ⟨rfl, hsame⟩
  subst w'
  refine Prog.onOk_run_bind ok_resolveUser ?_
  rintro o w' ⟨hsame, m, hm, hP, ho⟩
  subst w'
  refine Prog.onOk_run_bind (P := fun s w' => w' = w ∧
      w.directory.schemas.find? (fun s => s.tenantId = t ∧ s.isDefault = true) = some s)
    (Prog.onOk_run_orThrow (sat_anyGatewayRun_perform fun c => Prog.onOk_iff.mpr fun s hs =>
      ⟨gateway_of_isScimRead (by trivial) env c w, gateway_getDefaultSchema_ok hs⟩)) ?_
  rintro s w' ⟨hsame, hs⟩
  subst w'
  refine Prog.onOk_run_bind (P := fun _ w' => w' = w ∧
      validateTraits compile s.schemaJson (scimUserToTraits input) = .ok ())
    (Prog.onOk_run_mk fun _ hvalid => ⟨rfl, hvalid⟩) ?_
  rintro _ w' ⟨hsame, hvalid⟩
  subst w'
  refine Prog.onOk_run_bind (P := fun _ w' => ∃ k, w' = { w with kratos := k } ∧
      (k.identities.lookup o).isSome = true)
    (Prog.onOk_run_orThrow (sat_anyGatewayRun_perform fun c => Prog.onOk_iff.mpr fun v hv =>
      gateway_updateIdentity_ok hv)) ?_
  rintro _ _ ⟨k, rfl, hk⟩
  have hready : Updatable compile t u input { w with kratos := k } :=
    ⟨⟨m, hm, hP, ho ▸ hk⟩, s, hs, hvalid⟩
  refine Prog.onOk_run_bind (P := fun _ w' => w' = { w with kratos := k }) ?_ ?_
  · unfold replaceGroups
    rw [if_pos hgroups]
    exact Prog.onOk_run_pure rfl
  rintro _ _ rfl
  refine (sat_scimReads (calls_loadUser (fun _ hop => hop) t u)).post fun r w' hsame => ?_
  exact Prog.onOk_iff.mpr fun _ _ => hsame ▸ hready

/-- Where nothing fails, a known user is found. -/
theorem gateway_getOryId_found (env : Env) {m : IdMappingRow} (hc : c.FaultFree)
    (hm : m ∈ w.db.idMappings) (hP : m.tenantId = t ∧ m.backend = .kratos ∧ m.publicId = u) :
    (gateway env (.mapping (.getOryId t .kratos u)) c w).1 = .ok m.oryGlobalId := by
  obtain ⟨o, ho⟩ := gateway_getOryId_mapped env hc ⟨m, hm, hP⟩
  obtain ⟨m', hm', hP', rfl⟩ := gateway_getOryId_ok ho
  obtain rfl := Db.mapping_unique hm hm' (.inl (hP.2.2.trans hP'.2.2.symm))
  exact ho

theorem succeeds_loadUser {m : IdMappingRow} (hm : m ∈ w.db.idMappings)
    (hP : m.tenantId = t ∧ m.backend = .kratos ∧ m.publicId = u)
    (hidentity : (w.kratos.identities.lookup m.oryGlobalId).isSome = true) :
    (loadUser t u).run.Sat (gateway env) faultless (Prog.Succeeds fun _ w' => w' = w) w := by
  unfold loadUser
  refine Prog.succeeds_run_bind (P := fun o w' => o = m.oryGlobalId ∧ w' = w)
    (Prog.succeeds_run_orThrow (sat_faultless_perform fun c hc => Prog.succeeds_iff.mpr
      ⟨_, gateway_getOryId_found env hc hm hP, rfl, gateway_getOryId_same c w⟩)) ?_
  rintro _ w' ⟨rfl, hsame⟩
  subst w'
  refine Prog.succeeds_run_bind (P := fun _ w' => w' = w) (Prog.sat_run_attempt.mpr
    (sat_faultless_perform fun c _ => gateway_of_isScimRead (by trivial) env c w)) ?_
  rintro _ w' hsame
  subst w'
  refine Prog.succeeds_run_bind (P := fun _ w' => w' = w) (Prog.succeeds_run_orThrow
    (sat_faultless_perform fun c hc => Prog.succeeds_iff.mpr ?_)) ?_
  · obtain ⟨v, hv⟩ := gateway_getIdentity_faultless env hc hidentity
    exact ⟨v, hv, gateway_of_isScimRead (by trivial) env c w⟩
  rintro v w' hsame
  subst w'
  refine Prog.succeeds_run_bind (P := fun _ w' => w' = w) (Prog.succeeds_run_orThrow
    (sat_faultless_perform fun c hc => Prog.succeeds_iff.mpr ?_)) fun _ _ h => h
  have hok : ∃ groups, (gateway env (.directory (.listUserGroups u)) c w).1 = .ok groups := by
    simp [gateway, directoryHandler, hc 0]
  obtain ⟨groups, hgroups⟩ := hok
  exact ⟨groups, hgroups, gateway_of_isScimRead (by trivial) env c w⟩

/-- **A second update** of a user that names no groups leaves the groups alone. -/
theorem succeeds_updateUser_again {ctx : RequestContext}
    (hreq : requireUser ctx (some input) = .ok (t, input)) (hgroups : input.groups = [])
    (hw : Updatable compile t u input w) :
    (updateUser compile ctx u (some input)).run.Sat (gateway env) faultless
      (Prog.Succeeds fun _ w' => SameAccess w w') w := by
  obtain ⟨⟨m, hm, hP, hidentity⟩, s, hs, hvalid⟩ := hw
  unfold updateUser
  rw [hreq]
  refine Prog.succeeds_run_bind (P := fun pair w' => pair = (t, input) ∧ w' = w) ⟨rfl, rfl⟩ ?_
  rintro _ w' ⟨rfl, hsame⟩
  subst w'
  refine Prog.succeeds_run_bind (P := fun o w' => o = m.oryGlobalId ∧ w' = w) ?_ ?_
  · unfold resolveUser
    refine Prog.succeeds_run_bind (P := fun o w' => o = m.oryGlobalId ∧ w' = w)
      (Prog.succeeds_run_orThrow (sat_faultless_perform fun c hc => Prog.succeeds_iff.mpr
        ⟨_, gateway_getOryId_found env hc hm hP, rfl, gateway_getOryId_same c w⟩)) ?_
    rintro _ w' ⟨rfl, hsame⟩
    subst w'
    refine Prog.succeeds_run_bind (P := fun _ w' => w' = w) (Prog.sat_run_attempt.mpr
      (sat_faultless_perform fun c _ => gateway_of_isScimRead (by trivial) env c w)) ?_
    exact fun _ _ h => ⟨rfl, h⟩
  rintro _ w' ⟨rfl, hsame⟩
  subst w'
  refine Prog.succeeds_run_bind (P := fun r w' => r = s ∧ w' = w) (Prog.succeeds_run_orThrow
    (sat_faultless_perform fun c hc => Prog.succeeds_iff.mpr
      ⟨s, gateway_getDefaultSchema_faultless env hc hs, rfl,
        gateway_of_isScimRead (by trivial) env c w⟩)) ?_
  rintro r w' ⟨hr, hsame⟩
  subst r w'
  rw [hvalid]
  refine Prog.succeeds_run_bind (P := fun _ w' => w' = w) rfl ?_
  rintro _ w' hsame
  subst w'
  refine Prog.succeeds_run_bind (P := fun _ w' => ∃ k, w' = { w with kratos := k } ∧
      (k.identities.lookup m.oryGlobalId).isSome = true)
    (Prog.succeeds_run_orThrow (sat_faultless_perform fun c hc => Prog.succeeds_iff.mpr ?_)) ?_
  · obtain ⟨v, hv⟩ := gateway_updateIdentity_faultless env
      (.obj [("schema_id", .str s.schemaId), ("traits", scimUserToTraits input)]) hc hidentity
    exact ⟨v, hv, gateway_updateIdentity_ok hv⟩
  rintro _ _ ⟨k, rfl, hk⟩
  refine Prog.succeeds_run_bind (P := fun _ w' => w' = { w with kratos := k }) ?_ ?_
  · unfold replaceGroups
    rw [if_pos hgroups]
    rfl
  rintro _ _ rfl
  refine (succeeds_loadUser (w := { w with kratos := k }) hm hP hk).post fun r w' hr => hr.mono ?_
  rintro _ _ rfl
  exact ⟨rfl, fun _ => Iff.rfl, fun _ => Iff.rfl, fun _ => Iff.rfl⟩

end plain

/-! ## Repeating -/

section repeating

variable {env : Env} {w w' : World} {o : ℕ → Choice}

/-- What a success of an operation ensures, whatever was chosen. -/
theorem run_ok_of_sat {α : Type} {p : Service α} {P : World → Prop}
    (hp : p.run.Sat (gateway env) anyGatewayRun (Prog.OnOk fun _ w' => P w') w) {a : α}
    (hrun : p.run.run (gateway env) o w = (.ok a, w')) : P w' := by
  have hQ := hp.run_of_choices (o := o) fun _ _ _ => trivial
  rw [hrun] at hQ
  exact hQ

/-- What an operation that surely succeeds ensures where nothing fails. -/
theorem repeats_of_succeeds {p : Service Unit}
    (hp : p.run.Sat (gateway env) faultless (Prog.Succeeds fun _ w' => SameAccess w w') w) :
    RepeatsUnchanged env p w := by
  intro o ho
  have hQ := hp.run_of_choices (o := o) fun _ n _ => ho n
  obtain ⟨a, ha, hsame⟩ := Prog.succeeds_iff.mp hQ
  exact ⟨ha, hsame⟩

theorem requireGroup_ok {ctx : RequestContext} {group : Option ScimGroup} {t : String} {input : ScimGroup}
    (h : requireGroup ctx group = .ok (t, input)) : group = some input := by
  unfold requireGroup at h
  cases htenant : requireTenantScope ctx scopeScimAdmin with
  | error e =>
      rw [htenant] at h
      cases h
  | ok tenant =>
      rw [htenant] at h
      cases group with
      | none => cases h
      | some group =>
          cases h
          rfl

/-- Users put into groups cannot be put there again. -/
theorem user_repeats_iff (hdup : env.rejectsDuplicates = true) (compile : SchemaCompiler)
    (ctx : RequestContext) (u : String) (input : ScimUser)
    (hrun : ((ScimReplace.user u input).prog compile ctx).run.run (gateway env) o w = (.ok (), w')) :
    RepeatsUnchanged env ((ScimReplace.user u input).prog compile ctx) w' ↔ input.groups = [] := by
  obtain ⟨t, hreq⟩ : ∃ t, requireUser ctx (some input) = .ok (t, input) := by
    cases hreq : requireUser ctx (some input) with
    | ok pair =>
        obtain ⟨t, input'⟩ := pair
        obtain rfl := Option.some.inj (requireUser_ok hreq)
        exact ⟨t, rfl⟩
    | error e =>
        have hnever : ((ScimReplace.user u input).prog compile ctx).run.Sat (gateway env) anyGatewayRun
            (Prog.OnOk fun _ _ => False) w := by
          refine Prog.onOk_run_bind (P := fun _ _ => False) ?_ fun _ _ h => h.elim
          unfold updateUser
          rw [hreq]
          trivial
        exact (run_ok_of_sat hnever hrun).elim
  constructor
  · intro hrepeats
    by_contra hgroups
    obtain ⟨g, rest, hcons⟩ := List.exists_cons_of_ne_nil hgroups
    have hfresh : ∀ w, ((ScimReplace.user u input).prog compile ctx).run.Sat (gateway env) anyGatewayRun
        (Prog.OnOk fun _ w' => (t, g, u) ∉ w.directory.groupTuples ∧
          (t, g, u) ∈ w'.directory.groupTuples) w :=
      fun w => Prog.onOk_run_bind (ok_updateUser_fresh hdup hreq hcons) fun _ _ h => h
    -- the tuple that the first run has written is there when the second starts
    obtain ⟨hok, -⟩ := hrepeats smoothly smoothly_faultFree
    exact (run_ok_of_sat (hfresh w') (Prod.ext hok rfl)).1 (run_ok_of_sat (hfresh w) hrun).2
  · intro hgroups
    have hready : ((ScimReplace.user u input).prog compile ctx).run.Sat (gateway env) anyGatewayRun
        (Prog.OnOk fun _ w' => Updatable compile t u input w') w :=
      Prog.onOk_run_bind (ok_updateUser_updatable hreq hgroups) fun _ _ h => h
    exact repeats_of_succeeds (Prog.succeeds_run_bind
      (succeeds_updateUser_again hreq hgroups (run_ok_of_sat hready hrun)) fun _ _ h => h)

/-- Members of a group can be put there again. -/
theorem group_repeats (hdup : env.rejectsDuplicates = true) (compile : SchemaCompiler)
    (ctx : RequestContext) (g : String) (input : ScimGroup)
    (hrun : ((ScimReplace.group g input).prog compile ctx).run.run (gateway env) o w = (.ok (), w')) :
    RepeatsUnchanged env ((ScimReplace.group g input).prog compile ctx) w' := by
  cases hreq : requireGroup ctx (some input) with
  | error e =>
      have hnever : ((ScimReplace.group g input).prog compile ctx).run.Sat (gateway env) anyGatewayRun
          (Prog.OnOk fun _ _ => False) w := by
        refine Prog.onOk_run_bind (P := fun _ _ => False) ?_ fun _ _ h => h.elim
        unfold updateGroup
        rw [hreq]
        trivial
      exact (run_ok_of_sat hnever hrun).elim
  | ok pair =>
      obtain ⟨t, input'⟩ := pair
      obtain rfl := Option.some.inj (requireGroup_ok hreq)
      have hgathered : ((ScimReplace.group g input).prog compile ctx).run.Sat (gateway env) anyGatewayRun
          (Prog.OnOk fun _ w' =>
            Gathered t g input.displayName (usersOf input.members) w') w :=
        Prog.onOk_run_bind (ok_updateGroup_gathered hdup hreq) fun _ _ h => h
      exact repeats_of_succeeds (Prog.succeeds_run_bind
        (succeeds_updateGroup_again hreq (run_ok_of_sat hgathered hrun)) fun _ _ h => h)

end repeating

/-- **Repeating.** On a backend that rejects a tuple it has, an operation that has succeeded can be repeated,
and changes nothing then, exactly if it does not put a user into groups: that one leaves the old tuples, and
its repetition fails where it writes the first of them again. -/
theorem scim_replace_repeats {env : Env} (hdup : env.rejectsDuplicates = true) (compile : SchemaCompiler)
    (ctx : RequestContext) (req : ScimReplace) {o : ℕ → Choice} {w w' : World}
    (hrun : (req.prog compile ctx).run.run (gateway env) o w = (.ok (), w')) :
    RepeatsUnchanged env (req.prog compile ctx) w' ↔ ¬ req.PutsUserIntoGroups := by
  cases req with
  | user u input =>
      rw [user_repeats_iff hdup compile ctx u input hrun]
      unfold ScimReplace.PutsUserIntoGroups
      exact not_not.symm
  | group g input =>
      exact iff_of_true (group_repeats hdup compile ctx g input hrun) id

/-- The tenant has a group and a user. -/
def aliceOutside : List ScimStep :=
  [scimStep "g" (.createGroup (some ⟨"", "staff", [], none⟩)),
    scimStep "u" (.createUser (some (alice [])))]

/-- The tenant's SCIM admin. -/
def acmeScimAdmin : RequestContext := ⟨some "acme", some ⟨"acme", "root", .user, ["scim:admin"]⟩⟩

/-- A replacement in which nothing fails. -/
def replaceAtAcme (req : ScimReplace) (w : World) : Except ServiceError Unit × World :=
  (req.prog acceptAny acmeScimAdmin).run.run (gateway openFga) smoothly w

/-- The group with its one member. -/
def staffWithAlice : ScimReplace := .group "g0" ⟨"", "staff", [⟨"u2", "", "User"⟩], none⟩

/-- The members of the group are put there twice. -/
theorem scim_replace_repeats_group :
    ∃ w, scimRun openFga acceptAny aliceOutside acmeDirectory = some w ∧
      RepeatsUnchanged openFga (staffWithAlice.prog acceptAny acmeScimAdmin)
        (replaceAtAcme staffWithAlice w).2 := by
  have hsome : (scimRun openFga acceptAny aliceOutside acmeDirectory).isSome = true := by
    decide +kernel
  have hok : ∀ w ∈ scimRun openFga acceptAny aliceOutside acmeDirectory,
      (replaceAtAcme staffWithAlice w).1 = .ok () := by
    decide +kernel
  obtain ⟨w, hw⟩ := Option.isSome_iff_exists.mp hsome
  have hrun : (staffWithAlice.prog acceptAny acmeScimAdmin).run.run (gateway openFga) smoothly w =
      (.ok (), (replaceAtAcme staffWithAlice w).2) := Prod.ext (hok w hw) rfl
  exact ⟨w, hw, (scim_replace_repeats rfl acceptAny acmeScimAdmin staffWithAlice hrun).mpr id⟩

/-- The user is put into the group. -/
def aliceEnters : ScimReplace := .user "u2" (alice ["g0"])

/-- **Put twice.** A user is put into a group, which succeeds. The same request fails when it is made again,
and the user is then no longer in the group. -/
theorem scim_repeated_put_expels :
    (scimRun openFga acceptAny aliceOutside acmeDirectory).isSome = true ∧
    ∀ w ∈ scimRun openFga acceptAny aliceOutside acmeDirectory,
      (replaceAtAcme aliceEnters w).1 = .ok () ∧
      Entitled (replaceAtAcme aliceEnters w).2.tuples "acme" "g0" "u2" ∧
      (replaceAtAcme aliceEnters (replaceAtAcme aliceEnters w).2).1 ≠ .ok () ∧
      ¬ Entitled (replaceAtAcme aliceEnters (replaceAtAcme aliceEnters w).2).2.tuples "acme" "g0" "u2" := by
  decide +kernel

end SsoGateway
