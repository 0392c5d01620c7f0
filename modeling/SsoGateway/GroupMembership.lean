import SsoGateway.ScimCalls

/-!
# SCIM membership in three stores

Who is in a SCIM group is kept three times: as rows of `scim_group_members`, as membership tuples of
the entitlement store, and as tuples of the namespace `scim_group`. The six operations of the SCIM
service write them in separate calls.

* `AgreeOn` — the three stores agree about one group of a tenant.
* `ScimStep`, `scimRun` — sequences of operations that all succeed.
* `Tidy` — the condition: no operation takes a user out of all groups at once while it is in one,
  and the permission backend carries the tuple deletes out.
* `scim_stores_agree` — under it the stores agree after every sequence.
* `scim_delete_user_leaves_tuple` — a user who is deleted while in a group.
-/

namespace SsoGateway

open Lib

/-! ## The three stores -/

/-- The user has a row in a group of the tenant. -/
def Directory.Member (d : Directory) (t g u : String) : Prop :=
  d.HasGroup t g ∧ (g, u) ∈ d.groupMembers

instance (d : Directory) (t g u : String) : Decidable (d.Member t g u) :=
  inferInstanceAs (Decidable (_ ∧ _))

/-- The entitlement store has the user as a member of the group. -/
def Entitled (tuples : List StoredTuple) (t g u : String) : Prop :=
  (⟨t, entitlementKey g memberRel u⟩ : StoredTuple) ∈ tuples

instance (tuples : List StoredTuple) (t g u : String) : Decidable (Entitled tuples t g u) :=
  inferInstanceAs (Decidable (_ ∈ tuples))

/-- The stores agree about who is in a group of a tenant. -/
def AgreeOn (w : World) (t g : String) : Prop :=
  ∀ u, (w.directory.Member t g u ↔ Entitled w.tuples t g u) ∧
    (Entitled w.tuples t g u ↔ (t, g, u) ∈ w.directory.groupTuples)

/-- The user is in no group. -/
def Groupless (w : World) (u : String) : Prop := ∀ m ∈ w.directory.groupMembers, m.2 ≠ u

instance (w : World) (u : String) : Decidable (Groupless w u) :=
  inferInstanceAs (Decidable (∀ m ∈ w.directory.groupMembers, _))

/-- What the stores say depends on the tables of groups and on the tuples only. -/
theorem AgreeOn.congr {w w' : World} {t g : String} (h : AgreeOn w t g)
    (hdirectory : w'.directory = w.directory) (htuples : w'.tuples = w.tuples) :
    AgreeOn w' t g := by
  unfold AgreeOn
  rw [hdirectory, htuples]
  exact h

/-- A group id belongs to one tenant. -/
theorem Directory.hasGroup_unique {d : Directory} {t t' g : String} (h : d.HasGroup t g)
    (h' : d.HasGroup t' g) : t = t' := by
  obtain ⟨row, hrow, rfl, rfl⟩ := h
  obtain ⟨row', hrow', rfl, hid⟩ := h'
  have hsymm : Std.Symm fun g g' : ScimGroupRow => g.id ≠ g'.id := ⟨fun _ _ h => Ne.symm h⟩
  by_contra hne
  exact d.groupKey.forall hrow hrow' (fun h => hne (by rw [h])) hid.symm

/-! ## What a statement does to the members -/

namespace Directory

variable {d d' : Directory} {t t' g g' u u' : String}

/-- A new group has no members. -/
theorem member_insertGroup {row : ScimGroupRow} (h : d.insertGroup row = .ok d') :
    (d'.Member t g u ↔ d.Member t g u) ∧ d'.groupTuples = d.groupTuples := by
  unfold insertGroup at h
  split at h
  · rename_i hkey
    cases h
    refine ⟨?_, rfl⟩
    unfold Member HasGroup
    constructor
    · rintro ⟨⟨r, hr, ht, hg⟩, hm⟩
      refine ⟨?_, hm⟩
      rcases List.mem_cons.mp hr with rfl | hr
      · obtain ⟨r', hr', hid⟩ := d.memberGroup _ hm
        exact absurd (hg.trans hid.symm) ((List.pairwise_cons.mp hkey).1 r' hr')
      · exact ⟨r, hr, ht, hg⟩
    · rintro ⟨⟨r, hr, ht, hg⟩, hm⟩
      exact ⟨⟨r, List.mem_cons_of_mem row hr, ht, hg⟩, hm⟩
  · cases h

@[simp] theorem hasGroup_renameGroup (n : String) :
    (d.renameGroup t' g' n).HasGroup t g ↔ d.HasGroup t g := by
  unfold HasGroup renameGroup
  simp

theorem member_renameGroup (n : String) :
    (d.renameGroup t' g' n).Member t g u ↔ d.Member t g u :=
  and_congr_left fun _ => hasGroup_renameGroup n

/-- A group is deleted with its members. -/
theorem member_deleteGroup (h : d.deleteGroup t' g' = .ok d') :
    d.HasGroup t' g' ∧ (d'.Member t g u ↔ d.Member t g u ∧ g ≠ g') ∧
      d'.groupTuples = d.groupTuples := by
  unfold deleteGroup at h
  split at h
  · rename_i hgroup
    cases h
    refine ⟨hgroup, ?_, rfl⟩
    unfold Member HasGroup
    constructor
    · rintro ⟨⟨r, hr, ht, hg⟩, hm⟩
      obtain ⟨hm, hne⟩ := List.mem_filter.mp hm
      exact ⟨⟨⟨r, (List.mem_filter.mp hr).1, ht, hg⟩, hm⟩, by simpa using hne⟩
    · rintro ⟨⟨⟨r, hr, ht, hg⟩, hm⟩, hne⟩
      refine ⟨⟨r, List.mem_filter.mpr ⟨hr, ?_⟩, ht, hg⟩, List.mem_filter.mpr ⟨hm, ?_⟩⟩
      · simpa [hg] using hne
      · simpa using hne
  · cases h

theorem member_insertMember (h : d.insertMember t' g' u' = .ok d') :
    (d'.Member t g u ↔ d.Member t g u ∨ (t = t' ∧ g = g' ∧ u = u')) ∧
      d'.groupTuples = d.groupTuples := by
  unfold insertMember at h
  split at h
  · rename_i hgroup
    cases h
    refine ⟨?_, rfl⟩
    unfold Member
    constructor
    · rintro ⟨hg, hm⟩
      rcases List.mem_insert_iff.mp hm with heq | hm
      · cases heq
        exact .inr ⟨hasGroup_unique hg hgroup, rfl, rfl⟩
      · exact .inl ⟨hg, hm⟩
    · rintro (⟨hg, hm⟩ | ⟨rfl, rfl, rfl⟩)
      · exact ⟨hg, List.mem_insert_iff.mpr (.inr hm)⟩
      · exact ⟨hgroup, List.mem_insert_iff.mpr (.inl rfl)⟩
  · cases h

theorem member_keepMembers {keep : String × String → Bool} :
    (d.keepMembers keep).Member t g u ↔ d.Member t g u ∧ keep (g, u) = true := by
  unfold Member keepMembers HasGroup
  simp [and_assoc]

end Directory

/-! ## What a call does to the stores -/

section calls

variable {env : Env} {c : Choice} {w : World} {t g u : String}

theorem Directory.write_ok {α : Type} {d : Directory} {r : Except DbError Directory} {a x : α}
    (h : (d.write c r a).1 = .ok x) : x = a ∧ ∃ d', r = .ok d' ∧ (d.write c r a).2 = d' := by
  unfold Directory.write at h ⊢
  obtain ⟨hf, hr⟩ := Fault.answer_ok h
  rw [hf]
  cases r with
  | ok d' =>
      cases hr
      exact ⟨rfl, d', rfl, rfl⟩
  | error e => cases hr

theorem entitlementKey_inj {g g' u u' : String} :
    entitlementKey g memberRel u = entitlementKey g' memberRel u' ↔ g = g' ∧ u = u' := by
  simp [entitlementKey]

/-- A successful call has applied its batch. -/
theorem tuples_setGroupMembership {member : Bool} {a : Unit}
    (h : (gateway env (.entitlement (.setGroupMembership t g u member)) c w).1 = .ok a) :
    (gateway env (.entitlement (.setGroupMembership t g u member)) c w).2.tuples =
      if member then applyTuples w.tuples t [entitlementKey g memberRel u] []
      else applyTuples w.tuples t [] [entitlementKey g memberRel u] := by
  refine entitlementHandler_of_sat env c w.tuples
    (.setGroupMembership t g u member) (A := fun _ => True)
    (Q := fun r ts => r = .ok a → ts = if member
      then applyTuples w.tuples t [entitlementKey g memberRel u] []
      else applyTuples w.tuples t [] [entitlementKey g memberRel u]) (fun _ => trivial) ?_ h
  rw [EntitlementOp.method, EntitlementServiceImpl.setGroupMembership, Prog.sat_run_bind]
  refine EntitlementServiceImpl.sat_ensureNamespace ?_ ?_
  · cases member with
    | true => exact EntitlementServiceImpl.sat_ensureTuples (fun _ => rfl) fun _ e => by simp
    | false => exact EntitlementServiceImpl.sat_ensureTuples (fun _ => rfl) fun _ e => by simp
  · intro _ e he
    cases he

/-- The membership tuple is written or deleted, and no other. -/
theorem entitled_setGroupMembership {t' g' u' : String} {member : Bool} {a : Unit}
    (h : (gateway env (.entitlement (.setGroupMembership t' g' u' member)) c w).1 = .ok a) :
    Entitled (gateway env (.entitlement (.setGroupMembership t' g' u' member)) c w).2.tuples t g u ↔
      if t = t' ∧ g = g' ∧ u = u' then member = true else Entitled w.tuples t g u := by
  rw [tuples_setGroupMembership h]
  unfold Entitled
  by_cases hsame : t = t' ∧ g = g' ∧ u = u'
  · obtain ⟨rfl, rfl, rfl⟩ := hsame
    cases member with
    | true => simp [mem_applyTuples]
    | false => simp [mem_applyTuples]
  · have hkey : ¬ (t = t' ∧ entitlementKey g memberRel u = entitlementKey g' memberRel u') := by
      rw [entitlementKey_inj]
      exact hsame
    rw [if_neg hsame]
    cases member with
    | true => simpa [mem_applyTuples] using fun ht hk => absurd ⟨ht, hk⟩ hkey
    | false => simpa [mem_applyTuples] using fun _ ht hk => hkey ⟨ht, hk⟩

/-- A successful statement on groups, as a call of the gateway. -/
theorem gateway_write_ok (op : DirectoryOp) {α : Type} {r : Except DbError Directory} {a x : α}
    (hres : (directoryHandler env op c w.directory).2 = (w.directory.write c r a).2)
    (hok : (w.directory.write c r a).1 = .ok x) :
    x = a ∧ ∃ d', r = .ok d' ∧
      (gateway env (.directory op) c w).2 = { w with directory := d' } := by
  obtain ⟨hx, d', hd', hdirectory⟩ := Directory.write_ok hok
  exact ⟨hx, d', hd', by simp only [gateway, hres, hdirectory]⟩

/-- Only a group of the tenant is renamed. -/
theorem gateway_updateGroup_ok {n : String} {row : ScimGroupRow}
    (h : (gateway env (.directory (.updateGroup t g n)) c w).1 = .ok row) :
    w.directory.HasGroup t g ∧ (gateway env (.directory (.updateGroup t g n)) c w).2 =
      { w with directory := w.directory.renameGroup t g n } := by
  simp only [gateway, directoryHandler] at h ⊢
  obtain ⟨hf, hr⟩ := Fault.answer_ok h
  rw [hf, Fault.answer_none]
  rcases hfound : w.directory.findGroup t g with _ | found
  · rw [hfound] at hr
    cases hr
  · exact ⟨Directory.hasGroup_of_findGroup hfound, rfl⟩

/-- A tuple of `scim_group` is written. -/
theorem gateway_createGroupTuple_ok {a : Unit}
    (h : (gateway env (.directory (.createGroupTuple t g u)) c w).1 = .ok a) :
    (gateway env (.directory (.createGroupTuple t g u)) c w).2 = { w with directory :=
      { w.directory with groupTuples := w.directory.groupTuples.insert (t, g, u) } } := by
  simp only [gateway, directoryHandler] at h ⊢
  obtain ⟨hf, hr⟩ := Fault.answer_ok h
  rw [hf, Fault.answer_none]
  split at hr
  · cases hr
  · rename_i hnew
    rw [if_neg hnew]

/-- A tuple of `scim_group` is deleted, or was not there. -/
theorem gateway_deleteGroupTuple (env : Env) (w : World)
    (heffect : ∀ f ∈ c.fault 0, f.applied = true) :
    ∃ tuples, (gateway env (.directory (.deleteGroupTuple t g u)) c w).2 =
        { w with directory := { w.directory with groupTuples := tuples } } ∧
      ∀ x, x ∈ tuples ↔ x ∈ w.directory.groupTuples ∧ x ≠ (t, g, u) := by
  have happlied : ∀ {α : Type} (r : Except OryClientError α × Directory),
      (Fault.answer id w.directory r (c.fault 0)).2 = r.2 := by
    intro α r
    rcases hf : c.fault 0 with _ | f
    · rfl
    · simp [Fault.answer, heffect f hf]
  simp only [gateway, directoryHandler, happlied]
  split
  · rename_i habsent
    refine ⟨w.directory.groupTuples, rfl, fun x => ⟨fun hx => ⟨hx, ?_⟩, And.left⟩⟩
    rintro rfl
    exact habsent.2 hx
  · exact ⟨_, rfl, fun x => by simp⟩

end calls

/-! ## The contract -/

/-- The permission backend carries a tuple delete out, whether or not its answer arrives. -/
def GatewayOp.TakesEffect (c : Choice) : GatewayOp → Prop
  | .directory (.deleteGroupTuple _ _ _) => ∀ f ∈ c.fault 0, f.applied = true
  | _ => True

instance (c : Choice) (op : GatewayOp) : Decidable (op.TakesEffect c) := by
  unfold GatewayOp.TakesEffect
  split
  · exact inferInstance
  · exact inferInstance

/-- An operation runs alone, and its tuple deletes take effect. -/
def scimContract : Contract Gateway Choice World :=
  Contract.alone (fun op c _ => op.TakesEffect c) fun _ _ _ => True

/-- The calls that leave the groups and the tuples alone. -/
def GatewayOp.SparesGroups : GatewayOp → Prop
  | .entitlement _ => False
  | .directory (.getDefaultSchema _) => True
  | .directory (.getBySchemaId _ _) => True
  | .directory (.getMembership _ _) => True
  | .directory (.listMembers _) => True
  | .directory (.listUserGroups _) => True
  | .directory (.ensureGroupNamespace _) => True
  | .directory _ => False
  | _ => True

/-- The groups and the tuples are the same. -/
def Undisturbed (w w' : World) : Prop := w'.directory = w.directory ∧ w'.tuples = w.tuples

theorem AgreeOn.undisturbed {w w' : World} {t g : String} (h : AgreeOn w t g)
    (hw : Undisturbed w w') : AgreeOn w' t g := h.congr hw.1 hw.2

section programs

variable {env : Env} {w : World} {t g t' g' u' : String}

theorem undisturbed_of_spares (env : Env) {op : GatewayOp} (hop : op.SparesGroups) (c : Choice)
    (w : World) : Undisturbed w (gateway env op c w).2 := by
  cases op with
  | entitlement op => exact hop.elim
  | directory op =>
      refine ⟨?_, rfl⟩
      cases op with
      | upsertMembership | createGroup | updateGroup | deleteGroup | addMember | removeMember
      | removeUserFromAllGroups | createGroupTuple | deleteGroupTuple => exact hop.elim
      | _ => exact (Fault.answer_snd (c.fault 0)).elim id id
  | listTenants =>
      have h : (gateway env .listTenants c w).2 = w := (Fault.answer_snd (c.fault 0)).elim id id
      exact ⟨congrArg World.directory h, congrArg World.tuples h⟩
  | getOryToken t b ty p =>
      have h : (gateway env (.getOryToken t b ty p) c w).2 = w :=
        (Fault.answer_snd (c.fault 0)).elim id id
      exact ⟨congrArg World.directory h, congrArg World.tuples h⟩
  | getOryTokenGlobal b ty p =>
      have h : (gateway env (.getOryTokenGlobal b ty p) c w).2 = w :=
        (Fault.answer_snd (c.fault 0)).elim id id
      exact ⟨congrArg World.directory h, congrArg World.tuples h⟩
  | _ => exact ⟨rfl, rfl⟩

theorem sat_scim {op : GatewayOp} {Q : op.Res → World → Prop} :
    (Prog.perform (S := Gateway) op).Sat (gateway env) scimContract Q w ↔
      ∀ c, op.TakesEffect c → Q (gateway env op c w).1 (gateway env op c w).2 := by
  rw [Prog.sat_perform]
  constructor
  · intro h c hc
    exact (h w rfl c hc).2
  · rintro h w rfl c hc
    exact ⟨trivial, h c hc⟩

/-- A part that only makes such calls. -/
theorem sat_spares {α : Type} {p : Prog Gateway α} (hp : p.Calls GatewayOp.SparesGroups) :
    p.Sat (gateway env) scimContract (fun _ w' => Undisturbed w w') w := by
  refine hp.sat (I := Undisturbed w) ?_ ?_ ⟨rfl, rfl⟩
  · rintro w' _ hw' rfl
    exact hw'
  · intro op c w' hop hw' _
    obtain ⟨hdirectory, htuples⟩ := undisturbed_of_spares env hop c w'
    exact ⟨trivial, hdirectory.trans hw'.1, htuples.trans hw'.2⟩

theorem onOk_spares {ε α : Type} {x : ExceptT ε (Prog Gateway) α}
    (hx : x.run.Calls GatewayOp.SparesGroups) :
    x.run.Sat (gateway env) scimContract (Prog.OnOk fun _ w' => Undisturbed w w') w :=
  (sat_spares hx).post fun _ _ hw' => Prog.onOk_iff.mpr fun _ _ => hw'

/-! ## Adding and removing -/

/-- The stores after a user was added to a group of the tenant. -/
def Added (t' g' u' : String) (w w' : World) : Prop := ∀ t g u,
  (w'.directory.Member t g u ↔ w.directory.Member t g u ∨ (t = t' ∧ g = g' ∧ u = u')) ∧
  (Entitled w'.tuples t g u ↔ Entitled w.tuples t g u ∨ (t = t' ∧ g = g' ∧ u = u')) ∧
  ((t, g, u) ∈ w'.directory.groupTuples ↔
    (t, g, u) ∈ w.directory.groupTuples ∨ (t = t' ∧ g = g' ∧ u = u'))

theorem AgreeOn.added (h : AgreeOn w t g) {w' : World} (hadded : Added t' g' u' w w') :
    AgreeOn w' t g := by
  intro u
  obtain ⟨hrow, hentitled, htuple⟩ := hadded t g u
  rw [hrow, hentitled, htuple, (h u).1, (h u).2]
  exact ⟨Iff.rfl, Iff.rfl⟩

/-- **Adding.** The user is added to all three stores. -/
theorem ok_addUserToGroup (w : World) :
    (addUserToGroup t' u' g').run.Sat (gateway env) scimContract
      (Prog.OnOk fun _ w' => Added t' g' u' w w') w := by
  unfold addUserToGroup
  -- the user is known to the tenant
  refine Prog.onOk_run_bind (onOk_spares (Prog.calls_run_orThrow (Prog.calls_perform trivial)))
    fun _ w₁ hw₁ => ?_
  -- the row
  refine Prog.onOk_run_bind (P := fun _ w' => w'.tuples = w.tuples ∧
      w'.directory.groupTuples = w.directory.groupTuples ∧ ∀ t g u, w'.directory.Member t g u ↔
        w.directory.Member t g u ∨ (t = t' ∧ g = g' ∧ u = u'))
    (Prog.onOk_run_orThrow (sat_scim.mpr fun c _ => Prog.onOk_iff.mpr fun a ha => ?_))
    fun _ w₂ hw₂ => ?_
  · obtain ⟨-, d', hd', hafter⟩ := gateway_write_ok (.addMember t' g' u') rfl ha
    rw [hw₁.1] at hd'
    rw [hafter]
    exact ⟨hw₁.2, (Directory.member_insertMember (t := "") (g := "") (u := "") hd').2,
      fun t g u => (Directory.member_insertMember hd').1⟩
  refine Prog.onOk_run_bind (onOk_spares (Prog.calls_run_orThrow (Prog.calls_perform trivial)))
    fun _ w₃ hw₃ => ?_
  rw [← hw₃.1, ← hw₃.2] at hw₂
  obtain ⟨htuples, hgroupTuples, hmember⟩ := hw₂
  -- the tuple of `scim_group`
  refine Prog.onOk_run_bind (P := fun _ w' => w'.tuples = w.tuples ∧
      ∀ t g u, (w'.directory.Member t g u ↔
          w.directory.Member t g u ∨ (t = t' ∧ g = g' ∧ u = u')) ∧
        ((t, g, u) ∈ w'.directory.groupTuples ↔
          (t, g, u) ∈ w.directory.groupTuples ∨ (t = t' ∧ g = g' ∧ u = u')))
    (Prog.onOk_run_orThrow (sat_scim.mpr fun c _ => Prog.onOk_iff.mpr fun a ha => ?_))
    fun _ w₄ hw₄ => ?_
  · rw [gateway_createGroupTuple_ok ha]
    refine ⟨htuples, fun t g u => ⟨hmember t g u, ?_⟩⟩
    simp only [List.mem_insert_iff, Prod.mk.injEq, hgroupTuples]
    exact or_comm
  -- the entitlement
  refine Prog.onOk_run_orThrow (sat_scim.mpr fun c _ => Prog.onOk_iff.mpr fun a ha t g u => ?_)
  obtain ⟨hrow, htuple⟩ := hw₄.2 t g u
  refine ⟨hrow, ?_, htuple⟩
  rw [entitled_setGroupMembership ha, hw₄.1]
  split
  · rename_i hsame
    simp [hsame]
  · rename_i hother
    simp [hother]

/-- The stores after a user's tuples were taken out of a group of the tenant. -/
def Expelled (t' g' u' : String) (w w' : World) : Prop :=
  w'.directory.groups = w.directory.groups ∧
  w'.directory.groupMembers = w.directory.groupMembers ∧
  ∀ t g u, (Entitled w'.tuples t g u ↔
      Entitled w.tuples t g u ∧ ¬ (t = t' ∧ g = g' ∧ u = u')) ∧
    ((t, g, u) ∈ w'.directory.groupTuples ↔
      (t, g, u) ∈ w.directory.groupTuples ∧ ¬ (t = t' ∧ g = g' ∧ u = u'))

theorem Expelled.member {w w' : World} (h : Expelled t' g' u' w w') (t g u : String) :
    w'.directory.Member t g u ↔ w.directory.Member t g u := by
  unfold Directory.Member Directory.HasGroup
  rw [h.1, h.2.1]

/-- **Expelling.** Both tuples are deleted. -/
theorem ok_expelFromGroup (w : World) :
    (expelFromGroup t' g' u').run.Sat (gateway env) scimContract
      (Prog.OnOk fun _ w' => Expelled t' g' u' w w') w := by
  unfold expelFromGroup leaveGroup
  refine Prog.onOk_run_bind (P := fun _ w' => w'.directory = w.directory ∧ ∀ t g u,
      Entitled w'.tuples t g u ↔ Entitled w.tuples t g u ∧ ¬ (t = t' ∧ g = g' ∧ u = u'))
    (Prog.onOk_run_orThrow (sat_scim.mpr fun c _ => Prog.onOk_iff.mpr fun a ha => ?_))
    fun _ w₁ hw₁ => ?_
  · refine ⟨rfl, fun t g u => ?_⟩
    rw [entitled_setGroupMembership ha]
    split
    · rename_i hsame
      simp [hsame]
    · rename_i hother
      simp [hother]
  obtain ⟨hdirectory, hentitled⟩ := hw₁
  refine Prog.onOk_run_bind (P := fun _ w' => Expelled t' g' u' w w')
    (Prog.onOk_run_attempt (sat_scim.mpr fun c heffect => ?_)) fun _ _ hw' => hw'
  obtain ⟨tuples, hafter, hmem⟩ := gateway_deleteGroupTuple env w₁ heffect
  rw [hafter]
  have hgroups := congrArg Directory.groups hdirectory
  have hmembers := congrArg Directory.groupMembers hdirectory
  refine ⟨hgroups, hmembers, fun t g u => ⟨hentitled t g u, ?_⟩⟩
  simp [hmem, hdirectory]

/-- **Removing.** A user is taken out of a group of the tenant in all three stores. -/
theorem ok_removeFromGroup (hw : AgreeOn w t g) (hgroup : w.directory.HasGroup t' g') :
    (removeFromGroup t' g' u').run.Sat (gateway env) scimContract
      (Prog.OnOk fun _ w' => AgreeOn w' t g ∧ w'.directory.HasGroup t' g') w := by
  refine Prog.onOk_run_bind (P := fun _ w' => w'.tuples = w.tuples ∧
      w'.directory.groupTuples = w.directory.groupTuples ∧
      w'.directory.groups = w.directory.groups ∧
      ∀ u, w'.directory.Member t g u ↔ w.directory.Member t g u ∧ ¬ (g = g' ∧ u = u'))
    (Prog.onOk_run_orThrow (sat_scim.mpr fun c _ => Prog.onOk_iff.mpr fun a ha => ?_))
    fun _ w₁ hw₁ => ?_
  · obtain ⟨-, d', hd', hafter⟩ := gateway_write_ok (.removeMember g' u') rfl ha
    cases hd'
    rw [hafter]
    refine ⟨rfl, rfl, rfl, fun u => ?_⟩
    simp only [Directory.member_keepMembers, decide_eq_true_eq, ne_eq, Prod.mk.injEq]
  obtain ⟨htuples, hgroupTuples, hgroups, hmember⟩ := hw₁
  refine (ok_expelFromGroup w₁).post fun r w' hr => hr.mono fun _ w' hexpelled => ⟨fun u => ?_, ?_⟩
  · obtain ⟨hentitled, htuple⟩ := hexpelled.2.2 t g u
    rw [hexpelled.member, hmember, hentitled, htuple, htuples, hgroupTuples, (hw u).2]
    refine ⟨?_, Iff.rfl⟩
    rw [← (hw u).2, ← (hw u).1]
    -- a group of the same id belongs to the same tenant
    refine and_congr_right fun hin => not_congr ⟨fun hsame => ⟨?_, hsame⟩, And.right⟩
    obtain ⟨rfl, -⟩ := hsame
    exact Directory.hasGroup_unique hin.1 hgroup
  · unfold Directory.HasGroup
    rw [hexpelled.1, hgroups]
    exact hgroup

/-! ## Reading -/

theorem sparesGroups_of_isScimRead (op : GatewayOp) (hop : op.IsScimRead) : op.SparesGroups := by
  unfold GatewayOp.IsScimRead at hop
  split at hop
  case h_7 => exact hop.elim
  all_goals trivial

theorem spares_registerIdentity (tenantId : String) (payload : Value) :
    (registerIdentity tenantId payload).run.Calls GatewayOp.SparesGroups := by
  refine Prog.calls_run_bind (Prog.calls_run_orThrow (Prog.calls_perform trivial)) fun _ => ?_
  refine Prog.calls_run_bind trivial fun _ => ?_
  refine Prog.calls_run_bind (Prog.calls_run_attempt (Prog.calls_perform trivial)) fun _ => ?_
  exact Prog.calls_run_bind (Prog.calls_run_orThrow (Prog.calls_perform trivial)) fun _ => trivial

/-- Such a part after another one. -/
theorem Undisturbed.onOk_spares {w₀ : World} (hw : Undisturbed w₀ w) {ε α : Type}
    {x : ExceptT ε (Prog Gateway) α} (hx : x.run.Calls GatewayOp.SparesGroups) :
    x.run.Sat (gateway env) scimContract (Prog.OnOk fun _ w' => Undisturbed w₀ w') w := by
  refine (SsoGateway.onOk_spares hx).post fun _ _ hr => hr.mono fun _ w' hw' => ?_
  exact ⟨hw'.1.trans hw.1, hw'.2.trans hw.2⟩

/-- The end of an operation that answers with what it loads. -/
theorem AgreeOn.onOk_spares (hw : AgreeOn w t g) {ε α : Type} {x : ExceptT ε (Prog Gateway) α}
    (hx : x.run.Calls GatewayOp.SparesGroups) :
    x.run.Sat (gateway env) scimContract (Prog.OnOk fun _ w' => AgreeOn w' t g) w :=
  (SsoGateway.onOk_spares hx).post fun _ _ hr => hr.mono fun _ _ hw' => hw.undisturbed hw'

/-! ## Loops -/

/-- The user is added to each of the groups. -/
theorem ok_addToGroups (hw : AgreeOn w t g) (groups : List String) :
    (groups.forM (addUserToGroup t' u')).run.Sat (gateway env) scimContract
      (Prog.OnOk fun _ w' => AgreeOn w' t g) w := by
  refine Prog.onOk_run_forM (I := fun _ w => AgreeOn w t g) (fun g' _ w hw => ?_) hw
  exact (ok_addUserToGroup w).post fun _ _ hr => hr.mono fun _ _ hadded => hw.added hadded

/-- The users among the members are added to the group. -/
theorem ok_addMembers (hw : AgreeOn w t g) (members : List ScimMember) :
    (addMembers t' g' members).run.Sat (gateway env) scimContract
      (Prog.OnOk fun _ w' => AgreeOn w' t g) w := by
  refine Prog.onOk_run_forM (I := fun _ w => AgreeOn w t g) (fun member _ w hw => ?_) hw
  rw [Prog.sat_run_ite]
  split
  · exact (ok_addUserToGroup w).post fun _ _ hr => hr.mono fun _ _ hadded => hw.added hadded
  · exact Prog.onOk_run_pure hw

/-- The members are taken out of a group of the tenant. -/
theorem ok_removeMembers (hw : AgreeOn w t g) (hgroup : w.directory.HasGroup t' g')
    (users : List String) :
    (users.forM (removeFromGroup t' g')).run.Sat (gateway env) scimContract
      (Prog.OnOk fun _ w' => AgreeOn w' t g) w := by
  refine (Prog.onOk_run_forM
    (I := fun _ w => AgreeOn w t g ∧ w.directory.HasGroup t' g')
    (fun user _ w hw => ok_removeFromGroup hw.1 hw.2) ⟨hw, hgroup⟩).post ?_
  exact fun _ _ hr => hr.mono fun _ _ hw' => hw'.1

/-- Who is left in a group that is being emptied; other groups are as they were. -/
def EmptyingTo (t' g' : String) (left : List String) (t g : String) (w : World) : Prop :=
  if t = t' ∧ g = g' then
    ∀ u, (Entitled w.tuples t g u → u ∈ left) ∧ ((t, g, u) ∈ w.directory.groupTuples → u ∈ left)
  else AgreeOn w t g

theorem ok_expelMembers {users : List String} (hw : EmptyingTo t' g' users t g w) :
    (users.forM (expelFromGroup t' g')).run.Sat (gateway env) scimContract
      (Prog.OnOk fun _ w' => EmptyingTo t' g' [] t g w') w := by
  refine Prog.onOk_run_forM (I := fun left w => EmptyingTo t' g' left t g w)
    (fun user left w hw => ?_) hw
  refine (ok_expelFromGroup w).post fun _ _ hr => hr.mono fun _ w' hexpelled => ?_
  unfold EmptyingTo at hw ⊢
  split at hw
  · rename_i hsame
    rw [if_pos hsame]
    intro u
    obtain ⟨hentitled, htuple⟩ := hexpelled.2.2 t g u
    have hleft : u ∈ user :: left → ¬ (t = t' ∧ g = g' ∧ u = user) → u ∈ left := by
      intro hmem hne
      rcases List.mem_cons.mp hmem with rfl | hmem
      · exact absurd ⟨hsame.1, hsame.2, rfl⟩ hne
      · exact hmem
    constructor
    · intro h
      obtain ⟨h, hne⟩ := hentitled.mp h
      exact hleft ((hw u).1 h) hne
    · intro h
      obtain ⟨h, hne⟩ := htuple.mp h
      exact hleft ((hw u).2 h) hne
  · rename_i hother
    rw [if_neg hother]
    intro u
    obtain ⟨hentitled, htuple⟩ := hexpelled.2.2 t g u
    have hne : ¬ (t = t' ∧ g = g' ∧ u = user) := fun h => hother ⟨h.1, h.2.1⟩
    rw [hexpelled.member, hentitled, htuple]
    simpa [hne] using hw u

theorem AgreeOn.onOk_check (hw : AgreeOn w t g) {α : Type} (r : Except ServiceError α) :
    (check r).run.Sat (gateway env) scimContract (Prog.OnOk fun _ w' => AgreeOn w' t g) w :=
  Prog.onOk_run_mk fun _ _ => hw

/-! ## Operations -/

theorem ok_createUser (hw : AgreeOn w t g) (compile : SchemaCompiler) (ctx : RequestContext)
    (user : Option ScimUser) :
    (createUser compile ctx user).run.Sat (gateway env) scimContract
      (Prog.OnOk fun _ w' => AgreeOn w' t g) w := by
  refine Prog.onOk_run_bind (hw.onOk_check _) fun pair w hw => ?_
  refine Prog.onOk_run_bind (hw.onOk_spares (calls_resolveSchema sparesGroups_of_isScimRead _ _)) fun _ w hw => ?_
  refine Prog.onOk_run_bind (hw.onOk_check _) fun _ w hw => ?_
  refine Prog.onOk_run_bind (hw.onOk_spares (spares_registerIdentity _ _)) fun ids w hw => ?_
  refine Prog.onOk_run_bind (ok_addToGroups hw _) fun _ w hw => ?_
  exact hw.onOk_spares (calls_loadUser sparesGroups_of_isScimRead _ _)

/-- A user in no group has none to list. -/
theorem ok_listUserGroups {u : String} (hnone : Groupless w u) :
    (Prog.orThrow ServiceError.ofDbError (callDirectory (.listUserGroups u))).run.Sat (gateway env)
      scimContract (Prog.OnOk fun groups w' => groups = [] ∧ Undisturbed w w') w := by
  refine Prog.onOk_run_orThrow (sat_scim.mpr fun c _ => Prog.onOk_iff.mpr fun groups h => ?_)
  have hspares : GatewayOp.SparesGroups (.directory (.listUserGroups u)) := trivial
  refine ⟨?_, undisturbed_of_spares env hspares c w⟩
  have hempty : (w.directory.groupMembers.filter fun m => m.2 = u) = [] :=
    List.filter_eq_nil_iff.mpr fun m hm => by simpa using hnone m hm
  simp only [gateway, directoryHandler, hempty, List.map_nil] at h
  obtain ⟨-, hgroups⟩ := Fault.answer_ok h
  exact (Except.ok.inj hgroups).symm

/-- A user in no group has no rows to delete. -/
theorem ok_removeUserFromAllGroups {u : String} (hw : AgreeOn w t g) (hnone : Groupless w u) :
    (Prog.orThrow ServiceError.ofDbError (callDirectory (.removeUserFromAllGroups u))).run.Sat
      (gateway env) scimContract (Prog.OnOk fun _ w' => AgreeOn w' t g) w := by
  refine Prog.onOk_run_orThrow (sat_scim.mpr fun c _ => Prog.onOk_iff.mpr fun a ha => ?_)
  obtain ⟨-, d', hd', hafter⟩ := gateway_write_ok (.removeUserFromAllGroups u) rfl ha
  cases hd'
  rw [hafter]
  intro u'
  have hkept : w.directory.Member t g u' → (decide ((g, u').2 ≠ u) = true) := by
    intro hmember
    simpa using hnone _ hmember.2
  dsimp only
  rw [Directory.member_keepMembers, and_iff_left_of_imp hkept]
  exact hw u'

theorem ok_replaceGroups {u : String} {groups : List String} (hw : AgreeOn w t g)
    (hnone : groups ≠ [] → Groupless w u) :
    (replaceGroups t' u groups).run.Sat (gateway env) scimContract
      (Prog.OnOk fun _ w' => AgreeOn w' t g) w := by
  unfold replaceGroups
  by_cases hempty : groups = []
  · rw [if_pos hempty]
    exact Prog.onOk_run_pure hw
  rw [if_neg hempty]
  refine Prog.onOk_run_bind (ok_listUserGroups (hnone hempty)) fun old w₁ hw₁ => ?_
  obtain ⟨rfl, hsame⟩ := hw₁
  have hnone₁ : Groupless w₁ u := by
    unfold Groupless
    rw [hsame.1]
    exact hnone hempty
  refine Prog.onOk_run_bind (ok_removeUserFromAllGroups (hw.undisturbed hsame) hnone₁)
    fun _ w₂ hw₂ => ?_
  refine Prog.onOk_run_bind (P := fun _ w' => AgreeOn w' t g) hw₂ fun _ w₃ hw₃ => ?_
  exact ok_addToGroups hw₃ groups

theorem requireUser_ok {ctx : RequestContext} {user : Option ScimUser} {tenantId : String}
    {input : ScimUser} (h : requireUser ctx user = .ok (tenantId, input)) : user = some input := by
  unfold requireUser at h
  rcases htenant : requireTenantScope ctx scopeScimAdmin with e | tenant
  · rw [htenant] at h
    cases h
  · rw [htenant] at h
    cases user with
    | none => cases h
    | some user =>
        cases h
        rfl

theorem ok_updateUser (hw : AgreeOn w t g) (compile : SchemaCompiler) (ctx : RequestContext)
    {u : String} {user : Option ScimUser}
    (hnone : ∀ input ∈ user, input.groups ≠ [] → Groupless w u) :
    (updateUser compile ctx u user).run.Sat (gateway env) scimContract
      (Prog.OnOk fun _ w' => AgreeOn w' t g) w := by
  refine Prog.onOk_run_bind (P := fun pair w' => user = some pair.2 ∧ Undisturbed w w')
    (Prog.onOk_run_mk fun pair hpair => ⟨requireUser_ok hpair, rfl, rfl⟩) fun pair w₁ hw₁ => ?_
  obtain ⟨huser, hsame₁⟩ := hw₁
  refine Prog.onOk_run_bind (hsame₁.onOk_spares (calls_resolveUser sparesGroups_of_isScimRead _ _)) fun _ w₂ hsame₂ => ?_
  refine Prog.onOk_run_bind (hsame₂.onOk_spares (calls_resolveSchema sparesGroups_of_isScimRead _ _)) fun _ w₃ hsame₃ => ?_
  refine Prog.onOk_run_bind (Prog.onOk_run_mk fun _ _ => hsame₃) fun _ w₄ hsame₄ => ?_
  refine Prog.onOk_run_bind
    (hsame₄.onOk_spares (Prog.calls_run_orThrow (Prog.calls_perform trivial)))
    fun _ w₅ hsame₅ => ?_
  refine Prog.onOk_run_bind (ok_replaceGroups (hw.undisturbed hsame₅) fun hgroups => ?_)
    fun _ w₆ hw₆ => hw₆.onOk_spares (calls_loadUser sparesGroups_of_isScimRead _ _)
  unfold Groupless
  rw [hsame₅.1]
  exact hnone pair.2 huser hgroups

theorem ok_deleteUser (hw : AgreeOn w t g) (ctx : RequestContext) {u : String}
    (hnone : Groupless w u) :
    (deleteUser ctx u).run.Sat (gateway env) scimContract
      (Prog.OnOk fun _ w' => AgreeOn w' t g) w := by
  refine Prog.onOk_run_bind (P := fun _ w' => Undisturbed w w')
    (Prog.onOk_run_mk fun _ _ => ⟨rfl, rfl⟩) fun _ w₁ hsame₁ => ?_
  refine Prog.onOk_run_bind
    (hsame₁.onOk_spares (Prog.calls_run_orThrow (Prog.calls_perform trivial)))
    fun _ w₂ hsame₂ => ?_
  have hnone₂ : ∀ {w' : World}, Undisturbed w w' → Groupless w' u := by
    intro w' hsame
    unfold Groupless
    rw [hsame.1]
    exact hnone
  refine Prog.onOk_run_bind (ok_listUserGroups (hnone₂ hsame₂)) fun groups w₃ hw₃ => ?_
  obtain ⟨rfl, hsame₃⟩ := hw₃
  have hsame : Undisturbed w w₃ := ⟨hsame₃.1.trans hsame₂.1, hsame₃.2.trans hsame₂.2⟩
  refine Prog.onOk_run_bind (P := fun _ w' => Undisturbed w w') hsame fun _ w₄ hsame₄ => ?_
  refine Prog.onOk_run_bind
    (ok_removeUserFromAllGroups (hw.undisturbed hsame₄) (hnone₂ hsame₄)) fun _ w₅ hw₅ => ?_
  refine hw₅.onOk_spares (Prog.calls_run_bind
    (Prog.calls_run_orThrow (Prog.calls_perform trivial)) fun _ => ?_)
  exact Prog.calls_run_orThrow (Prog.calls_perform trivial)

theorem ok_createGroup (hw : AgreeOn w t g) (ctx : RequestContext) (group : Option ScimGroup) :
    (createGroup ctx group).run.Sat (gateway env) scimContract
      (Prog.OnOk fun _ w' => AgreeOn w' t g) w := by
  refine Prog.onOk_run_bind (hw.onOk_check _) fun pair w hw => ?_
  refine Prog.onOk_run_bind (P := fun _ w' => AgreeOn w' t g)
    (Prog.onOk_run_orThrow (sat_scim.mpr fun c _ => Prog.onOk_iff.mpr fun row hrow u => ?_))
    fun row w hw => ?_
  · obtain ⟨-, d', hd', hafter⟩ :=
      gateway_write_ok (.createGroup pair.1 pair.2.displayName) rfl hrow
    obtain ⟨hmember, htuples⟩ := Directory.member_insertGroup (t := t) (g := g) (u := u) hd'
    rw [hafter]
    dsimp only
    rw [hmember, htuples]
    exact hw u
  refine Prog.onOk_run_bind (ok_addMembers hw _) fun _ w hw => ?_
  exact hw.onOk_spares (calls_loadGroup sparesGroups_of_isScimRead _ _)

theorem ok_updateGroup (hw : AgreeOn w t g) (ctx : RequestContext) (g' : String)
    (group : Option ScimGroup) :
    (updateGroup ctx g' group).run.Sat (gateway env) scimContract
      (Prog.OnOk fun _ w' => AgreeOn w' t g) w := by
  refine Prog.onOk_run_bind (hw.onOk_check _) fun pair w hw => ?_
  refine Prog.onOk_run_bind (P := fun _ w' => AgreeOn w' t g ∧ w'.directory.HasGroup pair.1 g')
    (Prog.onOk_run_orThrow (sat_scim.mpr fun c _ => Prog.onOk_iff.mpr fun row hrow => ?_))
    fun row w₁ hw₁ => ?_
  · obtain ⟨hgroup, hafter⟩ := gateway_updateGroup_ok hrow
    rw [hafter]
    refine ⟨fun u => ?_, (Directory.hasGroup_renameGroup _).mpr hgroup⟩
    dsimp only
    rw [Directory.member_renameGroup]
    exact hw u
  obtain ⟨hw₁, hgroup⟩ := hw₁
  refine Prog.onOk_run_bind (P := fun _ w' => AgreeOn w' t g ∧ w'.directory.HasGroup pair.1 g')
    ((onOk_spares (Prog.calls_run_orThrow (Prog.calls_perform trivial))).post
      fun _ _ hr => hr.mono fun _ w' hsame => ⟨hw₁.undisturbed hsame, hsame.1 ▸ hgroup⟩)
    fun _ w₂ hw₂ => ?_
  refine Prog.onOk_run_bind (P := fun _ w' => AgreeOn w' t g ∧ w'.directory.HasGroup pair.1 g')
    ((onOk_spares (Prog.calls_run_orThrow (Prog.calls_perform trivial))).post
      fun _ _ hr => hr.mono fun _ w' hsame => ⟨hw₂.1.undisturbed hsame, hsame.1 ▸ hw₂.2⟩)
    fun existing w₃ hw₃ => ?_
  refine Prog.onOk_run_bind (ok_removeMembers hw₃.1 hw₃.2 existing) fun _ w₄ hw₄ => ?_
  refine Prog.onOk_run_bind (ok_addMembers hw₄ _) fun _ w₅ hw₅ => ?_
  exact hw₅.onOk_spares (calls_loadGroup sparesGroups_of_isScimRead _ _)

/-- The listed members are all that a group has. -/
theorem ok_listMembers (hw : AgreeOn w t g) (t' g' : String) :
    (Prog.orThrow ServiceError.ofDbError (callDirectory (.listMembers g'))).run.Sat (gateway env)
      scimContract (Prog.OnOk fun users w' => EmptyingTo t' g' users t g w') w := by
  refine Prog.onOk_run_orThrow (sat_scim.mpr fun c _ => Prog.onOk_iff.mpr fun users h => ?_)
  have hspares : GatewayOp.SparesGroups (.directory (.listMembers g')) := trivial
  have hagree := hw.undisturbed (undisturbed_of_spares env hspares c w)
  have hdirectory := (undisturbed_of_spares env hspares c w).1
  unfold EmptyingTo
  split
  · rename_i hsame
    obtain ⟨-, rfl⟩ := hsame
    have hlisted : ∀ u, w.directory.Member t g u → u ∈ users := by
      intro u hmember
      simp only [gateway, directoryHandler] at h
      obtain ⟨-, husers⟩ := Fault.answer_ok h
      rw [← Except.ok.inj husers]
      exact List.mem_map.mpr ⟨(g, u), List.mem_filter.mpr ⟨hmember.2, by simp⟩, rfl⟩
    rw [← hdirectory] at hlisted
    intro u
    obtain ⟨hrow, htuple⟩ := hagree u
    exact ⟨fun h => hlisted u (hrow.mpr h), fun h => hlisted u (hrow.mpr (htuple.mpr h))⟩
  · exact hagree

/-- An emptied group is deleted. -/
theorem EmptyingTo.deleteGroup (hw : EmptyingTo t' g' [] t g w) {d' : Directory}
    (hd' : w.directory.deleteGroup t' g' = .ok d') : AgreeOn { w with directory := d' } t g := by
  intro u
  obtain ⟨hgroup, hmember, htuples⟩ := Directory.member_deleteGroup (t := t) (g := g) (u := u) hd'
  dsimp only
  rw [hmember, htuples]
  unfold EmptyingTo at hw
  split at hw
  · rename_i hsame
    obtain ⟨hentitled, htuple⟩ := hw u
    constructor
    · exact iff_of_false (fun h => h.2 hsame.2) fun h => List.not_mem_nil (hentitled h)
    · exact iff_of_false (fun h => List.not_mem_nil (hentitled h))
        fun h => List.not_mem_nil (htuple h)
  · rename_i hother
    -- a group of the same id would belong to the same tenant
    have hne : w.directory.Member t g u → g ≠ g' := by
      rintro hin rfl
      exact hother ⟨Directory.hasGroup_unique hin.1 hgroup, rfl⟩
    rw [and_iff_left_of_imp hne]
    exact hw u

theorem ok_deleteGroup (hw : AgreeOn w t g) (ctx : RequestContext) (g' : String) :
    (deleteGroup ctx g').run.Sat (gateway env) scimContract
      (Prog.OnOk fun _ w' => AgreeOn w' t g) w := by
  refine Prog.onOk_run_bind (hw.onOk_check _) fun tenantId w hw => ?_
  refine Prog.onOk_run_bind (hw.onOk_spares (Prog.calls_run_orThrow (Prog.calls_perform trivial)))
    fun _ w hw => ?_
  refine Prog.onOk_run_bind (ok_listMembers hw tenantId g') fun users w hw => ?_
  refine Prog.onOk_run_bind (ok_expelMembers hw) fun _ w hw => ?_
  refine Prog.onOk_run_orThrow (sat_scim.mpr fun c _ => Prog.onOk_iff.mpr fun a ha => ?_)
  obtain ⟨-, d', hd', hafter⟩ := gateway_write_ok (.deleteGroup tenantId g') rfl ha
  rw [hafter]
  exact hw.deleteGroup hd'

end programs

/-! ## Sequences of operations -/

/-- The operations of the SCIM service that write. -/
inductive ScimCall where
  | createUser (user : Option ScimUser)
  | updateUser (id : String) (user : Option ScimUser)
  | deleteUser (id : String)
  | createGroup (group : Option ScimGroup)
  | updateGroup (id : String) (group : Option ScimGroup)
  | deleteGroup (id : String)

/-- The program of an operation; what it answers is not looked at. -/
def ScimCall.prog (compile : SchemaCompiler) (ctx : RequestContext) : ScimCall → Service Unit
  | .createUser user => (fun _ => ()) <$> SsoGateway.createUser compile ctx user
  | .updateUser id user => (fun _ => ()) <$> SsoGateway.updateUser compile ctx id user
  | .deleteUser id => SsoGateway.deleteUser ctx id
  | .createGroup group => (fun _ => ()) <$> SsoGateway.createGroup ctx group
  | .updateGroup id group => (fun _ => ()) <$> SsoGateway.updateGroup ctx id group
  | .deleteGroup id => SsoGateway.deleteGroup ctx id

/-- An operation of a sequence: who calls it, and the choices for its calls. -/
structure ScimStep where
  ctx : RequestContext
  call : ScimCall
  choices : ℕ → Choice

/-- The result of an operation and the world after it. -/
def ScimStep.result (env : Env) (compile : SchemaCompiler) (w : World) (s : ScimStep) :
    Except ServiceError Unit × World :=
  (s.call.prog compile s.ctx).run.run (gateway env) s.choices w

/-- The calls of an operation. -/
def ScimStep.events (env : Env) (compile : SchemaCompiler) (w : World) (s : ScimStep) :
    List (Event Gateway Choice World) :=
  (s.call.prog compile s.ctx).run.events (gateway env) s.choices w

/-- The world after a sequence of operations, if all of them succeed. -/
def scimRun (env : Env) (compile : SchemaCompiler) : List ScimStep → World → Option World
  | [], w => some w
  | s :: steps, w =>
      match s.result env compile w with
      | (.ok _, w') => scimRun env compile steps w'
      | (.error _, _) => none

/-- The operation does not take a user who is in a group out of all groups: a user is deleted, or
given other groups, only while in none. -/
def ScimCall.KeepsGroups (w : World) : ScimCall → Prop
  | .updateUser id user => ∀ input ∈ user, input.groups ≠ [] → Groupless w id
  | .deleteUser id => Groupless w id
  | _ => True

instance (w : World) (call : ScimCall) : Decidable (call.KeepsGroups w) := by
  unfold ScimCall.KeepsGroups
  split
  · exact inferInstance
  · exact inferInstance
  · exact inferInstance

/-- The condition on a sequence: no operation takes a user out of all groups, and the permission
backend carries the tuple deletes out. -/
def Tidy (env : Env) (compile : SchemaCompiler) : List ScimStep → World → Prop
  | [], _ => True
  | s :: steps, w =>
      s.call.KeepsGroups w ∧ (∀ ev ∈ s.events env compile w, ev.op.TakesEffect ev.choice) ∧
        Tidy env compile steps (s.result env compile w).2

/-- **One operation** keeps the stores in agreement if it succeeds. -/
theorem ok_prog {env : Env} {w : World} {t g : String} (hw : AgreeOn w t g)
    (compile : SchemaCompiler) (ctx : RequestContext) {call : ScimCall}
    (hcall : call.KeepsGroups w) :
    (call.prog compile ctx).run.Sat (gateway env) scimContract
      (Prog.OnOk fun _ w' => AgreeOn w' t g) w := by
  cases call with
  | createUser user => exact Prog.onOk_run_map (ok_createUser hw compile ctx user)
  | updateUser id user => exact Prog.onOk_run_map (ok_updateUser hw compile ctx hcall)
  | deleteUser id => exact ok_deleteUser hw ctx hcall
  | createGroup group => exact Prog.onOk_run_map (ok_createGroup hw ctx group)
  | updateGroup id group => exact Prog.onOk_run_map (ok_updateGroup hw ctx id group)
  | deleteGroup id => exact ok_deleteGroup hw ctx id

/-- **The three stores agree.** From any state in which they do, such as one without the group, and
after every sequence of successful operations, with any member lists and under any faults: if no
operation takes a user out of all groups while it is in one, and the tuple deletes take effect, then
a user has a row in a group of a tenant if and only if the entitlement store has the user as a
member, if and only if the permission backend has the tuple. -/
theorem scim_stores_agree (env : Env) (compile : SchemaCompiler) (steps : List ScimStep)
    {w w' : World} {t g : String} (hw : AgreeOn w t g)
    (hrun : scimRun env compile steps w = some w') (htidy : Tidy env compile steps w) :
    AgreeOn w' t g := by
  induction steps generalizing w with
  | nil =>
      cases hrun
      exact hw
  | cons s steps ih =>
      obtain ⟨hcall, heffect, htidy⟩ := htidy
      have hok : (s.call.prog compile s.ctx).run.Sat (gateway env) scimContract
          (Prog.OnOk fun _ w' => AgreeOn w' t g) w := ok_prog hw compile s.ctx hcall
      obtain ⟨-, hafter⟩ := hok.run_events (fun _ => rfl) heffect
      unfold scimRun at hrun
      split at hrun
      · rename_i _ w₁ hresult
        have hw₁ : AgreeOn w₁ t g := by
          unfold ScimStep.result at hresult
          rw [hresult] at hafter
          exact hafter
        rw [hresult] at htidy
        exact ih hw₁ hrun htidy
      · cases hrun

instance (env : Env) (compile : SchemaCompiler) : (steps : List ScimStep) → (w : World) →
    Decidable (Tidy env compile steps w)
  | [], _ => isTrue trivial
  | s :: steps, w =>
      have := instDecidableTidy env compile steps (s.result env compile w).2
      inferInstanceAs (Decidable (_ ∧ _ ∧ _))

/-! ## A user in a group -/

/-- A tenant with a default schema. -/
def acmeDirectory : World :=
  { World.empty [⟨"acme"⟩] with
    directory := { Directory.empty with schemas := [⟨"acme", "default", 1, .obj [], true⟩] } }

/-- The parameters under which the permission backend is OpenFGA. -/
def openFga : Env := ⟨fun _ _ => 0, 5, true⟩

/-- The validator that accepts every document. -/
def acceptAny : SchemaCompiler := fun _ => .ok fun _ => .ok ()

/-- An operation of the tenant's SCIM admin in which nothing fails; ids are numbered. -/
def scimStep (idStart : String) (call : ScimCall) : ScimStep where
  ctx := ⟨some "acme", some ⟨"acme", "root", .user, ["scim:admin"]⟩⟩
  call := call
  choices n := Choice.plain (idStart ++ toString n) 0

/-- A user of the given groups. -/
def alice (groups : List String) : ScimUser :=
  ⟨"", "alice", none, [.obj [("value", .str "alice@example.com")]], true, groups, none⟩

/-- A group is created, and a user in it. -/
def aliceJoins : List ScimStep :=
  [scimStep "g" (.createGroup (some ⟨"", "staff", [], none⟩)),
    scimStep "u" (.createUser (some (alice ["g0"])))]

/-- A user who is taken out of the group before being deleted. -/
def aliceLeaves : List ScimStep :=
  aliceJoins ++ [scimStep "x" (.updateGroup "g0" (some ⟨"", "staff", [], none⟩)),
    scimStep "y" (.deleteUser "u2")]

/-- The user joins, leaves and is deleted. -/
theorem scim_stores_agree_leaving :
    (scimRun openFga acceptAny aliceLeaves acmeDirectory).isSome = true ∧
    ∀ w' ∈ scimRun openFga acceptAny aliceLeaves acmeDirectory, AgreeOn w' "acme" "g0" := by
  constructor
  · decide
  · intro w' hw'
    refine scim_stores_agree openFga acceptAny aliceLeaves (w := acmeDirectory) (fun u => ?_) hw'
      (by decide)
    simp [Directory.Member, Directory.HasGroup, Entitled, acmeDirectory, Directory.empty,
      World.empty]

/-- The user is deleted while in the group: the row and the entitlement go, the tuple stays. -/
theorem scim_delete_user_leaves_tuple :
    (scimRun openFga acceptAny (aliceJoins ++ [scimStep "y" (.deleteUser "u2")]) acmeDirectory).map
      (fun w' => (decide (w'.directory.Member "acme" "g0" "u2"),
        decide (Entitled w'.tuples "acme" "g0" "u2"),
        decide (("acme", "g0", "u2") ∈ w'.directory.groupTuples))) =
      some (false, false, true) := by
  decide

end SsoGateway
