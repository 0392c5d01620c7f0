import SsoGateway.Scim
import SsoGateway.Steps

/-!
# The calls of the SCIM service

Which calls the parts of the SCIM operations can make, whatever the answers, for an arbitrary
predicate on calls. The results that only depend on the kind of a call are read off these lemmas.
-/

namespace SsoGateway

open Lib

/-- The reads of the SCIM service. -/
def GatewayOp.IsScimRead : GatewayOp → Prop
  | .mapping (.getOryId _ _ _) => True
  | .kratos (.getIdentity _) => True
  | .directory (.getDefaultSchema _) => True
  | .directory (.getBySchemaId _ _) => True
  | .directory (.listMembers _) => True
  | .directory (.listUserGroups _) => True
  | _ => False

/-- The calls of the SCIM service about groups, and its reads. -/
def GatewayOp.IsGroupCall : GatewayOp → Prop
  | .directory (.addMember _ _ _) => True
  | .directory (.removeUserFromAllGroups _) => True
  | .directory (.ensureGroupNamespace _) => True
  | .directory (.createGroupTuple _ _ _) => True
  | .entitlement (.setGroupMembership _ _ _ _) => True
  | op => op.IsScimRead

section calls

variable {P : GatewayOp → Prop}

theorem calls_resolveSchema (hP : ∀ op, op.IsScimRead → P op) (tenantId schemaId : String) :
    (resolveSchema tenantId schemaId).run.Calls P := by
  unfold resolveSchema
  split
  · exact Prog.calls_run_orThrow (Prog.calls_perform (hP _ trivial))
  · exact Prog.calls_run_orThrow (Prog.calls_perform (hP _ trivial))

theorem calls_resolveUser (hP : ∀ op, op.IsScimRead → P op) (tenantId publicId : String) :
    (resolveUser tenantId publicId).run.Calls P := by
  refine Prog.calls_run_bind (Prog.calls_run_orThrow (Prog.calls_perform (hP _ trivial)))
    fun _ => ?_
  exact Prog.calls_run_bind (Prog.calls_run_attempt (Prog.calls_perform (hP _ trivial)))
    fun _ => trivial

theorem calls_loadUser (hP : ∀ op, op.IsScimRead → P op) (tenantId publicId : String) :
    (loadUser tenantId publicId).run.Calls P := by
  refine Prog.calls_run_bind (Prog.calls_run_orThrow (Prog.calls_perform (hP _ trivial)))
    fun _ => ?_
  refine Prog.calls_run_bind (Prog.calls_run_attempt (Prog.calls_perform (hP _ trivial)))
    fun _ => ?_
  refine Prog.calls_run_bind (Prog.calls_run_orThrow (Prog.calls_perform (hP _ trivial)))
    fun _ => ?_
  exact Prog.calls_run_bind (Prog.calls_run_orThrow (Prog.calls_perform (hP _ trivial)))
    fun _ => trivial

theorem calls_loadMember (hP : ∀ op, op.IsScimRead → P op) (tenantId userId : String) :
    (loadMember tenantId userId).Calls P := by
  refine Prog.calls_bind (calls_loadUser hP tenantId userId) fun r => ?_
  split
  · exact trivial
  · exact trivial

theorem calls_loadGroup (hP : ∀ op, op.IsScimRead → P op) (tenantId : String)
    (row : ScimGroupRow) : (loadGroup tenantId row).run.Calls P := by
  refine Prog.calls_run_bind (Prog.calls_run_orThrow (Prog.calls_perform (hP _ trivial)))
    fun ids => ?_
  exact Prog.calls_run_bind (Prog.calls_run_attempt (Prog.calls_mapM fun id _ =>
    calls_loadMember hP tenantId id)) fun _ => trivial

theorem calls_addUserToGroup (hP : ∀ op, op.IsGroupCall → P op) (tenantId userId groupId : String) :
    (addUserToGroup tenantId userId groupId).run.Calls P := by
  refine Prog.calls_run_bind (Prog.calls_run_orThrow (Prog.calls_perform (hP _ trivial)))
    fun _ => ?_
  refine Prog.calls_run_bind (Prog.calls_run_orThrow (Prog.calls_perform (hP _ trivial)))
    fun _ => ?_
  refine Prog.calls_run_bind (Prog.calls_run_orThrow (Prog.calls_perform (hP _ trivial)))
    fun _ => ?_
  refine Prog.calls_run_bind (Prog.calls_run_orThrow (Prog.calls_perform (hP _ trivial)))
    fun _ => ?_
  exact Prog.calls_run_orThrow (Prog.calls_perform (hP _ trivial))

theorem calls_replaceGroups (hP : ∀ op, op.IsGroupCall → P op) (tenantId userId : String)
    (groups : List String) : (replaceGroups tenantId userId groups).run.Calls P := by
  unfold replaceGroups
  split
  · exact trivial
  · refine Prog.calls_run_bind (Prog.calls_run_orThrow (Prog.calls_perform (hP _ trivial)))
      fun oldGroups => ?_
    refine Prog.calls_run_bind (Prog.calls_run_orThrow (Prog.calls_perform (hP _ trivial)))
      fun _ => ?_
    refine Prog.calls_run_bind (Prog.calls_run_forM fun groupId _ => ?_) fun _ => ?_
    · exact Prog.calls_run_orThrow (Prog.calls_perform (hP _ trivial))
    · exact Prog.calls_run_forM fun groupId _ => calls_addUserToGroup hP tenantId userId groupId

end calls

end SsoGateway
