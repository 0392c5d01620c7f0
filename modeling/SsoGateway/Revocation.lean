import SsoGateway.AgentSteps
import SsoGateway.AgentTokens
import SsoGateway.Lib.History
import SsoGateway.Lib.Precedence

/-!
# Revocation of act-tokens

Any number of resolves, revocations and other calls of the agent service run at the same time on one
replica. A resolve reads the grant of a token before it caches the answer; a revocation writes the
grant before it evicts the cache. An answer read before the write and cached after the eviction is
stale, and no later call removes it.

* `InvalidationMessage.Withdrawn` — the grant is not valid in the tables.
* `Straddled` — the order of four calls that goes wrong.
* `revocation_immediate` — where no resolve is straddled, a resolve that starts after the revocation
  has returned does not authenticate.
* `stale_act_token` — a straddled resolve.
-/

namespace SsoGateway

open Lib

/-! ## The calls in a pool -/

/-- The calls of one of several programs. -/
def sharedAgents (ι : Type) (env : AgentEnv) : Handler AgentSig (ι × Choice) AgentWorld :=
  fun op ic w => agentGateway env op ic.2 w

/-- A resolve, or a call of the agent service. -/
inductive AgentCall where
  | resolve (token : String)
  | operation (ctx : RequestContext) (op : AgentOperation)

/-- What such a call ends with. -/
inductive AgentOutcome where
  | resolved (r : Except DbError (Option ActTokenResolution))
  | replied (r : Except ServiceError AgentReply)

/-- The program of a call. -/
def AgentCall.prog (env : AgentEnv) : AgentCall → Prog AgentSig AgentOutcome
  | .resolve token => .resolved <$> (resolveActToken env token).run
  | .operation ctx op => .replied <$> (op.method env ctx).run

/-- The call presents a token of the grant as valid. -/
def AgentOutcome.Authenticates (K : InvalidationMessage) : AgentOutcome → Prop
  | .resolved r => ∃ entry, r = .ok entry ∧ K.CoversEntry entry
  | .replied r => ∃ entry, r = .ok (.introspection entry) ∧ K.CoversEntry entry

/-! ## The steps of a grant -/

/-- What a call does with a grant: read it, withdraw it, evict its tokens, or cache one of them. -/
inductive GrantStep where
  | read
  | write
  | evict
  | insert
deriving DecidableEq, Repr

namespace InvalidationMessage

/-- The step a call is for a grant. -/
def step (K : InvalidationMessage) : AgentServiceOp → Option GrantStep
  | .getDelegationById id => if K = .delegation id then some .read else none
  | .gateway (.agent (.getStatus id)) => if K = .agent id then some .read else none
  | .revokeDelegation _ id => if K = .delegation id then some .write else none
  | .setAgentStatus _ id status =>
      if K = .agent id ∧ status ≠ agentStatusActive then some .write else none
  | .gateway (.agent (.delete _ id)) => if K = .agent id then some .write else none
  | .actCacheInvalidateIf m => if m = K then some .evict else none
  | .actCacheInsert _ entry => if K.CoversEntry entry then some .insert else none
  | _ => none

/-- The grant is read, and is valid. -/
def ReadsValid (K : InvalidationMessage) : (op : AgentServiceOp) → op.Res → Prop
  | .getDelegationById id, r => K = .delegation id ∧ ∃ row, r = .ok row ∧ row.revokedAt = none
  | .gateway (.agent (.getStatus id)), r => K = .agent id ∧ r = .ok agentStatusActive
  | _, _ => False

/-- A token of the grant is found in the cache. -/
def Hits (K : InvalidationMessage) : (op : AgentServiceOp) → op.Res → Prop
  | .actCacheGet _, r => ∃ entry, r = some entry ∧ K.CoversEntry entry
  | _, _ => False

/-- The grant is withdrawn: the delegation is revoked, or the agent disabled or deleted. -/
def Withdraws (K : InvalidationMessage) : (op : AgentServiceOp) → op.Res → Prop
  | .revokeDelegation _ id, r => K = .delegation id ∧ ∃ row, r = .ok row
  | .setAgentStatus _ id status, r =>
      K = .agent id ∧ status ≠ agentStatusActive ∧ ∃ row, r = .ok row
  | .gateway (.agent (.delete _ id)), r => K = .agent id ∧ r = .ok ()
  | _, _ => False

/-- The grant is not valid in the tables: the delegation is revoked or gone, the agent is not active
or gone. -/
def Withdrawn (K : InvalidationMessage) (w : AgentWorld) : Prop :=
  match K with
  | .delegation id => ∀ d ∈ w.delegations, d.id = id → d.revokedAt ≠ none
  | .agent id => ∀ a ∈ w.base.db.agents, a.id = id → a.status ≠ agentStatusActive

/-- No token of the grant is in the cache. -/
def Evicted (K : InvalidationMessage) (w : AgentWorld) : Prop :=
  w.actCache.Holds fun entry => ¬ K.CoversEntry entry

theorem step_of_withdraws {K : InvalidationMessage} {op : AgentServiceOp} {r : op.Res}
    (h : K.Withdraws op r) : K.step op = some .write := by
  unfold Withdraws at h
  split at h
  · simp [step, h.1]
  · simp [step, h.1, h.2.1]
  · simp [step, h.1]
  · exact absurd h id

theorem step_of_readsValid {K : InvalidationMessage} {op : AgentServiceOp} {r : op.Res}
    (h : K.ReadsValid op r) : K.step op = some .read := by
  unfold ReadsValid at h
  split at h
  · simp [step, h.1]
  · simp [step, h.1]
  · exact absurd h id

end InvalidationMessage

/-! ## What one call does to a grant -/

section calls

variable {env : AgentEnv} {K : InvalidationMessage} {c : Choice} {w : AgentWorld}

/-- A grant that is read as valid is not withdrawn. -/
theorem not_withdrawn_of_reads {op : AgentServiceOp}
    (h : K.ReadsValid op (agentGateway env op c w).1) : ¬ K.Withdrawn w := by
  unfold InvalidationMessage.ReadsValid at h
  split at h
  · obtain ⟨rfl, row, hrow, hvalid⟩ := h
    obtain ⟨hmem, hid⟩ := agentGateway_getDelegationById_ok hrow
    exact fun hw => hw row hmem hid hvalid
  · obtain ⟨rfl, hstatus⟩ := h
    obtain ⟨a, hmem, hid, hactive⟩ := agentGateway_getStatus_ok hstatus
    exact fun hw => hw a hmem hid hactive
  · exact absurd h id

/-- A grant that a call withdraws is withdrawn after it. -/
theorem withdrawn_of_withdraws {op : AgentServiceOp}
    (h : K.Withdraws op (agentGateway env op c w).1) :
    K.Withdrawn (agentGateway env op c w).2 := by
  unfold InvalidationMessage.Withdraws at h
  split at h
  · obtain ⟨rfl, row, hrow⟩ := h
    obtain ⟨hfound, hw⟩ := AgentWorld.update_ok hrow
    rename_i t i
    show InvalidationMessage.Withdrawn _ (w.update _ _ _ _).2
    rw [hw]
    obtain ⟨d₀, hd₀, -⟩ := Option.map_eq_some_iff.mp hfound
    have hmem := List.mem_of_find?_eq_some hd₀
    have hkey : d₀.tenantId = t ∧ d₀.id = i := by simpa using List.find?_some hd₀
    intro d' hd' hid
    obtain ⟨d, hd, rfl⟩ := List.mem_map.mp hd'
    rw [AgentWorld.markRevoked_id] at hid
    -- the row of that id is the one that was found
    obtain rfl := AgentWorld.delegation_unique hd hmem (hid.trans hkey.2.symm)
    simp [AgentWorld.markRevoked, hkey]
  · obtain ⟨rfl, hstatus, row, hrow⟩ := h
    obtain ⟨hfound, hw⟩ := AgentWorld.update_ok hrow
    rename_i t i status
    show InvalidationMessage.Withdrawn _ (w.update _ _ _ _).2
    rw [hw]
    obtain ⟨a₀, ha₀, -⟩ := Option.map_eq_some_iff.mp hfound
    have hmem := List.mem_of_find?_eq_some ha₀
    have hkey : a₀.tenantId = t ∧ a₀.id = i := by simpa using List.find?_some ha₀
    intro a' ha' hid
    obtain ⟨a, ha, rfl⟩ := List.mem_map.mp ha'
    rw [amendAgent_id] at hid
    obtain rfl := AgentWorld.agent_unique ha hmem (hid.trans hkey.2.symm)
    simpa [amendAgent, hkey] using hstatus
  · obtain ⟨rfl, hok⟩ := h
    rename_i t i
    have hwrite : (w.base.db.write c (w.base.db.deleteAgent t i) ()).1 = .ok () := hok
    obtain ⟨-, db', hdb', hw⟩ := Db.write_ok hwrite
    intro a ha hid
    have hagents : a ∈ db'.agents := hw ▸ ha
    rw [(Db.deleteAgent_ok hdb').1] at hagents
    exact absurd hid (by simpa using (List.mem_filter.mp hagents).2)
  · exact absurd h id

/-- Only an insertion brings a token of a grant into the cache. -/
theorem evicted_step {op : AgentServiceOp} (hw : K.Evicted w) (hop : K.step op ≠ some .insert) :
    K.Evicted (agentGateway env op c w).2 := by
  have hstep := agentGateway_step env op c w
  generalize (agentGateway env op c w).2 = w' at hstep ⊢
  unfold InvalidationMessage.Evicted at hw ⊢
  cases hstep with
  | same | cascade base | setName | setStatus | revokeDelegation | statusCache cache => exact hw
  | insertDelegation h =>
      rw [(AgentWorld.insertDelegation_ok h).2.2.1]
      exact hw
  | insertActToken h =>
      rw [(AgentWorld.insertActToken_ok h).2.2.1]
      exact hw
  | actCacheInsert =>
      refine Cache.holds_insert hw _ _ fun hcovers => hop ?_
      simp [InvalidationMessage.step, hcovers]
  | actCacheInvalidateIf => exact Cache.holds_invalidateIf hw _

/-- After the eviction, no token of the grant is in the cache. -/
theorem evicted_of_evict {op : AgentServiceOp} (hop : K.step op = some .evict) :
    K.Evicted (agentGateway env op c w).2 := by
  have hevict : op = .actCacheInvalidateIf K := by
    unfold InvalidationMessage.step at hop
    split at hop
    · split at hop <;> cases hop
    · split at hop <;> cases hop
    · split at hop <;> cases hop
    · split at hop <;> cases hop
    · split at hop <;> cases hop
    · split at hop
      · rename_i hm
        rw [hm]
      · cases hop
    · split at hop <;> cases hop
    · cases hop
  subst hevict
  exact Cache.invalidateIf_holds _ _

/-- What is not in the cache is not found there. -/
theorem not_hits (hw : K.Evicted w) (op : AgentServiceOp) :
    ¬ K.Hits op (agentGateway env op c w).1 := by
  unfold InvalidationMessage.Hits
  split
  · rintro ⟨entry, hentry, hcovers⟩
    exact Cache.holds_get hw hentry hcovers
  · exact id

end calls

/-! ## The calls of a program -/

/-- A call that neither makes nor withdraws a grant or a token, nor hands one on. -/
def AgentServiceOp.IsNeutral : AgentServiceOp → Prop
  | .actCacheInsert _ _ => False
  | .createDelegation _ _ _ _ _ => False
  | .insertActToken _ => False
  | .attachContext _ _ => False
  | .revokeDelegation _ _ => False
  | .setAgentStatus _ _ _ => False
  | .gateway (.agent (.delete _ _)) => False
  | _ => True

theorem AgentServiceOp.IsNeutral.not_withdraws {op : AgentServiceOp} (h : op.IsNeutral)
    (K : InvalidationMessage) (r : op.Res) : ¬ K.Withdraws op r := by
  unfold InvalidationMessage.Withdraws
  split
  · exact absurd h id
  · exact absurd h id
  · exact absurd h id
  · exact id

theorem AgentServiceOp.IsNeutral.not_insert {op : AgentServiceOp} (h : op.IsNeutral)
    (K : InvalidationMessage) : K.step op ≠ some .insert := by
  intro hstep
  unfold InvalidationMessage.step at hstep
  split at hstep
  · split at hstep <;> cases hstep
  · split at hstep <;> cases hstep
  · split at hstep <;> cases hstep
  · split at hstep <;> cases hstep
  · split at hstep <;> cases hstep
  · split at hstep <;> cases hstep
  · exact absurd h id
  · cases hstep

section neutral

variable {P : AgentServiceOp → Prop} (hP : ∀ op : AgentServiceOp, op.IsNeutral → P op)

theorem calls_agentCheck {α : Type} (r : Except ServiceError α) :
    (AgentMethod.check r).run.Calls P := trivial

include hP

theorem calls_requireActiveMember (t i : String) : (requireActiveMember t i).run.Calls P := by
  refine Prog.calls_run_bind (Prog.calls_run_attempt (Prog.calls_perform (hP _ trivial)))
    fun r => ?_
  split <;> exact trivial

theorem calls_createAgentDelegation
    (hcreate : ∀ t a u scopes x, P (.createDelegation t a u scopes x)) (env : AgentEnv)
    (ctx : RequestContext) (req : CreateAgentDelegationRequest) :
    (createAgentDelegation env ctx req).run.Calls P := by
  have hread : ∀ op : AgentServiceOp, op.IsNeutral →
      (ask op).Calls P := fun op hop => Prog.calls_perform (hP op hop)
  refine Prog.calls_run_bind (calls_agentCheck _) fun t => ?_
  refine Prog.calls_run_bind (calls_agentCheck _) fun _ => ?_
  refine Prog.calls_run_bind (calls_agentCheck _) fun auth => ?_
  refine Prog.calls_run_bind (Prog.calls_run_orThrow (hread _ trivial)) fun agent => ?_
  refine Prog.calls_run_bind (calls_agentCheck _) fun _ => ?_
  refine Prog.calls_run_bind (calls_requireActiveMember hP t auth.subject) fun _ => ?_
  refine Prog.calls_run_bind (calls_agentCheck _) fun _ => ?_
  refine Prog.calls_run_bind (calls_agentCheck _) fun x => ?_
  refine Prog.calls_run_bind (Prog.calls_run_attempt (hread _ trivial)) fun now => ?_
  refine Prog.calls_run_bind (calls_agentCheck _) fun _ => ?_
  exact Prog.calls_run_orThrow (Prog.calls_perform (hcreate _ _ _ _ _))

theorem calls_mint (hinsert : ∀ row, P (.insertActToken row)) (env : AgentEnv) (d : AgentDelegationRow) :
    (mint env d).run.Calls P := by
  refine Prog.calls_run_bind (Prog.calls_run_attempt (Prog.calls_perform (hP _ trivial)))
    fun random => ?_
  refine Prog.calls_run_bind (Prog.calls_run_attempt (Prog.calls_perform (hP _ trivial)))
    fun now => ?_
  exact Prog.calls_run_bind (Prog.calls_run_orThrow (Prog.calls_perform (hinsert _)))
    fun _ => trivial

theorem calls_mintAgentActToken (hinsert : ∀ row, P (.insertActToken row)) (env : AgentEnv) (ctx : RequestContext)
    (d : String) : (mintAgentActToken env ctx d).run.Calls P := by
  have hread : ∀ op : AgentServiceOp, op.IsNeutral →
      (ask op).Calls P := fun op hop => Prog.calls_perform (hP op hop)
  refine Prog.calls_run_bind (calls_agentCheck _) fun t => ?_
  refine Prog.calls_run_bind (calls_agentCheck _) fun _ => ?_
  refine Prog.calls_run_bind (calls_agentCheck _) fun _ => ?_
  refine Prog.calls_run_bind (calls_agentCheck _) fun auth => ?_
  refine Prog.calls_run_bind (Prog.calls_run_orThrow (hread _ trivial)) fun agent => ?_
  refine Prog.calls_run_bind (calls_agentCheck _) fun _ => ?_
  refine Prog.calls_run_bind (Prog.calls_run_orThrow (hread _ trivial)) fun delegation => ?_
  refine Prog.calls_run_bind (Prog.calls_run_attempt (hread _ trivial)) fun now => ?_
  refine Prog.calls_run_bind (calls_agentCheck _) fun _ => ?_
  refine Prog.calls_run_bind (calls_requireActiveMember hP t _) fun _ => ?_
  exact Prog.calls_run_orThrow (calls_mint hP hinsert env delegation)

theorem calls_renameHydraClient (t a name : String) : (renameHydraClient t a name).Calls P := by
  refine Prog.calls_bind (Prog.calls_perform (hP _ trivial)) fun r => ?_
  rcases r with e | oryId
  · exact trivial
  refine Prog.calls_bind (Prog.calls_perform (hP _ trivial)) fun r => ?_
  rcases r with e | client
  · exact trivial
  exact Prog.calls_bind (Prog.calls_perform (hP _ trivial)) fun _ => trivial

theorem calls_renameAgent (t : String) (req : UpdateAgentRequest) (a : AgentRow) :
    (renameAgent t req a).run.Calls P := by
  unfold renameAgent
  split
  · refine Prog.calls_run_bind (Prog.calls_run_orThrow (Prog.calls_perform (hP _ trivial)))
      fun agent => ?_
    exact Prog.calls_run_bind (Prog.calls_run_attempt (calls_renameHydraClient hP t req.id req.name))
      fun _ => trivial
  · exact trivial

theorem calls_dropAgentClient (t i : String) : (dropAgentClient t i).Calls P := by
  have hdelete : ∀ op : AgentServiceOp, op.IsNeutral → (ask op).Calls P :=
    fun op hop => Prog.calls_perform (hP op hop)
  refine Prog.calls_bind (hdelete _ trivial) fun r => ?_
  rcases r with e | oryId
  · exact hdelete _ trivial
  · exact Prog.calls_bind (hdelete _ trivial) fun _ => hdelete _ trivial

theorem calls_validateActTokenRow (row : AgentActTokenRow) :
    (validateActTokenRow row).run.Calls P := by
  unfold validateActTokenRow
  refine Prog.calls_run_bind (Prog.calls_run_attempt (Prog.calls_perform (hP _ trivial)))
    fun now => ?_
  split
  · exact trivial
  refine Prog.calls_run_bind (Prog.calls_run_attempt (Prog.calls_perform (hP _ trivial)))
    fun r => ?_
  split
  · exact trivial
  · exact trivial
  split
  · exact trivial
  refine Prog.calls_run_bind (Prog.calls_run_attempt (Prog.calls_perform (hP _ trivial)))
    fun r => ?_
  split
  · exact trivial
  · exact trivial
  split <;> exact trivial

/-- The calls of a resolve are neutral but for the answer it caches. -/
theorem calls_resolveActToken (hinsert : ∀ k entry, P (.actCacheInsert k entry)) (env : AgentEnv)
    (token : String) : (resolveActToken env token).run.Calls P := by
  refine Prog.calls_run_bind (Prog.calls_run_attempt (Prog.calls_perform (hP _ trivial)))
    fun r => ?_
  rcases r with _ | entry
  · refine Prog.calls_run_bind (Prog.calls_run_orThrow (Prog.calls_perform (hP _ trivial)))
      fun row => ?_
    rcases row with _ | row
    · exact Prog.calls_run_bind (Prog.calls_run_attempt (Prog.calls_perform (hinsert _ _)))
        fun _ => trivial
    · refine Prog.calls_run_bind (calls_validateActTokenRow hP row) fun entry => ?_
      exact Prog.calls_run_bind (Prog.calls_run_attempt (Prog.calls_perform (hinsert _ _)))
        fun _ => trivial
  · exact Prog.calls_run_bind (Prog.calls_run_attempt (Prog.calls_perform (hP _ trivial)))
      fun _ => trivial

end neutral

/-! ## The order of the calls of a program -/

section programs

variable (env : AgentEnv) (K : InvalidationMessage)

/-- The validation yields a token of the grant only after reading the grant as valid. -/
theorem before_validateActTokenRow {I : AgentServiceOp → Prop}
    (hnow : ¬ I (.gateway .nowUtc)) (hdelegation : ∀ i, ¬ I (.getDelegationById i))
    (hstatus : ∀ i, ¬ I (.gateway (.agent (.getStatus i)))) (row : AgentActTokenRow) :
    (validateActTokenRow row).run.Before K.ReadsValid I
      fun r => ∀ entry, r = .ok entry → ¬ K.CoversEntry entry := by
  have hnone : ∀ entry, (Except.ok none : Except DbError (Option ActTokenResolution)) = .ok entry →
      ¬ K.CoversEntry entry := by
    rintro entry h ⟨res, hres, -⟩
    cases h
    cases hres
  have hfail : ∀ (e : DbError) entry,
      (Except.error e : Except DbError (Option ActTokenResolution)) = .ok entry →
        ¬ K.CoversEntry entry := fun e entry h => by cases h
  unfold validateActTokenRow
  refine ⟨hnow, fun now _ => ?_⟩
  change Prog.Before _ _ _ (ExceptT.run (if row.expiresAt ≤ now then _ else _))
  split
  · exact hnone
  refine ⟨hdelegation _, fun r hr => ?_⟩
  rcases r with e | delegation
  · cases e with
    | agentDelegationNotFound => exact hnone
    | _ => exact hfail _
  change Prog.Before _ _ _ (ExceptT.run
    (if delegation.revokedAt ≠ none ∨ delegation.expiresAt ≤ now then _ else _))
  split
  · exact hnone
  rename_i hvalid
  refine ⟨hstatus _, fun r hr' => ?_⟩
  rcases r with e | status
  · cases e with
    | agentNotFound => exact hnone
    | _ => exact hfail _
  change Prog.Before _ _ _ (ExceptT.run (if status ≠ agentStatusActive then _ else _))
  split
  · exact hnone
  rename_i hactive
  rintro entry h ⟨res, hres, hcovers⟩
  cases h
  cases hres
  -- the delegation and the agent of the row have both been read as valid
  cases K with
  | delegation id =>
      cases hcovers
      exact hr ⟨rfl, delegation, rfl, by simpa using fun h => hvalid (.inl h)⟩
  | agent id =>
      cases hcovers
      exact hr' ⟨rfl, congrArg Except.ok (not_not.mp hactive)⟩

/-- A resolve caches a token of the grant only after reading the grant as valid. -/
theorem before_insert (token : String) :
    (resolveActToken env token).run.Before K.ReadsValid (fun op => K.step op = some .insert)
      fun _ => True := by
  have hinsert : ∀ entry, ¬ K.CoversEntry entry →
      ¬ K.step (.actCacheInsert (env.hashToken token) entry) = some .insert := by
    intro entry hentry
    simp [InvalidationMessage.step, hentry]
  unfold resolveActToken
  refine ⟨by simp [InvalidationMessage.step], fun r _ => ?_⟩
  rcases r with _ | entry
  · refine Prog.before_run_bind (P := fun _ => True) ?_ fun row _ => ?_
    · refine Prog.before_run_orThrow ⟨by simp [InvalidationMessage.step], fun r _ => ?_⟩
      exact ⟨fun _ _ => trivial, fun _ _ => trivial⟩
    rcases row with _ | row
    · refine ⟨hinsert none ?_, fun _ _ => trivial⟩
      rintro ⟨res, h, -⟩
      cases h
    · refine Prog.before_run_bind (P := fun entry => ¬ K.CoversEntry entry) ?_ fun entry h => ?_
      · refine (before_validateActTokenRow K ?_ ?_ ?_ row).post fun r h => ⟨h, fun _ _ => trivial⟩
        · simp [InvalidationMessage.step]
        · intro i h
          simp only [InvalidationMessage.step] at h
          split at h <;> cases h
        · intro i h
          simp only [InvalidationMessage.step] at h
          split at h <;> cases h
      · exact ⟨hinsert entry h, fun _ _ => trivial⟩
  · exact ⟨by simp [InvalidationMessage.step], fun _ _ => trivial⟩

/-- A resolve presents a token of the grant as valid only after reading the grant as valid, or finding
the token in the cache. -/
theorem before_authenticated (token : String) :
    (resolveActToken env token).run.Before (fun op r => K.ReadsValid op r ∨ K.Hits op r)
      (fun _ => False) fun r => ∀ entry, r = .ok entry → ¬ K.CoversEntry entry := by
  unfold resolveActToken
  refine ⟨id, fun r hr => ?_⟩
  rcases r with _ | entry
  · refine Prog.before_run_bind (P := fun _ => True) ?_ fun row _ => ?_
    · refine Prog.before_run_orThrow ⟨id, fun r _ => ?_⟩
      exact ⟨fun _ _ => trivial, fun _ _ entry h => by cases h⟩
    rcases row with _ | row
    · refine ⟨id, fun _ _ => ?_⟩
      rintro entry h ⟨res, hres, -⟩
      cases h
      cases hres
    · refine Prog.before_run_bind (P := fun entry => ¬ K.CoversEntry entry) ?_ fun entry h => ?_
      · have hvalidate := before_validateActTokenRow K (I := fun _ => False) id (fun _ => id)
          (fun _ => id) row
        exact (hvalidate.mono (fun _ _ => .inl) fun _ => id).post fun r h =>
          ⟨h, fun e _ entry h => by cases h⟩
      · refine ⟨id, fun _ _ => ?_⟩
        rintro entry' h' hcovers
        cases h'
        exact h hcovers
  · refine ⟨id, fun now _ => ?_⟩
    rintro entry' h ⟨res, hres, hcovers⟩
    cases h
    rcases entry with _ | res'
    · cases hres
    · obtain ⟨hsome, -⟩ := Option.filter_eq_some_iff.mp hres
      cases hsome
      exact hr (.inr ⟨some res, rfl, res, rfl, hcovers⟩)

/-- Invalidating an agent evicts its tokens. -/
theorem must_invalidateAgent (agentId : String) :
    (invalidateAgent agentId).Must fun op => (InvalidationMessage.agent agentId).step op = some .evict :=
  .inr fun _ => .inl (if_pos rfl)

/-- A revocation evicts the tokens of the grant after it has withdrawn it. -/
theorem then_evict (call : AgentCall) :
    (call.prog env).Then K.Withdraws fun op => K.step op = some .evict := by
  have hneutral : ∀ op : AgentServiceOp, op.IsNeutral → ∀ r, ¬ K.Withdraws op r :=
    fun op hop => hop.not_withdraws K
  have hcall : ∀ op : AgentServiceOp, op.IsNeutral →
      (ask op).Calls fun op => ∀ r, ¬ K.Withdraws op r := fun op hop =>
    Prog.calls_perform (hneutral op hop)
  have hresolve : ∀ token, (resolveActToken env token).run.Calls fun op => ∀ r, ¬ K.Withdraws op r :=
    calls_resolveActToken hneutral (fun _ _ _ h => h) env
  cases call with
  | resolve token => exact Prog.then_map (hresolve token).then'
  | operation ctx op =>
      refine Prog.then_map ?_
      cases op with
      | createDelegation req =>
          have hcreate := calls_createAgentDelegation hneutral (fun _ _ _ _ _ _ => id) env ctx req
          exact Prog.then_run_map hcreate.then'
      | mint d =>
          have hmint := calls_mintAgentActToken hneutral (fun _ _ => id) env ctx d
          exact Prog.then_run_map hmint.then'
      | introspect token =>
          refine Prog.then_run_map (Prog.Calls.then' ?_)
          refine Prog.calls_run_bind (calls_agentCheck _) fun _ => ?_
          exact Prog.calls_run_bind (Prog.calls_run_orThrow (hresolve token)) fun _ => trivial
      | revokeDelegation id =>
          refine Prog.then_run_map (Prog.then_run_bind_right (calls_agentCheck _) fun t => ?_)
          refine Prog.then_run_bind_right (calls_agentCheck _) fun auth => ?_
          refine Prog.then_run_bind_right (Prog.calls_run_orThrow (hcall _ trivial)) fun d => ?_
          refine Prog.then_run_bind_right (calls_agentCheck _) fun _ => ?_
          refine Prog.then_run_orThrow_bind (S := AgentSig) (.revokeDelegation t id) (fun r => r)
            (fun row => ?_) ?_ ?_
          · refine Prog.Calls.then' ?_
            exact Prog.calls_run_bind (Prog.calls_run_attempt (hcall _ trivial)) fun _ => trivial
          · rintro r row ⟨rfl, -⟩ -
            exact .inl (if_pos rfl)
          · rintro r ⟨-, row, hrow⟩
            exact ⟨row, hrow⟩
      | update req =>
          refine Prog.then_run_map (Prog.then_run_bind_right (calls_agentCheck _) fun t => ?_)
          refine Prog.then_run_bind_right (Prog.calls_run_orThrow (hcall _ trivial)) fun a => ?_
          refine Prog.then_run_bind_right (calls_agentCheck _) fun _ => ?_
          refine Prog.then_run_bind_right (calls_renameAgent hneutral t req a) fun a => ?_
          unfold changeAgentStatus
          split
          · refine Prog.then_run_orThrow_bind (S := AgentSig) (.setAgentStatus t req.id req.status)
              (fun r => r) (fun row => ?_) ?_ ?_
            · refine Prog.Calls.then' (Prog.calls_run_bind (Prog.calls_run_attempt ?_)
                fun _ => trivial)
              exact Prog.calls_bind (hcall _ trivial) fun _ => hcall _ trivial
            · rintro r row ⟨rfl, -⟩ -
              exact Prog.must_run_bind_left (Prog.must_run_attempt (must_invalidateAgent req.id))
            · rintro r ⟨-, -, row, hrow⟩
              exact ⟨row, hrow⟩
          · exact trivial
      | delete id =>
          refine Prog.then_run_map (Prog.then_run_bind_right (calls_agentCheck _) fun t => ?_)
          have hdrop := Prog.calls_run_attempt (ε := ServiceError)
            (calls_dropAgentClient hneutral t id)
          refine Prog.then_run_orThrow_bind (S := AgentSig) (.gateway (.agent (.delete t id)))
            (fun r => r) (fun _ => ?_) ?_ ?_
          · refine Prog.then_run_bind_right hdrop fun _ => ?_
            refine (Prog.calls_run_attempt ?_).then'
            exact Prog.calls_bind (hcall _ trivial) fun _ => hcall _ trivial
          · rintro r _ ⟨rfl, -⟩ -
            exact Prog.must_run_bind_right ⟨_, rfl⟩ fun _ =>
              Prog.must_run_attempt (must_invalidateAgent id)
          · rintro r ⟨-, hok⟩
            exact ⟨(), hok⟩

/-- Every call caches a token of the grant only after reading the grant as valid. -/
theorem before_insert_call (call : AgentCall) :
    (call.prog env).Before K.ReadsValid (fun op => K.step op = some .insert) fun _ => True := by
  have hneutral : ∀ op : AgentServiceOp, op.IsNeutral → ¬ K.step op = some .insert :=
    fun op hop => hop.not_insert K
  have hcall : ∀ op : AgentServiceOp, (¬ K.step op = some .insert) →
      (ask op).Calls fun op => ¬ K.step op = some .insert := fun op hop => Prog.calls_perform hop
  have hinvalidate : ∀ {i : String},
      (invalidateAgent i).Calls fun op => ¬ K.step op = some .insert :=
    Prog.calls_bind (hcall _ (hneutral _ trivial)) fun _ => hcall _ (hneutral _ trivial)
  have hwrite : ∀ t i, ¬ K.step (.revokeDelegation t i) = some .insert := by
    intro t i h
    simp only [InvalidationMessage.step] at h
    split at h <;> cases h
  have hstatus : ∀ t i s, ¬ K.step (.setAgentStatus t i s) = some .insert := by
    intro t i s h
    simp only [InvalidationMessage.step] at h
    split at h <;> cases h
  have hdelete : ∀ t i, ¬ K.step (.gateway (.agent (.delete t i))) = some .insert := by
    intro t i h
    simp only [InvalidationMessage.step] at h
    split at h <;> cases h
  have hother : ∀ {α : Type} {f : α → AgentReply} {x : AgentMethod α},
      (x.run.Calls fun op => ¬ K.step op = some .insert) →
      (AgentOutcome.replied <$> (f <$> x).run).Before K.ReadsValid
        (fun op => K.step op = some .insert) fun _ => True := fun hx =>
    Prog.before_map (Prog.before_run_map hx.before)
  cases call with
  | resolve token => exact Prog.before_map (before_insert env K token)
  | operation ctx op =>
      cases op with
      | createDelegation req =>
          have hcreate : ∀ t a u scopes x, ¬ K.step (.createDelegation t a u scopes x) = some .insert :=
            fun t a u scopes x => by simp [InvalidationMessage.step]
          exact hother (calls_createAgentDelegation hneutral hcreate env ctx req)
      | mint d =>
          have hmint : ∀ row, ¬ K.step (.insertActToken row) = some .insert :=
            fun row => by simp [InvalidationMessage.step]
          exact hother (calls_mintAgentActToken hneutral hmint env ctx d)
      | introspect token =>
          refine Prog.before_map (Prog.before_run_map ?_)
          refine Prog.before_run_bind (P := fun _ => True)
            ⟨fun _ _ => trivial, fun _ _ => trivial⟩ fun t _ => ?_
          refine Prog.before_run_bind (P := fun _ => True) (Prog.before_run_orThrow ?_)
            fun _ _ => trivial
          exact (before_insert env K token).post fun _ _ => ⟨fun _ _ => trivial, fun _ _ => trivial⟩
      | revokeDelegation id =>
          refine hother (Prog.calls_run_bind (calls_agentCheck _) fun t => ?_)
          refine Prog.calls_run_bind (calls_agentCheck _) fun auth => ?_
          refine Prog.calls_run_bind (Prog.calls_run_orThrow (hcall _ (hneutral _ trivial)))
            fun d => ?_
          refine Prog.calls_run_bind (calls_agentCheck _) fun _ => ?_
          refine Prog.calls_run_bind (Prog.calls_run_orThrow (hcall _ (hwrite _ _))) fun row => ?_
          exact Prog.calls_run_bind (Prog.calls_run_attempt (hcall _ (hneutral _ trivial)))
            fun _ => trivial
      | update req =>
          refine hother (Prog.calls_run_bind (calls_agentCheck _) fun t => ?_)
          refine Prog.calls_run_bind (Prog.calls_run_orThrow (hcall _ (hneutral _ trivial)))
            fun a => ?_
          refine Prog.calls_run_bind (calls_agentCheck _) fun _ => ?_
          refine Prog.calls_run_bind (calls_renameAgent hneutral t req a) fun a => ?_
          unfold changeAgentStatus
          split
          · refine Prog.calls_run_bind (Prog.calls_run_orThrow (hcall _ (hstatus _ _ _)))
              fun row => ?_
            exact Prog.calls_run_bind (Prog.calls_run_attempt hinvalidate) fun _ => trivial
          · exact trivial
      | delete id =>
          refine hother (Prog.calls_run_bind (calls_agentCheck _) fun t => ?_)
          refine Prog.calls_run_bind (Prog.calls_run_orThrow (hcall _ (hdelete _ _))) fun _ => ?_
          refine Prog.calls_run_bind (Prog.calls_run_attempt (calls_dropAgentClient hneutral t id))
            fun _ => ?_
          exact Prog.calls_run_attempt hinvalidate

/-- Every call that presents a token of the grant as valid has read the grant as valid, or found the
token in the cache. -/
theorem before_authenticated_call (call : AgentCall) :
    (call.prog env).Before (fun op r => K.ReadsValid op r ∨ K.Hits op r) (fun _ => False)
      fun o => ¬ o.Authenticates K := by
  have hother : ∀ {α : Type} {f : α → AgentReply} (x : AgentMethod α),
      (∀ a entry, f a ≠ .introspection entry) →
      (AgentOutcome.replied <$> (f <$> x).run).Before (fun op r => K.ReadsValid op r ∨ K.Hits op r)
        (fun _ => False) fun o => ¬ o.Authenticates K := by
    intro α f x hf
    refine Prog.before_map (Prog.before_run_map ?_)
    refine ((Prog.calls_true x.run).mono fun _ _ => id).before.post fun r _ => ?_
    rintro ⟨entry, hentry, -⟩
    rcases r with e | a
    · cases hentry
    · exact hf a entry (Except.ok.inj hentry)
  cases call with
  | resolve token =>
      refine Prog.before_map ((before_authenticated env K token).post fun r hr => ?_)
      rintro ⟨entry, hentry, hcovers⟩
      exact hr entry hentry hcovers
  | operation ctx op =>
      cases op with
      | createDelegation req => exact hother _ fun _ _ h => by cases h
      | mint d => exact hother _ fun _ _ h => by cases h
      | revokeDelegation id => exact hother _ fun _ _ h => by cases h
      | update req => exact hother _ fun _ _ h => by cases h
      | delete id => exact hother _ fun _ _ h => by cases h
      | introspect token =>
          refine Prog.before_map (Prog.before_run_map ?_)
          refine Prog.before_run_bind (P := fun _ => True) ?_ fun t _ => ?_
          · refine ⟨fun _ _ => trivial, ?_⟩
            rintro e - ⟨entry, hentry, -⟩
            cases hentry
          refine Prog.before_run_bind (P := fun entry => ¬ K.CoversEntry entry)
            (Prog.before_run_orThrow ?_) fun entry hentry => ?_
          · refine (before_authenticated env K token).post fun r hr => ⟨fun entry h => ?_, ?_⟩
            · rcases r with e | entry'
              · cases h
              · cases h
                exact hr _ rfl
            · rintro e - ⟨entry, hentry, -⟩
              cases hentry
          · rintro ⟨entry', h, res, hres, hcovers⟩
            obtain rfl := AgentReply.introspection.inj (Except.ok.inj h)
            obtain ⟨hsome, -⟩ := Option.filter_eq_some_iff.mp hres
            exact hentry ⟨res, hsome, hcovers⟩

end programs

/-! ## Revocation -/

/-- The order of four calls that goes wrong: program `j` reads the grant, program `i` withdraws it
and evicts its tokens, and then `j` caches one. -/
def Straddled {ι : Type} (K : InvalidationMessage) (i j : ι)
    (evs : List (Event AgentSig (ι × Choice) AgentWorld)) : Prop :=
  List.Sublist [(j, some GrantStep.read), (i, some .write), (i, some .evict), (j, some .insert)]
    (evs.map fun ev => (ev.choice.1, K.step ev.op))

instance {ι : Type} [DecidableEq ι] (K : InvalidationMessage) (i j : ι)
    (evs : List (Event AgentSig (ι × Choice) AgentWorld)) : Decidable (Straddled K i j evs) :=
  inferInstanceAs (Decidable (List.Sublist _ _))

theorem straddled_of_split {ι : Type} {K : InvalidationMessage} {i j : ι}
    {a₁ a₂ b₁ b₂ b₃ : List (Event AgentSig (ι × Choice) AgentWorld)}
    {er ew ee e : Event AgentSig (ι × Choice) AgentWorld}
    (hread : (er.choice.1, K.step er.op) = (j, some .read))
    (hwrite : (ew.choice.1, K.step ew.op) = (i, some .write))
    (hevict : (ee.choice.1, K.step ee.op) = (i, some .evict))
    (hinsert : (e.choice.1, K.step e.op) = (j, some .insert)) :
    Straddled K i j ((a₁ ++ er :: a₂) ++ ew :: ((b₁ ++ ee :: b₂) ++ e :: b₃)) := by
  unfold Straddled
  simp only [List.append_assoc, List.cons_append, List.map_append, List.map_cons, hread, hwrite,
    hevict, hinsert]
  refine List.sublist_append_of_sublist_right (.cons_cons _ ?_)
  refine List.sublist_append_of_sublist_right (.cons_cons _ ?_)
  refine List.sublist_append_of_sublist_right (.cons_cons _ ?_)
  exact List.sublist_append_of_sublist_right (.cons_cons _ (List.nil_sublist _))

/-- The calls, all at once on a world. -/
def agentPool {ι : Type} (env : AgentEnv) (calls : ι → AgentCall) (w : AgentWorld) :
    Pool AgentSig ι AgentOutcome AgentWorld := ⟨w, fun i => (calls i).prog env⟩

instance (K : InvalidationMessage) (w : AgentWorld) : Decidable (K.Withdrawn w) :=
  match K with
  | .delegation _ => inferInstanceAs (Decidable (∀ d ∈ w.delegations, _))
  | .agent _ => inferInstanceAs (Decidable (∀ a ∈ w.base.db.agents, _))

/-- Program `i` has withdrawn the grant. -/
def HasWithdrawn {ι : Type} (env : AgentEnv) (K : InvalidationMessage) (i : ι)
    (ev : Event AgentSig (ι × Choice) AgentWorld) : Prop :=
  ev.choice.1 = i ∧ K.Withdraws ev.op (ev.res (sharedAgents ι env))

/-- The grant is made valid again. -/
def Restores {ι : Type} (env : AgentEnv) (K : InvalidationMessage)
    (ev : Event AgentSig (ι × Choice) AgentWorld) : Prop :=
  K.Withdrawn ev.before ∧ ¬ K.Withdrawn (ev.after (sharedAgents ι env))

instance {ι : Type} (env : AgentEnv) (K : InvalidationMessage)
    (ev : Event AgentSig (ι × Choice) AgentWorld) : Decidable (Restores env K ev) :=
  inferInstanceAs (Decidable (_ ∧ _))

/-- A revocation that has succeeded has withdrawn the delegation. -/
theorem hasWithdrawn_of_revoked {ι : Type} [DecidableEq ι] (env : AgentEnv) (calls : ι → AgentCall)
    (w : AgentWorld) {i : ι} {ctx : RequestContext} {id : String}
    (hi : calls i = .operation ctx (.revokeDelegation id)) (sched : List (ι × Choice))
    {row : AgentDelegationRow} (hret : ((agentPool env calls w).run (sharedAgents ι env)
      sched).Returned i (.replied (.ok (.delegation row)))) :
    ∃ ev ∈ (agentPool env calls w).events (sharedAgents ι env) sched,
      HasWithdrawn env (.delegation id) i ev := by
  have hbefore : ((agentPool env calls w).threads i).Before
      (InvalidationMessage.delegation id).Withdraws (fun _ => False)
      fun o => o ≠ .replied (.ok (.delegation row)) := by
    show ((calls i).prog env).Before _ _ _
    rw [hi]
    refine Prog.before_map (Prog.before_run_map ?_)
    have hfail : ∀ (e : ServiceError), AgentOutcome.replied
        ((Except.error e : Except ServiceError AgentDelegationRow).map AgentReply.delegation) ≠
          .replied (.ok (.delegation row)) := fun e h => by cases h
    have hcheck : ∀ {α : Type} (r : Except ServiceError α),
        (AgentMethod.check r).run.Before (InvalidationMessage.delegation id).Withdraws
          (fun _ => False) fun r => (∀ a, r = .ok a → True) ∧
            ∀ e, r = .error e → AgentOutcome.replied ((Except.error e).map AgentReply.delegation) ≠
              .replied (.ok (.delegation row)) := fun r =>
      ⟨fun _ _ => trivial, fun e _ => hfail e⟩
    refine Prog.before_run_bind (P := fun _ => True) (hcheck _) fun t _ => ?_
    refine Prog.before_run_bind (P := fun _ => True) (hcheck _) fun auth _ => ?_
    refine Prog.before_run_bind (P := fun _ => True) (Prog.before_run_orThrow ?_) fun d _ => ?_
    · exact ⟨fun h => h, fun r _ => ⟨fun _ _ => trivial, fun e _ => hfail e⟩⟩
    refine Prog.before_run_bind (P := fun _ => True) (hcheck _) fun _ _ => ?_
    -- the answer of the statement is the answer of the call
    refine Prog.before_run_bind (P := fun _ => False) (Prog.before_run_orThrow ?_)
      fun _ h => h.elim
    refine ⟨fun h => h, fun r hr => ⟨fun a ha => ?_, fun e _ => hfail e⟩⟩
    rcases r with e | row'
    · cases ha
    · exact hr ⟨rfl, row', rfl⟩
  exact (Pool.before_run sched hbefore).2 _ hret fun h => h rfl

/-- **Revocation is immediate** in every run in which no call is straddled by the revocation: any
number of resolves, introspections, delegations, mints and revocations run interleaved on one
replica; program `i` withdraws the grant and returns; program `j` starts later, and the grant is not
made valid again. Then `j` does not authenticate with a token of the grant. -/
theorem revocation_immediate {ι : Type} [DecidableEq ι] (env : AgentEnv) (calls : ι → AgentCall)
    (w : AgentWorld) (K : InvalidationMessage) (i j : ι) (before after : List (ι × Choice))
    (hwithdrawn : ∃ ev ∈ (agentPool env calls w).events (sharedAgents ι env) before,
      HasWithdrawn env K i ev)
    (hreturned : ∃ o, ((agentPool env calls w).run (sharedAgents ι env) before).Returned i o)
    (hstarts : ∀ ev ∈ (agentPool env calls w).events (sharedAgents ι env) before, ev.choice.1 ≠ j)
    (hstays : ∀ pre ev post, (agentPool env calls w).events (sharedAgents ι env)
      (before ++ after) = pre ++ ev :: post → HasWithdrawn env K i ev →
        ∀ e ∈ post, ¬ Restores env K e)
    (horder : ∀ j, ¬ Straddled K i j ((agentPool env calls w).events (sharedAgents ι env)
      (before ++ after)))
    (o : AgentOutcome) (ho : ((agentPool env calls w).run (sharedAgents ι env)
      (before ++ after)).Returned j o) :
    ¬ o.Authenticates K := by
  obtain ⟨ew, hew, hi, hw⟩ := hwithdrawn
  obtain ⟨o', ho'⟩ := hreturned
  -- the calls: the withdrawal, the eviction, and the calls since
  obtain ⟨a, b, hsplit⟩ := List.append_of_mem hew
  obtain ⟨ee, hee, hei, hevict⟩ := Pool.then_run before (then_evict env K (calls i)) ho' hsplit hi hw
  obtain ⟨b₁, b₂, rfl⟩ := List.append_of_mem hee
  have hall := (agentPool env calls w).events_append (h := sharedAgents ι env) before after
  generalize hlater : ((agentPool env calls w).run (sharedAgents ι env) before).events
    (sharedAgents ι env) after = evs at hall
  rw [hsplit] at hall hstarts
  have hchain := (agentPool env calls w).chained_events (sharedAgents ι env) (before ++ after)
  rw [hall] at hstays horder hchain
  rw [List.append_assoc, List.cons_append] at hall hstays horder hchain
  obtain ⟨w₁, -, hbefore, hrest⟩ := Chained.append.mp hchain
  -- the grant stays withdrawn
  have hwithdrawn := (hrest.invariant (I := K.Withdrawn) (withdrawn_of_withdraws hw)
    fun e he hI => not_not.mp fun hrestored => hstays _ _ _ rfl ⟨hi, hw⟩ e he ⟨hI, hrestored⟩).2
  have hread : ∀ e ∈ b₁ ++ ee :: b₂ ++ evs, ¬ K.ReadsValid e.op (e.res (sharedAgents ι env)) :=
    fun e he h => not_withdrawn_of_reads h (hwithdrawn e he)
  -- no token of the grant is cached after the eviction
  have hinsert : ∀ x e y, b₂ ++ evs = x ++ e :: y → K.step e.op ≠ some .insert := by
    intro x e y hxy hstep
    have hcut : (agentPool env calls w).events (sharedAgents ι env) (before ++ after) =
        (a ++ ew :: (b₁ ++ ee :: x)) ++ e :: y := by
      rw [hall]
      simp [hxy]
    obtain ⟨er, her, hthread, hvalid⟩ := (Pool.before_run (before ++ after)
      (before_insert_call env K (calls e.choice.1))).1 _ e y hcut rfl hstep
    rcases List.mem_append.mp her with her | her
    · -- read before the withdrawal: the call is straddled
      obtain ⟨a₁, a₂, rfl⟩ := List.append_of_mem her
      refine horder e.choice.1 ?_
      have hread := InvalidationMessage.step_of_readsValid hvalid
      have hwrite := InvalidationMessage.step_of_withdraws hw
      have hjoin : b₁ ++ ee :: b₂ ++ evs = (b₁ ++ ee :: x) ++ e :: y := by simp [hxy]
      rw [hjoin]
      exact straddled_of_split (Prod.ext hthread hread) (Prod.ext hi hwrite)
        (Prod.ext hei hevict) (Prod.ext rfl hstep)
    · rcases List.mem_cons.mp her with rfl | her
      · have hsame := (InvalidationMessage.step_of_withdraws hw).symm.trans
          (InvalidationMessage.step_of_readsValid hvalid)
        cases hsame
      · refine hread er ?_ hvalid
        rw [List.append_assoc, List.cons_append, hxy]
        have hprefix : er ∈ (b₁ ++ ee :: x) ++ e :: y := List.mem_append_left _ her
        simpa using hprefix
  have hevicted : ∀ e ∈ b₂ ++ evs, K.Evicted e.before := by
    rw [List.append_assoc, List.cons_append] at hrest
    obtain ⟨w₂, -, -, hcached⟩ := Chained.append.mp hrest
    refine (hcached.invariant (I := K.Evicted) (evicted_of_evict hevict) fun e he hI => ?_).2
    obtain ⟨x, y, hxy⟩ := List.append_of_mem he
    exact evicted_step hI (hinsert x e y hxy)
  intro hauth
  obtain ⟨e, he, hej, hshow⟩ := (Pool.before_run (before ++ after)
    (before_authenticated_call env K (calls j))).2 o ho (not_not.mpr hauth)
  -- the calls of `j` come after the revocation has returned
  have hlate : e ∈ evs := by
    rw [hall] at he
    have hcases : e ∈ (a ++ ew :: (b₁ ++ ee :: b₂)) ++ evs := by simpa using he
    exact (List.mem_append.mp hcases).resolve_left fun h => hstarts e h hej
  rcases hshow with hvalid | hhit
  · exact hread e (List.mem_append_right _ hlate) hvalid
  · exact not_hits (hevicted e (List.mem_append_right _ hlate)) e.op hhit

/-! ## A straddled resolve -/

/-- An environment in which a token is its own hash, and nothing else is asked of it. -/
def plainAgentEnv : AgentEnv where
  gateway := .firstRow
  hashToken := id
  verifySession := fun _ => none
  isUlid := fun _ => false
  debugText := id
  cacheTtl := 30
  actTokenTtl := 600

/-- A delegation of alice's to the agent `bot`. -/
def aliceDelegation : AgentDelegationRow :=
  ⟨"delegation", "acme", "bot", "alice", ["calendar:read"], 1000, none⟩

/-- A single row breaks no key. -/
theorem botRow_key : ([⟨"bot", "acme", none, "Bot", "active"⟩] : List AgentRow).Pairwise
    fun a a' => a.id ≠ a'.id := by decide

/-- The tenant of the agent exists. -/
theorem botRow_tenant : ∀ a ∈ ([⟨"bot", "acme", none, "Bot", "active"⟩] : List AgentRow),
    ∃ t ∈ ([⟨"acme"⟩] : List TenantRow), t.id = a.tenantId := by decide

/-- The active agent `bot`, with a token of the delegation. -/
def delegatedWorld : AgentWorld where
  base := { World.empty [⟨"acme"⟩] with
    db := { Db.empty [⟨"acme"⟩] with
      agents := [⟨"bot", "acme", none, "Bot", "active"⟩]
      agentKey := botRow_key
      agentTenant := botRow_tenant } }
  delegations := [aliceDelegation]
  actTokens := [⟨"token", "delegation", "acme", "bot", "alice", ["calendar:read"], 600⟩]
  membershipStates := []
  actCache := .empty
  statusCache := .empty
  delegationKey := by decide
  delegationAgent := by decide
  tokenKey := by decide
  tokenDelegation := by decide

/-- Alice, signed in. -/
def aliceContext : RequestContext := ⟨some "acme", some ⟨"acme", "alice", .user, []⟩⟩

/-- Two resolves of the token, and alice's revocation. -/
def resolvesAndRevoke : Fin 3 → AgentCall
  | 0 => .resolve "token"
  | 1 => .operation aliceContext (.revokeDelegation "delegation")
  | 2 => .resolve "token"

/-- One step of a program, a few seconds into the run. -/
def stepOf (i : Fin 3) : Fin 3 × Choice := (i, .plain "" 5)

/-- The first resolve reads the rows; then the revocation runs. -/
def revokedMeanwhile : List (Fin 3 × Choice) := List.replicate 5 (stepOf 0) ++ List.replicate 3 (stepOf 1)

/-- The first resolve caches its answer, and the second starts. -/
def resolvedAgain : List (Fin 3 × Choice) := stepOf 0 :: List.replicate 2 (stepOf 2)

/-- The delegation that is revoked. -/
def aliceGrant : InvalidationMessage := .delegation "delegation"

/-- The calls of the three programs along a schedule. -/
def grantCalls (sched : List (Fin 3 × Choice)) : List (Event AgentSig (Fin 3 × Choice) AgentWorld) :=
  (agentPool plainAgentEnv resolvesAndRevoke delegatedWorld).events (sharedAgents (Fin 3) plainAgentEnv)
    sched

/-- The three programs after a schedule. -/
def grantPool (sched : List (Fin 3 × Choice)) : Pool AgentSig (Fin 3) AgentOutcome AgentWorld :=
  (agentPool plainAgentEnv resolvesAndRevoke delegatedWorld).run (sharedAgents (Fin 3) plainAgentEnv)
    sched

/-- The answer of the revocation. -/
def revokedReply : AgentOutcome :=
  .replied (.ok (.delegation { aliceDelegation with revokedAt := some 5 }))

/-- The first resolve has ended before the revocation starts; the second starts after it. -/
def revokedBetween : List (Fin 3 × Choice) := List.replicate 6 (stepOf 0) ++ List.replicate 3 (stepOf 1)

/-- Nothing is straddled: the second resolve does not authenticate. -/
theorem revocation_immediate_between :
    ∃ o, (grantPool (revokedBetween ++ List.replicate 6 (stepOf 2))).Returned 2 o ∧
      ¬ o.Authenticates aliceGrant := by
  refine ⟨.resolved (.ok none), rfl, ?_⟩
  have hrevoked : (grantPool revokedBetween).Returned 1 revokedReply := rfl
  have hkept : ∀ ev ∈ grantCalls (revokedBetween ++ List.replicate 6 (stepOf 2)),
      ¬ Restores plainAgentEnv aliceGrant ev := by decide
  refine revocation_immediate plainAgentEnv resolvesAndRevoke delegatedWorld aliceGrant 1 2
    revokedBetween (List.replicate 6 (stepOf 2)) ?_ ⟨_, hrevoked⟩ (by decide) ?_ (by decide) _ rfl
  · exact hasWithdrawn_of_revoked plainAgentEnv resolvesAndRevoke delegatedWorld rfl revokedBetween
      hrevoked
  · intro pre ev post hsplit _ e he
    exact hkept e (by rw [grantCalls, hsplit]; simp [he])

/-- The first resolve reads the grant before the revocation and caches it afterwards: the second
resolve starts after the revocation has returned, and authenticates. -/
theorem stale_act_token :
    (∃ ev ∈ grantCalls revokedMeanwhile, HasWithdrawn plainAgentEnv aliceGrant 1 ev) ∧
    (grantPool revokedMeanwhile).Returned 1 revokedReply ∧
    (∀ ev ∈ grantCalls revokedMeanwhile, ev.choice.1 ≠ 2) ∧
    (∀ ev ∈ grantCalls (revokedMeanwhile ++ resolvedAgain),
      ¬ Restores plainAgentEnv aliceGrant ev) ∧
    ∃ o, (grantPool (revokedMeanwhile ++ resolvedAgain)).Returned 2 o ∧
      o.Authenticates aliceGrant := by
  have hrevoked : (grantPool revokedMeanwhile).Returned 1 revokedReply := rfl
  refine ⟨?_, hrevoked, by decide, by decide, ?_⟩
  · exact hasWithdrawn_of_revoked plainAgentEnv resolvesAndRevoke delegatedWorld rfl revokedMeanwhile
      hrevoked
  · exact ⟨.resolved (.ok (some ⟨"acme", "alice", "bot", "delegation", ["calendar:read"], 600⟩)), rfl,
      _, rfl, _, rfl, rfl⟩

end SsoGateway
