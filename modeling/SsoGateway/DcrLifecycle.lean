import SsoGateway.DcrCalls
import SsoGateway.Resolution
import SsoGateway.Lib.History

/-!
# Registration grants nothing, until the next boot

Registrations, boots and collector passes in any order, with no consent and no admin action. A
registered client should have no row and no tuple; but the backfill of a boot takes every mapped
client without a row for one from before the gates.

* `DcrStep`, `runDcr` — the steps, and a whole run.
* `issued` — the public ids given out by the registrations of a history.
* `DcrAllowed` — the condition on a run: generated ids are new, and a boot lists no client that was
  registered in the run.
* `registration_grants_nothing` — under it, registered clients stay without rows and tuples.
* `registration_seeded` — a registration followed by a boot.
-/

namespace SsoGateway

open Lib

/-! ## Runs -/

/-- A step of the run. -/
inductive DcrStep where
  /-- `POST /oauth2/register`. -/
  | register (lib : Libraries) (st : Oauth2State) (auth : Option AuthContext) (body : Value)
  /-- A start of the gateway. Source: `build_app_with_upstream`. -/
  | boot (cfg : DcrMaintenance)
  /-- A run of the collector. -/
  | collect (cfg : DcrMaintenance)

/-- The program of a step; what it answers is not looked at. -/
def DcrStep.prog : DcrStep → Prog Gateway Unit
  | .register lib st auth body => (fun _ => ()) <$> SsoGateway.register lib st auth body
  | .boot cfg => (fun _ => ()) <$> backfillLegacyDcrClients cfg
  | .collect cfg => (fun _ => ()) <$> reapUnusedRegistrations cfg

/-- The steps one after another. -/
def runDcr (steps : List DcrStep) : Prog Gateway Unit := steps.foldlM (fun _ step => step.prog) ()

/-- The id generated by a call, if it generates one. -/
def issuedBy (ev : Event Gateway Choice World) : Option String :=
  match ev.op with
  | .newUlid => some ev.choice.ulid
  | _ => none

/-- The public ids of the clients registered in a history. -/
def issued (past : History) : List String := past.filterMap issuedBy

/-- The client has no row and no tuple, in any tenant. -/
def Ungranted (publicId : String) (w : World) : Prop :=
  (∀ a ∈ w.db.applications, a.publicId ≠ publicId) ∧ ∀ x ∈ w.tuples, x.key.object ≠ publicId

/-- The id occurs neither as a public id nor in a tuple. -/
def FreshId (id : String) (w : World) : Prop :=
  (∀ m ∈ w.db.idMappings, m.publicId ≠ id) ∧ ∀ x ∈ w.tuples, x.key.object ≠ id

instance (id : String) (w : World) : Decidable (FreshId id w) := inferInstanceAs (Decidable (_ ∧ _))

/-- The condition on a call of the run: a generated id is new, and the clients a boot lists are not
among those registered before. -/
def DcrAllowed (op : GatewayOp) (c : Choice) (s : World × History) : Prop :=
  match op with
  | .newUlid => FreshId c.ulid s.1
  | .mapping (.listPublicIds t .hydra) =>
      ∀ m ∈ s.1.db.idMappings, m.tenantId = t → m.backend = .hydra → m.publicId ∉ issued s.2
  | _ => True

instance (op : GatewayOp) (c : Choice) (s : World × History) : Decidable (DcrAllowed op c s) := by
  unfold DcrAllowed
  induction op using GatewayOp.casesOn with
  | mapping op =>
      induction op using MappingOp.casesOn with
      | listPublicIds t backend => induction backend using Backend.casesOn <;> exact inferInstance
      | _ => exact inferInstance
  | _ => exact inferInstance

/-! ## One call -/

/-- The call gives no row and no tuple to a client that was registered before. -/
def SparesIssued (op : GatewayOp) (past : History) : Prop :=
  match op with
  | .application (.create _ p _ _) => p ∉ issued past
  | .entitlement (.seedApplication _ p _) => p ∉ issued past
  | .entitlement (.grant _ _ _ _) => False
  | .entitlement (.setGroupMembership _ _ _ _) => False
  | _ => True

theorem FreshId.ungranted {id : String} {w : World} (h : FreshId id w) : Ungranted id w := by
  refine ⟨fun a ha hp => ?_, h.2⟩
  obtain ⟨m, hm, hmp⟩ := w.db.applicationMapping a ha
  exact h.1 m hm (hmp.trans hp)

/-- The ids of a longer history. -/
theorem mem_issued_cons {ev : Event Gateway Choice World} {past : History} {p : String} :
    p ∈ issued (ev :: past) ↔ (ev.op = .newUlid ∧ p = ev.choice.ulid) ∨ p ∈ issued past := by
  unfold issued
  rw [List.mem_filterMap, List.mem_filterMap]
  constructor
  · rintro ⟨e, he, hp⟩
    rcases List.mem_cons.mp he with rfl | he
    · unfold issuedBy at hp
      split at hp
      · rename_i hop
        cases hp
        exact .inl ⟨hop, rfl⟩
      · cases hp
    · exact .inr ⟨e, he, hp⟩
  · rintro (⟨hop, rfl⟩ | ⟨e, he, hp⟩)
    · exact ⟨ev, List.mem_cons_self, by simp [issuedBy, hop]⟩
    · exact ⟨e, List.mem_cons_of_mem ev he, hp⟩

/-- A call that spares the client leaves it ungranted. -/
theorem ungranted_step (env : Env) {op : GatewayOp} {past : History} (hop : SparesIssued op past)
    {p : String} (hp : p ∈ issued past) {w : World} (hw : Ungranted p w) (c : Choice) :
    Ungranted p (gateway env op c w).2 := by
  have hstep := gateway_step env c w op
  generalize (gateway env op c w).2 = w' at hstep ⊢
  obtain ⟨hrow, htuple⟩ := hw
  cases hstep with
  | same => exact ⟨hrow, htuple⟩
  | insertMapping _ hdb =>
      refine ⟨?_, htuple⟩
      rw [(Db.insertMapping_ok hdb).2.1]
      exact hrow
  | deleteMapping _ hdb =>
      refine ⟨fun a ha => ?_, htuple⟩
      rw [(Db.deleteMapping_ok hdb).2.2.1] at ha
      exact hrow a (List.mem_of_mem_filter ha)
  | updateTenant _ hdb =>
      refine ⟨?_, htuple⟩
      rw [(Db.updateTenant_ok hdb).2.2.1]
      exact hrow
  | insertApplication hop' hdb =>
      subst hop'
      refine ⟨fun a ha => ?_, htuple⟩
      rw [(Db.insertApplication_ok hdb).1] at ha
      rcases List.mem_cons.mp ha with rfl | ha
      · rintro rfl
        exact hop hp
      · exact hrow a ha
  | deleteApplication _ hdb =>
      refine ⟨fun a ha => ?_, htuple⟩
      rw [(Db.deleteApplication_ok hdb).1] at ha
      exact hrow a (List.mem_of_mem_filter ha)
  | insertAgent _ hdb =>
      refine ⟨?_, htuple⟩
      rw [(Db.insertAgent_ok hdb).2.2.1]
      exact hrow
  | deleteAgent _ hdb =>
      refine ⟨?_, htuple⟩
      rw [(Db.deleteAgent_ok hdb).2.2.1]
      exact hrow
  | directory _ => exact ⟨hrow, htuple⟩
  | hydra _ => exact ⟨hrow, htuple⟩
  | kratos _ => exact ⟨hrow, htuple⟩
  | @tuples o t writes deletes hop' hwrites =>
      subst hop'
      refine ⟨hrow, fun x hx => ?_⟩
      rcases mem_applyTuples.mp hx with ⟨-, hkey⟩ | ⟨hx, -⟩
      · cases o with
        | seedApplication t' a groups =>
            obtain ⟨-, rfl, -⟩ := hwrites
            obtain ⟨group, -, hkey⟩ := List.mem_flatMap.mp hkey
            have hobj : x.key.object = a := by
              rcases List.mem_cons.mp hkey with h | h
              · rw [h]
                rfl
              · rw [List.mem_singleton.mp h]
                rfl
            rw [hobj]
            exact fun h => hop (h ▸ hp)
        | removeApplication t' a =>
            obtain ⟨-, rfl, -⟩ := hwrites
            exact absurd hkey List.not_mem_nil
        | grant _ _ _ _ => exact hop.elim
        | setGroupMembership _ _ _ _ => exact hop.elim
        | _ => exact hwrites.elim
      · exact htuple x hx

/-- **One call** keeps the registered clients ungranted. -/
theorem issued_ungranted_step (env : Env) {op : GatewayOp} {c : Choice} {s : World × History}
    (hallowed : DcrAllowed op c s) (hop : SparesIssued op s.2)
    (hs : ∀ p ∈ issued s.2, Ungranted p s.1) :
    ∀ p ∈ issued ((gateway env).traced op c s).2.2,
      Ungranted p ((gateway env).traced op c s).2.1 := by
  intro p hp
  rcases mem_issued_cons.mp hp with ⟨hnew, rfl⟩ | hp
  · have hnew : op = .newUlid := hnew
    subst hnew
    exact FreshId.ungranted hallowed
  · exact ungranted_step env hop hp (hs p hp) c

/-! ## The steps -/

/-- The contract of a run: under the condition, every call spares the registered clients. -/
def sparing : Contract Gateway Choice (World × History) :=
  Contract.alone DcrAllowed fun op _ s => SparesIssued op s.2

section steps

variable {env : Env}

/-- Calls of kinds that give nothing to anyone. -/
def GivesNothing : GatewayOp → Prop
  | .application (.create _ _ _ _) => False
  | .entitlement (.seedApplication _ _ _) => False
  | .entitlement (.grant _ _ _ _) => False
  | .entitlement (.setGroupMembership _ _ _ _) => False
  | _ => True

theorem GivesNothing.sparesIssued {op : GatewayOp} (hop : GivesNothing op) (past : History) :
    SparesIssued op past := by
  unfold SparesIssued
  split
  · exact hop.elim
  · exact hop.elim
  · exact hop.elim
  · exact hop.elim
  · trivial

theorem sat_sparing_of_calls {α : Type} {p : Prog Gateway α} (hp : p.Calls GivesNothing)
    (s : World × History) : p.Sat (gateway env).traced sparing (fun _ _ => True) s :=
  hp.sat (fun _ _ _ _ => trivial) (fun _ _ s hop _ _ => ⟨hop.sparesIssued s.2, trivial⟩) trivial

theorem givesNothing_of_isLookup {op : GatewayOp} (hop : op.IsLookup) : GivesNothing op := by
  unfold GivesNothing
  split
  · exact hop.elim
  · exact hop.elim
  · exact hop.elim
  · exact hop.elim
  · trivial

/-- The calls of the backfill of one client. -/
def BackfillsOnly (publicId : String) : GatewayOp → Prop
  | .newUlid => False
  | .application (.create _ p _ _) => p = publicId
  | .entitlement (.seedApplication _ p _) => p = publicId
  | .entitlement (.grant _ _ _ _) => False
  | .entitlement (.setGroupMembership _ _ _ _) => False
  | _ => True

theorem backfillsOnly_of_isQuery {publicId : String} {op : GatewayOp} (hop : op.IsQuery) :
    BackfillsOnly publicId op := by
  unfold BackfillsOnly
  split
  · exact hop
  · exact hop.elim
  · exact hop.elim
  · exact hop.elim
  · exact hop.elim
  · trivial

/-- The backfill of clients none of which was registered in the run. -/
theorem sat_sparing_backfillClient {cfg : DcrMaintenance} {tenantId publicId : String}
    {listed : List String} (hlisted : publicId ∈ listed) {s : World × History}
    (hs : ∀ p ∈ listed, p ∉ issued s.2) :
    (backfillClient cfg tenantId publicId).run.Sat (gateway env).traced sparing
      (fun _ s => ∀ p ∈ listed, p ∉ issued s.2) s := by
  have hcalls : (backfillClient cfg tenantId publicId).run.Calls (BackfillsOnly publicId) :=
    calls_backfillClient (fun _ => backfillsOnly_of_isQuery) rfl rfl
  refine hcalls.sat (fun s s' h hrely => hrely ▸ h) ?_ hs
  intro op c s hop hs _
  constructor
  · show SparesIssued op s.2
    unfold SparesIssued
    split
    · rw [hop]
      exact hs publicId hlisted
    · rw [hop]
      exact hs publicId hlisted
    · exact hop
    · exact hop
    · trivial
  · intro p hp hissued
    rcases mem_issued_cons.mp hissued with ⟨hnew, -⟩ | hissued
    · have hnew : op = .newUlid := hnew
      subst hnew
      exact hop
    · exact hs p hp hissued

/-- A boot that lists none of the registered clients spares them. -/
theorem sat_sparing_backfill (cfg : DcrMaintenance) (s : World × History) :
    (backfillLegacyDcrClients cfg).Sat (gateway env).traced sparing (fun _ _ => True) s := by
  have htenant : ∀ stats tenant s,
      (backfillTenant cfg stats tenant).Sat (gateway env).traced sparing (fun _ _ => True) s := by
    intro stats tenant s
    unfold backfillTenant
    rw [Prog.sat_bind]
    rintro s' rfl c hallowed
    refine ⟨trivial, ?_⟩
    -- what was listed is in the table
    have hlisted : ∀ ids,
        (gateway env (.mapping (.listPublicIds tenant.id .hydra)) c s.1).1 = .ok ids →
        ∀ p ∈ ids, p ∉ issued s.2 := by
      intro ids hids p hp
      rw [gateway_listPublicIds_ok env c s.1 hids] at hp
      obtain ⟨m, hm, rfl⟩ := List.mem_map.mp hp
      obtain ⟨hm, ht, hb⟩ := Db.mem_mappingRows.mp hm
      exact hallowed m hm ht hb
    have hissued : ∀ p, p ∈ issued ((gateway env).traced
        (.mapping (.listPublicIds tenant.id .hydra)) c s).2.2 → p ∈ issued s.2 := by
      intro p hp
      rcases mem_issued_cons.mp hp with ⟨hnew, -⟩ | hp
      · cases hnew
      · exact hp
    rcases hids : (gateway env (.mapping (.listPublicIds tenant.id .hydra)) c s.1).1 with e | ids
    · simp only [Handler.traced, hids]
      exact trivial
    · simp only [Handler.traced, hids]
      refine (Prog.sat_foldlM (I := fun _ s => ∀ p ∈ ids, p ∉ issued s.2) ?_ ?_).post
        fun _ _ _ => trivial
      · intro stats p hp s hs
        exact Prog.sat_map.mpr (sat_sparing_backfillClient hp hs)
      · exact fun p hp h => hlisted ids hids p hp (hissued p h)
  unfold backfillLegacyDcrClients
  rw [Prog.sat_bind]
  refine Prog.sat_perform.mpr ?_
  rintro s' rfl c -
  refine ⟨trivial, ?_⟩
  split
  · exact trivial
  · exact Prog.sat_foldlM (I := fun _ _ => True) (fun stats tenant _ s _ => htenant stats tenant s)
      trivial

theorem sat_sparing_step (step : DcrStep) (s : World × History) :
    step.prog.Sat (gateway env).traced sparing (fun _ _ => True) s := by
  cases step with
  | register lib st auth body =>
      exact sat_sparing_of_calls (Prog.calls_map (calls_register
        (fun _ => givesNothing_of_isLookup) (fun _ => trivial) (fun _ _ => trivial) lib)) s
  | boot cfg => exact Prog.sat_map.mpr (sat_sparing_backfill cfg s)
  | collect cfg =>
      exact sat_sparing_of_calls (Prog.calls_map (calls_reapUnusedRegistrations
        (fun _ hop => givesNothing_of_isLookup hop.isLookup) (fun _ => trivial) (fun _ _ => trivial)
        cfg)) s

end steps

/-! ## Whole runs -/

/-- **Registration grants nothing**, across boots and collector passes: if generated ids are new and
no boot lists a client registered before it, then at every call of the run, and at its end, the
clients registered so far have no row and no tuple in any tenant. -/
theorem registration_grants_nothing (env : Env) (steps : List DcrStep) (o : ℕ → Choice) (w : World)
    (hallowed : ∀ ev ∈ remembered [] ((runDcr steps).events (gateway env) o w),
      DcrAllowed ev.op ev.choice ev.before) :
    (∀ ev ∈ remembered [] ((runDcr steps).events (gateway env) o w),
      ∀ p ∈ issued ev.before.2, Ungranted p ev.before.1) ∧
    ∀ p ∈ issued ((runDcr steps).events (gateway env) o w),
      Ungranted p ((runDcr steps).run (gateway env) o w).2 := by
  have hsat : (runDcr steps).Sat (gateway env).traced sparing (fun _ _ => True) (w, []) :=
    Prog.sat_foldlM (I := fun _ _ => True) (fun _ step _ s _ => sat_sparing_step step s) trivial
  rw [← Prog.events_traced] at hallowed ⊢
  obtain ⟨hspares, -⟩ := hsat.run_events (fun _ => rfl) hallowed
  have hchain := Prog.chained_events (gateway env).traced (runDcr steps) o (w, [])
  obtain ⟨hend, hbefore⟩ := hchain.invariant
    (I := fun s => ∀ p ∈ issued s.2, Ungranted p s.1) (fun p hp => absurd hp List.not_mem_nil)
    fun ev hev hs => issued_ungranted_step env (hallowed ev hev) (hspares ev hev) hs
  refine ⟨hbefore, fun p hp => ?_⟩
  rw [Prog.run_traced] at hend
  refine hend p ?_
  simpa [issued] using hp

/-- A registration without a caller, with the given body. -/
def anonymousRegistration (body : Value) : DcrStep :=
  .register ⟨fun _ => .error "", fun _ => none, fun _ => none, fun _ => ""⟩
    ⟨"system", true, true, 604800⟩ none body

/-- Choices under which nothing fails and every call takes a second. -/
def ticking (n : ℕ) : Choice := Choice.plain (toString n) n

/-- A registration that is collected before the next boot leaves nothing behind. -/
theorem registration_grants_nothing_collected :
    let steps := [anonymousRegistration (.obj []), .collect ⟨["everyone"], 1⟩, .boot ⟨["everyone"], 1⟩]
    let w := World.empty [⟨"system"⟩]
    Ungranted "0" ((runDcr steps).run (gateway Env.firstRow) ticking w).2 := by
  intro steps w
  refine (registration_grants_nothing Env.firstRow steps ticking w ?_).2 "0" ?_
  · decide
  · decide

/-- A registration, then a boot: the client has a row, and group links in the system tenant. -/
theorem registration_seeded :
    let steps := [anonymousRegistration (.obj []), .boot ⟨["everyone"], 604800⟩]
    let events := (runDcr steps).events (gateway Env.firstRow) ticking (World.empty [⟨"system"⟩])
    let final := ((runDcr steps).run (gateway Env.firstRow) ticking (World.empty [⟨"system"⟩])).2
    issued events = ["0"] ∧ final.db.applications.map (·.publicId) = ["0"] ∧
      final.tuples.map (fun x => (x.tenantId, x.key.object)) = [("system", "0"), ("system", "0")] := by
  decide

end SsoGateway
