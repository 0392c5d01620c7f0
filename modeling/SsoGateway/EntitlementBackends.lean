import SsoGateway.Lib.Inside
import SsoGateway.Lib.Straight
import SsoGateway.Lib.Translate
import SsoGateway.PermissionService
import SsoGateway.Steps

/-!
# The entitlement service on the two backends

Where a batch of tuples is concerned the backends differ. Keto is sent one request for each tuple and can
stop halfway. OpenFGA is sent the tuples it lacks in one request, which it applies as a whole; it refuses
a request that names a tuple twice or has too many of them.

* `ketoCall`, `fgaHandler` — the calls of the service as each backend carries them out.
* `gatewayOn` — the gateway with one of them.
* `ketoTaken`, `CutSeeding` — the links that are stored when Keto fails midway.
* `seedApplication_run` — what the seeding of an application without tuples leaves, faults included.

Source: `services/permission.rs` (`write_tuples`, `ensure_tuples`), `sso-openfga-client` `write_tuples`.
-/

namespace SsoGateway

open Lib

/-! ## Keto -/

/-- One tuple of a batch. -/
def ketoWrite (tenantId : String) (key : RelationTupleKey) :
    ExceptT PermissionBackendError (Prog PermissionSig) PUnit :=
  ExceptT.mk (Prog.perform (S := PermissionSig) (.ensureTuples tenantId [key] []))

/-- One delete of a batch. -/
def ketoDelete (tenantId : String) (key : RelationTupleKey) :
    ExceptT PermissionBackendError (Prog PermissionSig) PUnit :=
  ExceptT.mk (Prog.perform (S := PermissionSig) (.ensureTuples tenantId [] [key]))

/-- Source: `KetoBackend::write_tuples`. -/
def ketoWriteTuples (tenantId : String) (writes deletes : List RelationTupleKey) :
    ExceptT PermissionBackendError (Prog PermissionSig) PUnit := do
  writes.forM (ketoWrite tenantId)
  deletes.forM (ketoDelete tenantId)

/-- The calls of the service as Keto carries them out. Namespaces need not be declared, and a batch is
one request for each of its tuples. -/
def ketoCall : (op : PermissionOp) → Prog PermissionSig op.Res
  | .ensureModel _ _ => pure (.ok ())
  | .ensureTuples t writes deletes => (ketoWriteTuples t writes deletes).run
  | .checkPermission t n o r s => Prog.perform (S := PermissionSig) (.checkPermission t n o r s)
  | .readTuples t n o => Prog.perform (S := PermissionSig) (.readTuples t n o)
  | .listUsers _ _ _ _ =>
      pure (.error ⟨"configuration: ListUsers is not supported by the keto backend"⟩)

/-! ## OpenFGA -/

/-- How many keys a request may have in one direction. Source: `OpenFgaClient::write_tuples`. -/
def fgaBatchLimit : ℕ := 100

/-- The batch is one that OpenFGA applies. -/
def FgaTakes (writes deletes : List RelationTupleKey) : Prop :=
  (writes ++ deletes).Nodup ∧ writes.length ≤ fgaBatchLimit ∧ deletes.length ≤ fgaBatchLimit

instance (writes deletes : List RelationTupleKey) : Decidable (FgaTakes writes deletes) :=
  inferInstanceAs (Decidable (_ ∧ _ ∧ _))

/-- The refusal of a batch. -/
def fgaRefusal : PermissionBackendError := ⟨"openfga backend error: 400 write_failed_due_to_invalid_input"⟩

/-- The calls of the service as OpenFGA carries them out. Source: `OpenFgaBackend::ensure_tuples` for
batches: what is there is not written, and what is not there is not deleted. -/
def fgaHandler (depth : ℕ) : Handler PermissionSig (Option Fault) (List StoredTuple)
  | .ensureTuples t writes deletes, fault, ts =>
      let missing := writes.filter fun k => (⟨t, k⟩ : StoredTuple) ∉ ts
      let present := deletes.filter fun k => (⟨t, k⟩ : StoredTuple) ∈ ts
      answer ts fault
        (if FgaTakes missing present then (.ok (), applyTuples ts t missing present)
        else (.error fgaRefusal, ts))
  | op, fault, ts => permissionHandler depth op fault ts

/-! ## The gateway -/

/-- A method of the service on a backend. -/
def EntitlementOp.methodOn (b : PermissionBackend) (op : EntitlementOp) : Prog PermissionSig op.Res :=
  match b with
  | .keto => op.method.translate ketoCall
  | .openFga => op.method

/-- What the calls do on a backend. -/
def backendHandler (b : PermissionBackend) (depth : ℕ) :
    Handler PermissionSig (Option Fault) (List StoredTuple) :=
  match b with
  | .keto => permissionHandler depth
  | .openFga => fgaHandler depth

/-- The service runs its method on the backend; the faults are those of the requests, in order. -/
def entitlementOn (b : PermissionBackend) (env : Env) (op : EntitlementOp) (c : Choice)
    (tuples : List StoredTuple) : op.Res × List StoredTuple :=
  (op.methodOn b).run (backendHandler b env.checkDepth) c.fault tuples

/-- The gateway on a permission backend. -/
def gatewayOn (b : PermissionBackend) (env : Env) : Handler Gateway Choice World
  | .entitlement op, c, w =>
      let r := entitlementOn b env op c w.tuples
      (r.1, { w with tuples := r.2 })
  | op, c, w => gateway env op c w

/-! ## Seeding -/

/-- A link is a tuple on its application. -/
theorem mem_groupLinks {p : String} {groups : List String} {k : RelationTupleKey}
    (hk : k ∈ EntitlementServiceImpl.groupLinks p groups) :
    k.nspace = entitlementNamespace ∧ k.object = p := by
  obtain ⟨g, -, hk⟩ := List.mem_flatMap.mp hk
  simp only [List.mem_cons, List.not_mem_nil, or_false] at hk
  rcases hk with rfl | rfl
  · exact ⟨rfl, rfl⟩
  · exact ⟨rfl, rfl⟩

/-- The links Keto has taken when the requests for them come with these faults. -/
def ketoTaken : List RelationTupleKey → (ℕ → Option Fault) → List RelationTupleKey
  | [], _ => []
  | k :: ks, fault =>
      match fault 0 with
      | none => k :: ketoTaken ks fun n => fault (n + 1)
      | some f => if f.applied then [k] else []

/-- Keto fails after it has taken some of the links, and before it has taken all. -/
def CutSeeding (b : PermissionBackend) (links : List RelationTupleKey) (fault : ℕ → Option Fault) : Prop :=
  b = .keto ∧ ketoTaken links fault ≠ [] ∧ ∃ k ∈ links, k ∉ ketoTaken links fault

instance (b : PermissionBackend) (links : List RelationTupleKey) (fault : ℕ → Option Fault) :
    Decidable (CutSeeding b links fault) :=
  inferInstanceAs (Decidable (_ ∧ _ ∧ _))

/-- The backend does not refuse the links as a batch. -/
def Seedable (b : PermissionBackend) (links : List RelationTupleKey) : Prop :=
  b = .openFga → FgaTakes links []

theorem ketoTaken_subset {ks : List RelationTupleKey} {fault : ℕ → Option Fault} :
    ketoTaken ks fault ⊆ ks := by
  induction ks generalizing fault with
  | nil => simp [ketoTaken]
  | cons k ks ih =>
      intro x hx
      rcases hf : fault 0 with _ | f
      · rw [ketoTaken, hf] at hx
        rcases List.mem_cons.mp hx with rfl | hx
        · exact List.mem_cons_self
        · exact List.mem_cons_of_mem k (ih hx)
      · by_cases hfa : f.applied
        · simp only [ketoTaken, hf, hfa, if_true, List.mem_singleton] at hx
          simp [hx]
        · simp [ketoTaken, hf, hfa] at hx

theorem ketoTaken_calm {ks : List RelationTupleKey} {fault : ℕ → Option Fault} (h : ∀ n, fault n = none) :
    ketoTaken ks fault = ks := by
  induction ks generalizing fault with
  | nil => rfl
  | cons k ks ih =>
      rw [ketoTaken, h 0]
      simp only [ih fun n => h (n + 1)]

/-- Without a fault no seeding is cut. -/
theorem not_cutSeeding {b : PermissionBackend} {links : List RelationTupleKey} {fault : ℕ → Option Fault}
    (h : ∀ n, fault n = none) : ¬ CutSeeding b links fault := by
  rintro ⟨-, -, k, hk, hk'⟩
  rw [ketoTaken_calm h] at hk'
  exact hk' hk

/-- One tuple written to Keto, and what follows it. -/
theorem run_ketoWrite_bind {depth : ℕ} {t : String} {k : RelationTupleKey} {fault : ℕ → Option Fault}
    {ts : List StoredTuple} (rest : ExceptT PermissionBackendError (Prog PermissionSig) PUnit) :
    (ketoWrite t k >>= fun _ => rest).run.run (permissionHandler depth) fault ts =
      match fault 0 with
      | none => rest.run.run (permissionHandler depth) (fun n => fault (n + 1)) (applyTuples ts t [k] [])
      | some f => (.error (.ofOryClientError f.error),
          if f.applied then applyTuples ts t [k] [] else ts) := by
  show Prog.run _ (Prog.call _ _) _ _ = _
  rcases hf : fault 0 with _ | f
  · simp only [Prog.run, permissionHandler, answer, hf, Fault.answer_none]
    rfl
  · simp only [Prog.run, permissionHandler, answer, hf, Fault.answer]
    rfl

/-- A batch on Keto: what is there afterwards is what was there and what Keto took; it succeeds if there
is no fault, and then only has everything been taken for certain. -/
theorem run_ketoWrites (depth : ℕ) (t : String) (ks : List RelationTupleKey) (fault : ℕ → Option Fault)
    (ts : List StoredTuple) :
    let r := (ks.forM (ketoWrite t)).run.run (permissionHandler depth) fault ts
    (∀ x, x ∈ r.2 ↔ x ∈ ts ∨ x.tenantId = t ∧ x.key ∈ ketoTaken ks fault) ∧
      (∀ u, r.1 = .ok u → ketoTaken ks fault = ks) ∧ ((∀ n, fault n = none) → r.1 = .ok ()) := by
  induction ks generalizing fault ts with
  | nil =>
      refine ⟨fun x => ?_, fun u _ => rfl, fun _ => rfl⟩
      show x ∈ ts ↔ _
      simp [ketoTaken]
  | cons k ks ih =>
      have hloop : ((k :: ks).forM (ketoWrite t)).run =
          (ketoWrite t k >>= fun _ => ks.forM (ketoWrite t)).run := rfl
      intro r
      have hr : r = _ := congrArg (fun p => Prog.run _ p fault ts) hloop |>.trans (run_ketoWrite_bind _)
      rcases hf : fault 0 with _ | f
      · obtain ⟨hmem, hall, hcalm⟩ := ih (fun n => fault (n + 1)) (applyTuples ts t [k] [])
        rw [hf] at hr
        rw [hr]
        have htaken : ketoTaken (k :: ks) fault = k :: ketoTaken ks fun n => fault (n + 1) := by
          simp [ketoTaken, hf]
        rw [htaken]
        refine ⟨fun x => ?_, fun u hu => ?_, fun hnone => hcalm fun n => hnone (n + 1)⟩
        · rw [hmem x, mem_applyTuples]
          simp only [List.not_mem_nil, and_false, not_false_eq_true, and_true, List.mem_cons]
          tauto
        · rw [hall u hu]
      · rw [hf] at hr
        rw [hr]
        refine ⟨fun x => ?_, fun u hu => ?_, fun hnone => ?_⟩
        · by_cases hfa : f.applied
          · simp only [hfa, if_true, mem_applyTuples, ketoTaken, hf, List.mem_singleton,
              List.not_mem_nil, and_false, not_false_eq_true, and_true]
            tauto
          · simp [hfa, ketoTaken, hf]
        · simp at hu
        · simp [hnone 0] at hf

/-- A success that is left as it is. -/
theorem ok_of_mapError {ε ε' α : Type} {f : ε → ε'} {r : Except ε α} {a : α}
    (h : r.mapError f = .ok a) : r = .ok a := by
  cases r with
  | error e => simp [Except.mapError] at h
  | ok b => simpa [Except.mapError] using h

section seeding

open EntitlementServiceImpl

variable {env : Env} {t p : String} {groups : List String} {c : Choice} {ts : List StoredTuple}

/-- The seeding on Keto is the batch of its links. -/
theorem seedApplication_keto :
    entitlementOn .keto env (.seedApplication t p groups) c ts =
      if groupLinks p groups = [] then (.ok (), ts)
      else
        let r := ((groupLinks p groups).forM (ketoWrite t)).run.run (permissionHandler env.checkDepth)
          c.fault ts
        (r.1.mapError mapBackendError, r.2) := by
  have hbatch : ketoWriteTuples t (groupLinks p groups) [] = (groupLinks p groups).forM (ketoWrite t) := by
    unfold ketoWriteTuples
    exact bind_pure_unit
  unfold entitlementOn EntitlementOp.methodOn EntitlementOp.method seedApplication
  by_cases hlinks : groupLinks p groups = []
  · simp only [hlinks, ne_eq, not_true_eq_false, if_false, if_true]
    rfl
  · simp only [hlinks, ne_eq, not_false_eq_true, if_true, if_false]
    rw [← hbatch, ← Prog.run_map]
    have hcall : ketoCall (.ensureTuples t (groupLinks p groups) []) =
        (ketoWriteTuples t (groupLinks p groups) []).run := rfl
    rw [← hcall]
    rfl

/-- The seeding on OpenFGA publishes the model and then sends the links in one request. -/
theorem seedApplication_openFga (hfresh : ∀ k ∈ groupLinks p groups, (⟨t, k⟩ : StoredTuple) ∉ ts) :
    entitlementOn .openFga env (.seedApplication t p groups) c ts =
      match c.fault 0 with
      | some f => (.error (mapBackendError (.ofOryClientError f.error)), ts)
      | none =>
          if groupLinks p groups = [] then (.ok (), ts)
          else
            let r := answer ts (c.fault 1)
              (if FgaTakes (groupLinks p groups) [] then (.ok (), applyTuples ts t (groupLinks p groups) [])
              else (.error fgaRefusal, ts))
            (r.1.mapError mapBackendError, r.2) := by
  have hmissing : (groupLinks p groups).filter (fun k => (⟨t, k⟩ : StoredTuple) ∉ ts) =
      groupLinks p groups := List.filter_eq_self.mpr fun k hk => by simpa using hfresh k hk
  unfold entitlementOn EntitlementOp.methodOn EntitlementOp.method seedApplication
  rcases hf : c.fault 0 with _ | f
  · by_cases hlinks : groupLinks p groups = []
    · simp only [hlinks, ne_eq, not_true_eq_false, if_false, if_true]
      show Prog.run _ (Prog.call _ _) _ _ = _
      simp only [Prog.run, backendHandler, fgaHandler, permissionHandler, answer, hf, Fault.answer_none]
      rfl
    · simp only [hlinks, ne_eq, not_false_eq_true, if_true, if_false]
      show Prog.run _ (Prog.call _ _) _ _ = _
      simp only [Prog.run, backendHandler, fgaHandler, permissionHandler, answer, hf, Fault.answer_none]
      show Prog.run _ (Prog.call _ _) _ _ = _
      simp only [Prog.run, fgaHandler, hmissing]
      rfl
  · show Prog.run _ (Prog.call _ _) _ _ = _
    simp only [Prog.run, backendHandler, fgaHandler, permissionHandler, answer, hf, Fault.answer, ite_self]
    rfl

/-- What a seeding leaves of its links, and how it ended. -/
structure Seeding (b : PermissionBackend) (t : String) (links : List RelationTupleKey) (c : Choice)
    (ts : List StoredTuple) (r : Except ServiceError Unit × List StoredTuple)
    (taken : List RelationTupleKey) : Prop where
  subset : taken ⊆ links
  tuples : ∀ x, x ∈ r.2 ↔ x ∈ ts ∨ x.tenantId = t ∧ x.key ∈ taken
  success : ∀ u, r.1 = .ok u → Seedable b links ∧ links ⊆ taken
  seedable : taken ≠ [] → Seedable b links
  cut : CutSeeding b links c.fault ↔ taken ≠ [] ∧ ∃ k ∈ links, k ∉ taken
  calm : Seedable b links → c.FaultFree → r.1 = .ok ()

/-- **Seeding an application that has no tuple.** -/
theorem seedApplication_run (b : PermissionBackend) (env : Env) (c : Choice)
    (hfresh : ∀ k ∈ groupLinks p groups, (⟨t, k⟩ : StoredTuple) ∉ ts) :
    ∃ taken, Seeding b t (groupLinks p groups) c ts
      (entitlementOn b env (.seedApplication t p groups) c ts) taken := by
  cases b with
  | keto =>
      have hketo : Seedable .keto (groupLinks p groups) := by simp [Seedable]
      obtain ⟨hmem, hall, hcalm⟩ := run_ketoWrites env.checkDepth t (groupLinks p groups) c.fault ts
      rw [seedApplication_keto]
      by_cases hlinks : groupLinks p groups = []
      · rw [if_pos hlinks]
        exact ⟨[], by simp, by simp, by simp [Seedable, hlinks], by simp, by simp [CutSeeding, hlinks],
          fun _ _ => rfl⟩
      · rw [if_neg hlinks]
        refine ⟨ketoTaken (groupLinks p groups) c.fault, ketoTaken_subset, hmem, fun u hu => ⟨hketo, ?_⟩,
          fun _ => hketo, by simp [CutSeeding], fun _ hc => ?_⟩
        · rw [hall u (ok_of_mapError hu)]
          exact List.Subset.refl _
        · simp only [hcalm hc]
          rfl
  | openFga =>
      have huncut : ¬ CutSeeding .openFga (groupLinks p groups) c.fault := by simp [CutSeeding]
      -- nothing is taken, or the batch as a whole
      have hnothing : ∀ e, ¬ (c.FaultFree ∧ Seedable .openFga (groupLinks p groups)) →
          Seeding .openFga t (groupLinks p groups) c ts (.error e, ts) [] := fun e hbad =>
        ⟨by simp, by simp, by simp, by simp, by simp [huncut], fun hseed hc => absurd ⟨hc, hseed⟩ hbad⟩
      have hbatch : ∀ r : Except ServiceError Unit, FgaTakes (groupLinks p groups) [] →
          (c.FaultFree → r = .ok ()) → Seeding .openFga t (groupLinks p groups) c ts
            (r, applyTuples ts t (groupLinks p groups) []) (groupLinks p groups) := by
        intro r htakes hr
        refine ⟨List.Subset.refl _, fun x => ?_, fun _ _ => ⟨fun _ => htakes, List.Subset.refl _⟩,
          fun _ _ => htakes, ?_, fun _ hc => hr hc⟩
        · simp only [mem_applyTuples, List.not_mem_nil, and_false, not_false_eq_true, and_true]
          tauto
        · simp only [huncut, false_iff, not_and]
          rintro - ⟨k, hk, hk'⟩
          exact hk' hk
      rw [seedApplication_openFga hfresh]
      rcases hmodel : c.fault 0 with _ | f
      · by_cases hlinks : groupLinks p groups = []
        · simp only [hlinks, if_true]
          exact ⟨[], by simp, by simp, by simp [Seedable, FgaTakes], by simp, by simp [CutSeeding],
            fun _ _ => rfl⟩
        · simp only [hlinks, if_false]
          by_cases htakes : FgaTakes (groupLinks p groups) []
          · rw [if_pos htakes]
            rcases hsend : c.fault 1 with _ | f
            · exact ⟨_, hbatch _ htakes fun _ => rfl⟩
            · have hfault : ¬ c.FaultFree := fun hc => by simp [hc 1] at hsend
              by_cases hf : f.applied
              · simp only [answer, Fault.answer, hf, if_true]
                exact ⟨_, hbatch _ htakes fun hc => absurd hc hfault⟩
              · simp only [answer, Fault.answer, hf]
                exact ⟨[], hnothing _ fun hc => hfault hc.1⟩
          · rw [if_neg htakes]
            have hbad : ¬ (c.FaultFree ∧ Seedable .openFga (groupLinks p groups)) :=
              fun hboth => htakes (hboth.2 rfl)
            rcases hsend : c.fault 1 with _ | f
            · exact ⟨[], hnothing _ hbad⟩
            · simp only [answer, Fault.answer, ite_self]
              exact ⟨[], hnothing _ hbad⟩
      · exact ⟨[], hnothing _ fun hc => by simp [hc.1 0] at hmodel⟩

end seeding

/-! ## Reading -/

/-- The tuples on an application in the entitlement store of the tenant. -/
def tuplesOf (ts : List StoredTuple) (t p : String) : List StoredTuple :=
  ts.filter fun x => x.tenantId = t ∧ x.key.nspace = entitlementNamespace ∧ x.key.object = p

/-- Whether an application has tuples is one request of either backend. -/
theorem entitlementOn_hasAnyTuples (b : PermissionBackend) (env : Env) (c : Choice) (t p : String)
    (ts : List StoredTuple) : entitlementOn b env (.hasAnyTuples t p) c ts =
      match c.fault 0 with
      | none => (.ok !((tuplesOf ts t p).map (·.key)).isEmpty, ts)
      | some f => (.error (mapBackendError (.ofOryClientError f.error)), ts) := by
  rcases hf : c.fault 0 with _ | f
  · cases b with
    | keto =>
        show Prog.run _ (Prog.call _ _) _ _ = _
        simp only [Prog.run, backendHandler, permissionHandler, answer, hf, Fault.answer_none]
        rfl
    | openFga =>
        show Prog.run _ (Prog.call _ _) _ _ = _
        simp only [Prog.run, backendHandler, fgaHandler, permissionHandler, answer, hf, Fault.answer_none]
        rfl
  · cases b with
    | keto =>
        show Prog.run _ (Prog.call _ _) _ _ = _
        simp only [Prog.run, backendHandler, permissionHandler, answer, hf, Fault.answer, ite_self]
        rfl
    | openFga =>
        show Prog.run _ (Prog.call _ _) _ _ = _
        simp only [Prog.run, backendHandler, fgaHandler, permissionHandler, answer, hf, Fault.answer, ite_self]
        rfl

theorem gatewayOn_hasAnyTuples (b : PermissionBackend) (env : Env) (c : Choice) (w : World)
    (t p : String) :
    (∃ found : Bool, (found = true ↔ ∃ x ∈ w.tuples, x.tenantId = t ∧
        x.key.nspace = entitlementNamespace ∧ x.key.object = p) ∧
      gatewayOn b env (.entitlement (.hasAnyTuples t p)) c w = (.ok found, w)) ∨
    ∃ e, ¬ c.FaultFree ∧ gatewayOn b env (.entitlement (.hasAnyTuples t p)) c w = (.error e, w) := by
  rcases hf : c.fault 0 with _ | f
  · refine .inl ⟨!((tuplesOf w.tuples t p).map (·.key)).isEmpty, by simp [tuplesOf], ?_⟩
    simp only [gatewayOn, entitlementOn_hasAnyTuples, hf]
  · refine .inr ⟨mapBackendError (.ofOryClientError f.error), fun hc => by simp [hc 0] at hf, ?_⟩
    simp only [gatewayOn, entitlementOn_hasAnyTuples, hf]

/-! ## One application at a time -/

/-- The tuples on an object are the same. -/
def SameTuples (p : String) (ts us : List StoredTuple) : Prop :=
  ∀ x : StoredTuple, x.key.object = p → (x ∈ us ↔ x ∈ ts)

/-- The calls that concern one object and are answered by its tuples: the model is published, and batches
of its tuples are written. -/
def PermissionOp.WritesOn (p : String) : PermissionOp → Prop
  | .ensureModel _ _ => True
  | .ensureTuples _ writes deletes => ∀ k ∈ writes ++ deletes, k.object = p
  | _ => False

/-- The tuples on other objects do not matter to them. -/
theorem backendHandler_agree {b : PermissionBackend} {depth : ℕ} {p : String} {op : PermissionOp}
    (hop : op.WritesOn p) (f : Option Fault) {ts us : List StoredTuple} (hsame : SameTuples p ts us) :
    (backendHandler b depth op f ts).1 = (backendHandler b depth op f us).1 ∧
      SameTuples p (backendHandler b depth op f ts).2 (backendHandler b depth op f us).2 := by
  have hanswer : ∀ (r r' : Except PermissionBackendError Unit × List StoredTuple), r.1 = r'.1 →
      SameTuples p r.2 r'.2 → (answer ts f r).1 = (answer us f r').1 ∧
        SameTuples p (answer ts f r).2 (answer us f r').2 := by
    intro r r' hr hr'
    rcases f with _ | f
    · exact ⟨hr, hr'⟩
    · by_cases hf : f.applied
      · simpa [answer, Fault.answer, hf] using hr'
      · simpa [answer, Fault.answer, hf] using hsame
  have happly : ∀ t writes deletes, SameTuples p (applyTuples ts t writes deletes)
      (applyTuples us t writes deletes) := by
    intro t writes deletes x hx
    simp only [mem_applyTuples, hsame x hx]
  cases op with
  | ensureModel t n =>
      cases b with
      | keto => exact hanswer _ _ rfl hsame
      | openFga => exact hanswer _ _ rfl hsame
  | ensureTuples t writes deletes =>
      cases b with
      | keto => exact hanswer _ _ rfl (happly t writes deletes)
      | openFga =>
          have hmem : ∀ k ∈ writes ++ deletes, ((⟨t, k⟩ : StoredTuple) ∈ us ↔ (⟨t, k⟩ : StoredTuple) ∈ ts) :=
            fun k hk => hsame ⟨t, k⟩ (hop k hk)
          have hmissing : writes.filter (fun k => (⟨t, k⟩ : StoredTuple) ∉ us) =
              writes.filter fun k => (⟨t, k⟩ : StoredTuple) ∉ ts :=
            List.filter_congr fun k hk => by simp [hmem k (List.mem_append_left _ hk)]
          have hpresent : deletes.filter (fun k => (⟨t, k⟩ : StoredTuple) ∈ us) =
              deletes.filter fun k => (⟨t, k⟩ : StoredTuple) ∈ ts :=
            List.filter_congr fun k hk => by simp [hmem k (List.mem_append_right _ hk)]
          simp only [backendHandler, fgaHandler, hmissing, hpresent]
          refine hanswer _ _ ?_ ?_
          · split <;> rfl
          · split
            · exact happly t _ _
            · exact hsame
  | checkPermission t n o r s => exact hop.elim
  | readTuples t n o => exact hop.elim
  | listUsers t n o r => exact hop.elim

/-- They leave the other objects alone. -/
theorem backendHandler_frame {b : PermissionBackend} {depth : ℕ} {p p' : String} {op : PermissionOp}
    (hop : op.WritesOn p) (hne : p' ≠ p) (f : Option Fault) (ts : List StoredTuple) :
    SameTuples p' ts (backendHandler b depth op f ts).2 := by
  have hanswer : ∀ r : Except PermissionBackendError Unit × List StoredTuple, SameTuples p' ts r.2 →
      SameTuples p' ts (answer ts f r).2 := by
    intro r hr
    have hend : (answer ts f r).2 = ts ∨ (answer ts f r).2 = r.2 := Fault.answer_snd f
    rcases hend with h | h
    · rw [h]
      exact fun x _ => Iff.rfl
    · rw [h]
      exact hr
  have happly : ∀ t writes deletes, (∀ k ∈ writes ++ deletes, k.object = p) →
      SameTuples p' ts (applyTuples ts t writes deletes) := by
    intro t writes deletes hobjects x hx
    have hother : ∀ k ∈ writes ++ deletes, x.key ≠ k := by
      rintro k hk rfl
      exact hne (hx.symm.trans (hobjects _ hk))
    have hw : x.key ∉ writes := fun h => hother _ (List.mem_append_left _ h) rfl
    have hd : x.key ∉ deletes := fun h => hother _ (List.mem_append_right _ h) rfl
    simp [mem_applyTuples, hw, hd]
  cases op with
  | ensureModel t n =>
      cases b with
      | keto => exact hanswer _ fun x _ => Iff.rfl
      | openFga => exact hanswer _ fun x _ => Iff.rfl
  | ensureTuples t writes deletes =>
      cases b with
      | keto => exact hanswer _ (happly t writes deletes hop)
      | openFga =>
          simp only [backendHandler, fgaHandler]
          refine hanswer _ ?_
          split
          · refine happly t _ _ fun k hk => hop k ?_
            rcases List.mem_append.mp hk with hk | hk
            · exact List.mem_append_left _ (List.mem_of_mem_filter hk)
            · exact List.mem_append_right _ (List.mem_of_mem_filter hk)
          · exact fun x _ => Iff.rfl
  | checkPermission t n o r s => exact hop.elim
  | readTuples t n o => exact hop.elim
  | listUsers t n o r => exact hop.elim

/-- The seeding of an application makes such calls only. -/
theorem calls_seedApplication (b : PermissionBackend) (t p : String) (groups : List String) :
    ((EntitlementOp.seedApplication t p groups).methodOn b).Calls (PermissionOp.WritesOn p) := by
  have hlinks : ∀ k ∈ EntitlementServiceImpl.groupLinks p groups, k.object = p :=
    fun k hk => (mem_groupLinks hk).2
  have hmethod : (EntitlementOp.seedApplication t p groups).method.Calls (PermissionOp.WritesOn p) := by
    refine Prog.calls_run_bind (Prog.calls_run_orThrow (Prog.calls_perform trivial)) fun _ => ?_
    dsimp only
    split
    · exact Prog.calls_run_orThrow (Prog.calls_perform fun k hk => hlinks k (by simpa using hk))
    · exact trivial
  cases b with
  | openFga => exact hmethod
  | keto =>
      refine Prog.calls_translate hmethod fun op hop => ?_
      cases op with
      | ensureModel t n => exact trivial
      | ensureTuples t writes deletes =>
          refine Prog.calls_run_bind (Prog.calls_run_forM fun k hk => ?_) fun _ =>
            Prog.calls_run_forM fun k hk => ?_
          · exact Prog.calls_perform fun k' hk' => hop k' (by simp_all)
          · exact Prog.calls_perform fun k' hk' => hop k' (by simp_all)
      | checkPermission t n o r s => exact hop.elim
      | readTuples t n o => exact hop.elim
      | listUsers t n o r => exact hop.elim

/-- The seeding of an application is not concerned with the tuples of others. -/
theorem seedApplication_agree (b : PermissionBackend) (env : Env) (c : Choice) (t : String) {p : String}
    (groups : List String) {ts us : List StoredTuple} (hsame : SameTuples p ts us) :
    (entitlementOn b env (.seedApplication t p groups) c ts).1 =
        (entitlementOn b env (.seedApplication t p groups) c us).1 ∧
      SameTuples p (entitlementOn b env (.seedApplication t p groups) c ts).2
        (entitlementOn b env (.seedApplication t p groups) c us).2 := by
  obtain ⟨hresult, htuples, -⟩ := Prog.run_agree (calls_seedApplication b t p groups)
    (fun op f ts us hop hR => backendHandler_agree hop f hR)
    (o := c.fault) hsame
  exact ⟨hresult, htuples⟩

theorem seedApplication_frame (b : PermissionBackend) (env : Env) (c : Choice) (t : String) {p p' : String}
    (hne : p' ≠ p) (groups : List String) (ts : List StoredTuple) :
    SameTuples p' ts (entitlementOn b env (.seedApplication t p groups) c ts).2 := by
  have hsat := (calls_seedApplication b t p groups).sat (h := backendHandler b env.checkDepth)
    (K := .alone (fun _ _ _ => True) fun _ _ _ => True) (I := SameTuples p' ts)
    (fun u v hu huv => huv ▸ hu)
    (fun op f u hop hu _ => ⟨trivial, fun x hx => (backendHandler_frame hop hne f u x hx).trans (hu x hx)⟩)
    (w := ts) (fun x _ => Iff.rfl)
  exact hsat.run_of_choices fun _ _ _ => trivial

end SsoGateway
