import SsoGateway.FederationCalls
import SsoGateway.Lib.History

/-!
# Disabled connections

A connection is disabled by a flag of its row, which discovery reads and neither an initiation nor a
callback does. So a disabled connection signs people in, unless nobody comes: the theorem is about runs in
which no initiation or callback meets a connection that is disabled.

* `Disabled` — the flag of a connection is off, and stays so until it is set (`disabled_step`).
* `InitiationOf`, `CallbackOf` — the requests that are about a connection.
* `MeetsEnabled` — the runs in which they meet no disabled connection.
* `disabled_signs_nobody_in` — from a connection's disabling to its enabling, no initiation of it returns a
  URL, and no callback of it creates a session.
* `disabled_signs_in` — a login over a disabled connection, from its start to its session.
-/

namespace SsoGateway

open Lib

/-! ## The flag -/

/-- The connection is there, with its flag off. -/
def Disabled (tenantId connectionId : String) (w : FederationWorld) : Prop :=
  ∃ row ∈ w.connections.rows, row.Named tenantId connectionId ∧ row.isEnabled = false

/-- The call disables the connection. -/
def DisabledBy (tenantId connectionId : String) : (op : FederationOp) → op.Res → Prop
  | .setEnabled t i false, r => t = tenantId ∧ i = connectionId ∧ ∃ row, r = .ok row
  | _, _ => False

section flag

variable {env : FederationEnv} {tenantId connectionId : String} {c : FederationChoice} {w : FederationWorld}

theorem op_of_disabledBy {op : FederationOp} {r : op.Res} (h : DisabledBy tenantId connectionId op r) :
    op = .setEnabled tenantId connectionId false := by
  unfold DisabledBy at h
  split at h
  · obtain ⟨rfl, rfl, -⟩ := h
    rfl
  · exact absurd h not_false

/-- An answer without an error has disabled the connection. -/
theorem disabled_of_disabledBy {op : FederationOp}
    (h : DisabledBy tenantId connectionId op (federation env op c w).1) :
    Disabled tenantId connectionId (federation env op c w).2 := by
  unfold DisabledBy at h
  split at h
  · obtain ⟨rfl, rfl, row, hrow⟩ := h
    obtain ⟨stored, -, hnamed, hmem⟩ := setEnabled_ok hrow
    exact ⟨_, hmem, hnamed, rfl⟩
  · exact absurd h not_false

/-- Only the call that enables it ends a connection's being disabled. -/
theorem disabled_step {op : FederationOp} (hop : op ≠ .setEnabled tenantId connectionId true)
    (h : Disabled tenantId connectionId w) : Disabled tenantId connectionId (federation env op c w).2 := by
  obtain ⟨row, hrow, hnamed, hflag⟩ := h
  unfold Disabled
  rcases connections_step env c w op with heq | ⟨t, type, domain, config, -, hinsert⟩ |
    ⟨t, i, config, -, hupdate⟩ | ⟨t, i, isEnabled, rfl, hupdate⟩
  · rw [heq]
    exact ⟨row, hrow, hnamed, hflag⟩
  · rw [(Table.insert?_eq_some hinsert).1]
    exact ⟨row, List.mem_cons_of_mem _ hrow, hnamed, hflag⟩
  · rw [hupdate]
    refine ⟨_, Table.mem_updateWhere.mpr ⟨row, hrow, rfl⟩, ?_⟩
    by_cases hti : row.Named t i
    · rw [if_pos hti]
      exact ⟨hnamed, hflag⟩
    · rw [if_neg hti]
      exact ⟨hnamed, hflag⟩
  · rw [hupdate]
    refine ⟨_, Table.mem_updateWhere.mpr ⟨row, hrow, rfl⟩, ?_⟩
    by_cases hti : row.Named t i
    · -- the call is about this connection, so it does not enable it
      cases isEnabled with
      | true => exact absurd (by rw [← hti.1, ← hti.2, hnamed.1, hnamed.2]) hop
      | false =>
          rw [if_pos hti]
          exact ⟨hnamed, rfl⟩
    · rw [if_neg hti]
      exact ⟨hnamed, hflag⟩

end flag

/-! ## The requests of a connection -/

/-- An initiation of a login over the connection. -/
def InitiationOf (tenantId connectionId : String) : FederationRequest → Prop
  | .initiateOidc tenant req => tenant = some tenantId ∧ req.connectionId = connectionId
  | .initiateOauth2 tenant req => tenant = some tenantId ∧ req.connectionId = connectionId
  | _ => False

/-- A callback. -/
def FederationRequest.IsCallback : FederationRequest → Prop
  | .callback _ _ _ => True
  | _ => False

/-- The requests that make up a login. -/
def FederationRequest.IsLogin (request : FederationRequest) : Prop :=
  request.IsCallback ∨ ∃ tenantId connectionId, InitiationOf tenantId connectionId request

/-- The call finds a pending login, and it is one over another connection. -/
def FindsOther (tenantId connectionId : String) : (op : FederationOp) → op.Res → Prop
  | .getLoginState _, r => ∃ row, r = .ok row ∧ ¬ (row.tenantId = tenantId ∧ row.connectionId = connectionId)
  | _, _ => False

/-- The call stores a pending login. -/
def StoresState (op : FederationOp) : Prop :=
  ∃ t connection type returnTo verifier nonce ttl,
    op = .createLoginState t connection type returnTo verifier nonce ttl

/-- The call creates a session. -/
def CreatesSession (op : FederationOp) : Prop :=
  ∃ sid sub t amr expiresAt, op = .createSession sid sub t amr expiresAt

/-- The answer has no authorization URL. -/
def FederationAnswer.NoUrl (answer : FederationAnswer) : Prop :=
  ∀ response, answer ≠ .initiated (.ok response)

section programs

variable {setup : FederationSetup} {tenantId connectionId : String}

/-- A call whose answer is the one looked for, whatever it is. -/
theorem before_of_answered {ε α β : Type} {R : (op : FederationOp) → op.Res → Prop} {I : FederationOp → Prop}
    {Q : Except ε β → Prop} {op : FederationOp} {k : op.Res → Prog FederationSig (Except ε α)}
    {g : α → Federated ε β} (hop : ¬ I op) (hR : ∀ r, R op r) :
    (ExceptT.mk (Prog.call (S := FederationSig) op k) >>= g).run.Before R I Q :=
  ⟨hop, fun r hr => absurd (hR r) hr⟩

/-- An initiation asks for its connection before it succeeds. -/
theorem initiation_loads {request : FederationRequest} (h : InitiationOf tenantId connectionId request) :
    (request.prog setup).Before (fun (op : FederationOp) _ => op = .getConnection tenantId connectionId)
      (fun _ => False) FederationAnswer.NoUrl := by
  cases request with
  | initiateOidc tenant req =>
      obtain ⟨rfl, rfl⟩ := h
      apply Prog.before_map
      exact before_of_answered not_false fun _ => rfl
  | initiateOauth2 tenant req =>
      obtain ⟨rfl, rfl⟩ := h
      apply Prog.before_map
      exact before_of_answered not_false fun _ => rfl
  | _ => exact absurd h not_false

/-- A step that may fail, where no failure is a result that is looked for. -/
theorem before_skip {ε α β : Type} {R : (op : FederationOp) → op.Res → Prop} {Q : Except ε β → Prop}
    {x : Federated ε α} {f : α → Federated ε β} (hfail : ∀ e, Q (.error e))
    (hf : ∀ a, (f a).run.Before R (fun _ => False) Q) : (x >>= f).run.Before R (fun _ => False) Q := by
  have hx : x.run.Before R (fun _ => False) fun _ => True :=
    ((Prog.calls_true x.run).mono fun _ _ => not_false).before
  refine Prog.before_run_bind (P := fun _ => True) (hx.post fun r _ => ?_) fun a _ => hf a
  exact ⟨fun _ _ => trivial, fun e _ => hfail e⟩

/-- An initiation stores a state before it succeeds. -/
theorem initiation_stores {request : FederationRequest} (h : InitiationOf tenantId connectionId request) :
    (request.prog setup).Before (fun (op : FederationOp) _ => StoresState op) (fun _ => False)
      FederationAnswer.NoUrl := by
  have hfail : ∀ e, FederationAnswer.NoUrl (.initiated (.error e)) := by
    rintro e response ⟨⟩
  cases request with
  | initiateOidc tenant req =>
      apply Prog.before_map
      apply before_skip hfail
      intro t
      apply before_skip hfail
      intro connection
      split
      · exact hfail _
      · apply before_skip hfail
        intro codeVerifier
        apply before_skip hfail
        intro nonce
        exact before_of_answered not_false fun _ => ⟨_, _, _, _, _, _, _, rfl⟩
  | initiateOauth2 tenant req =>
      apply Prog.before_map
      apply before_skip hfail
      intro t
      apply before_skip hfail
      intro connection
      split
      · exact hfail _
      · apply before_skip hfail
        intro codeVerifier
        exact before_of_answered not_false fun _ => ⟨_, _, _, _, _, _, _, rfl⟩
  | _ => exact absurd h not_false

theorem calls_generateCodeVerifier {lib : FederationLibraries} :
    (generateCodeVerifier lib).Calls fun op => ¬ StoresState op := by
  apply Prog.calls_map
  apply Prog.calls_perform
  rintro ⟨_, _, _, _, _, _, _, ⟨⟩⟩

theorem calls_generateNonce : generateNonce.Calls fun op => ¬ StoresState op := by
  apply Prog.calls_map
  apply Prog.calls_perform
  rintro ⟨_, _, _, _, _, _, _, ⟨⟩⟩

theorem calls_getConnection {ε : Type} {f : DbError → ε} {t i : String} :
    (Prog.orThrow f (federationCall (.getConnection t i))).run.Calls fun op => ¬ StoresState op := by
  apply Prog.calls_run_orThrow
  apply Prog.calls_perform
  rintro ⟨_, _, _, _, _, _, _, ⟨⟩⟩

/-- What is left when the state is stored makes no call. -/
theorem settled_ends {ε α β : Type} (r : Except ε α) (g : α → β) :
    ∃ b, (settled r >>= fun a => return g a : Federated ε β).run = .pure b := by
  cases r with
  | ok a => exact ⟨.ok (g a), rfl⟩
  | error e => exact ⟨.error e, rfl⟩

/-- A state is the last thing that an initiation stores or asks for. -/
theorem initiation_final {request : FederationRequest} (h : InitiationOf tenantId connectionId request) :
    (request.prog setup).Final StoresState := by
  cases request with
  | initiateOidc tenant req =>
      apply Prog.final_map
      apply Prog.final_run_bind_right Prog.calls_pure
      intro t
      apply Prog.final_run_bind_right calls_getConnection
      intro connection
      split
      · trivial
      · apply Prog.final_run_bind_right (Prog.calls_run_attempt calls_generateCodeVerifier)
        intro codeVerifier
        apply Prog.final_run_bind_right (Prog.calls_run_attempt calls_generateNonce)
        intro nonce
        exact Prog.final_run_bind_left (Prog.final_map Prog.final_perform) fun state => settled_ends _ _
  | initiateOauth2 tenant req =>
      apply Prog.final_map
      apply Prog.final_run_bind_right Prog.calls_pure
      intro t
      apply Prog.final_run_bind_right calls_getConnection
      intro connection
      split
      · trivial
      · apply Prog.final_run_bind_right (Prog.calls_run_attempt calls_generateCodeVerifier)
        intro codeVerifier
        exact Prog.final_run_bind_left (Prog.final_map Prog.final_perform) fun state => settled_ends _ _
  | _ => exact absurd h not_false

/-- A callback asks for the connection of the pending login it has found before it creates a session. -/
theorem callback_loads {request : FederationRequest} (h : request.IsCallback) :
    (request.prog setup).Before (fun (op : FederationOp) r =>
        op = .getConnection tenantId connectionId ∨ FindsOther tenantId connectionId op r)
      CreatesSession fun _ => True := by
  cases request with
  | callback code state connectionType =>
      apply Prog.before_map
      refine Prog.before_run_bind (P := fun row => row.tenantId = tenantId ∧ row.connectionId = connectionId)
        (Prog.before_run_orThrow ⟨?_, fun r hr => ⟨fun row hrow => ?_, fun _ _ => trivial⟩⟩) ?_
      · rintro ⟨_, _, _, _, _, ⟨⟩⟩
      · -- the login that was found is over this connection, or it is the other answer
        by_contra hother
        cases r with
        | error e => cases hrow
        | ok row' =>
            obtain rfl := Except.ok.inj hrow
            exact hr (.inr ⟨_, rfl, hother⟩)
      rintro row ⟨rfl, rfl⟩
      split
      · trivial
      · refine Prog.before_run_bind (P := fun _ => True)
          (Prog.before_run_orThrow ⟨?_, fun _ _ => ⟨fun _ _ => trivial, fun _ _ => trivial⟩⟩) fun _ _ => ?_
        · rintro ⟨_, _, _, _, _, ⟨⟩⟩
        refine Prog.before_run_bind (P := fun _ => True) ⟨fun _ _ => trivial, fun _ _ => trivial⟩ fun _ _ => ?_
        refine before_of_answered ?_ fun _ => .inl rfl
        rintro ⟨_, _, _, _, _, ⟨⟩⟩
  | _ => exact absurd h not_false

end programs

/-! ## Runs -/

section runs

variable {κ : Type}

/-- A callback all of whose pending logins are over the connection. -/
def CallbackOf (setup : FederationSetup) (requests : κ → FederationRequest) (tr : FederationTrace κ)
    (tenantId connectionId : String) (k : κ) : Prop :=
  (requests k).IsCallback ∧ ∀ e ∈ tr, e.choice.1 = k →
    ¬ FindsOther tenantId connectionId e.op (e.res (federationFor κ setup.env))

/-- Whenever an initiation or a callback asks for its connection, the connection is not disabled; and
whenever a connection is disabled, no initiation or callback that has asked for it is still at work. -/
structure MeetsEnabled (setup : FederationSetup) (requests : κ → FederationRequest) (tr : FederationTrace κ) :
    Prop where
  enabled : ∀ e ∈ tr, (requests e.choice.1).IsLogin → ∀ tenantId connectionId,
    e.op = .getConnection tenantId connectionId → ¬ Disabled tenantId connectionId e.before
  finished : ∀ before e between d after tenantId connectionId,
    tr = before ++ e :: (between ++ d :: after) → (requests e.choice.1).IsLogin →
    e.op = .getConnection tenantId connectionId →
    DisabledBy tenantId connectionId d.op (d.res (federationFor κ setup.env)) →
    ∀ e' ∈ after, e'.choice.1 ≠ e.choice.1

variable {setup : FederationSetup} {requests : κ → FederationRequest} {tenantId connectionId : String}

/-- From a connection's disabling on, and as long as nobody enables it, it is disabled at every call. -/
theorem disabled_window {pre window : FederationTrace κ} {d : FederationEvent κ} {w w' : FederationWorld}
    (hchain : Chained (federationFor κ setup.env) w (pre ++ d :: window) w')
    (hby : DisabledBy tenantId connectionId d.op (d.res (federationFor κ setup.env)))
    (hwindow : ∀ e ∈ window, e.op ≠ .setEnabled tenantId connectionId true) :
    ∀ e ∈ window, Disabled tenantId connectionId e.before := by
  obtain ⟨v, -, -, hrest⟩ := Chained.append.mp hchain
  apply (hrest.invariant (disabled_of_disabledBy hby) ?_).2
  intro e he hdisabled
  exact disabled_step (hwindow e he) hdisabled

/-- Where logins meet no disabled connection, none that asks for a connection is at work from its
disabling to its enabling. -/
theorem MeetsEnabled.idle {pre window : FederationTrace κ} {d : FederationEvent κ}
    (hmeets : MeetsEnabled setup requests (pre ++ d :: window))
    (hby : DisabledBy tenantId connectionId d.op (d.res (federationFor κ setup.env)))
    (hdisabled : ∀ e ∈ window, Disabled tenantId connectionId e.before)
    {e₀ e : FederationEvent κ} (he₀ : e₀ ∈ pre ++ d :: window)
    (hload : e₀.op = .getConnection tenantId connectionId) (hlogin : (requests e₀.choice.1).IsLogin)
    (he : e ∈ window) : e.choice.1 ≠ e₀.choice.1 := by
  rcases List.mem_append.mp he₀ with hpre | hpost
  · obtain ⟨before, between, rfl⟩ := List.append_of_mem hpre
    exact hmeets.finished before e₀ between d window tenantId connectionId (by simp) hlogin hload hby e he
  · rcases List.mem_cons.mp hpost with rfl | hlater
    · -- a call that disables a connection does not ask for one
      have hop := op_of_disabledBy hby
      rw [hload] at hop
      cases hop
    · exact absurd (hdisabled e₀ hlater) (hmeets.enabled e₀ he₀ hlogin tenantId connectionId hload)

variable [DecidableEq κ]

/-- **A disabled connection signs nobody in, where logins meet no disabled one.** Between a call that
disables a connection and the next call to enable it, no initiation of a login over it returns an
authorization URL, and no callback of it creates a session, whenever its pending login was created. -/
theorem disabled_signs_nobody_in {w : FederationWorld} {before after : List (κ × FederationChoice)}
    {pre : FederationTrace κ} {d : FederationEvent κ}
    (hpre : (federated setup requests w).events (federationFor κ setup.env) before = pre ++ [d])
    (hby : DisabledBy tenantId connectionId d.op (d.res (federationFor κ setup.env)))
    (hwindow : ∀ e ∈ ((federated setup requests w).run (federationFor κ setup.env) before).events
      (federationFor κ setup.env) after, e.op ≠ .setEnabled tenantId connectionId true)
    (hmeets : MeetsEnabled setup requests
      ((federated setup requests w).events (federationFor κ setup.env) (before ++ after))) :
    (∀ k, InitiationOf tenantId connectionId (requests k) →
      (∀ a, ¬ ((federated setup requests w).run (federationFor κ setup.env) before).Returned k a) →
      ∀ a, ((federated setup requests w).run (federationFor κ setup.env) (before ++ after)).Returned k a →
        a.NoUrl) ∧
    (∀ e ∈ ((federated setup requests w).run (federationFor κ setup.env) before).events
        (federationFor κ setup.env) after,
      CallbackOf setup requests
        ((federated setup requests w).events (federationFor κ setup.env) (before ++ after))
        tenantId connectionId e.choice.1 → ¬ CreatesSession e.op) := by
  have hevents := Pool.events_append (h := federationFor κ setup.env) (federated setup requests w) before after
  rw [hpre, List.append_assoc, List.singleton_append] at hevents
  have hchain := Pool.chained_events (federationFor κ setup.env) (federated setup requests w) (before ++ after)
  rw [hevents] at hmeets hchain ⊢
  have hdisabled := disabled_window hchain hby hwindow
  constructor
  · intro k hinitiation hworking a hreturned
    by_contra hurl
    obtain ⟨e₀, he₀, hk₀, hload⟩ := (Pool.before_run (h := federationFor κ setup.env) (before ++ after)
      (initiation_loads hinitiation)).2 a hreturned hurl
    obtain ⟨e, he, hk, hstore⟩ := (Pool.before_run (h := federationFor κ setup.env) (before ++ after)
      (initiation_stores hinitiation)).2 a hreturned hurl
    rw [Pool.events_append] at he
    rcases List.mem_append.mp he with hearly | hlate
    · -- the state was stored before the connection was disabled, and then the initiation was over
      obtain ⟨a', ha'⟩ := Pool.final_run before (initiation_final hinitiation) hearly hk hstore
      exact hworking a' ha'
    · rw [hevents] at he₀
      have hlogin : (requests e₀.choice.1).IsLogin := by
        rw [hk₀]
        exact .inr ⟨tenantId, connectionId, hinitiation⟩
      exact hmeets.idle hby hdisabled he₀ hload hlogin hlate (hk.trans hk₀.symm)
  · intro e he hcallback hsession
    obtain ⟨early, late, hsplit⟩ := List.append_of_mem he
    have hwhole := hevents
    rw [hsplit, ← List.cons_append, ← List.append_assoc] at hwhole
    obtain ⟨e₀, he₀, hk₀, hload⟩ := (Pool.before_run (h := federationFor κ setup.env) (before ++ after)
      (callback_loads hcallback.1)).1 _ e late hwhole rfl hsession
    have hmem : e₀ ∈ pre ++ d :: ((federated setup requests w).run (federationFor κ setup.env) before).events
        (federationFor κ setup.env) after := by
      rw [hsplit, ← List.cons_append, ← List.append_assoc]
      exact List.mem_append_left _ he₀
    rcases hload with hload | hother
    · have hlogin : (requests e₀.choice.1).IsLogin := by
        rw [hk₀]
        exact .inl hcallback.1
      exact hmeets.idle hby hdisabled hmem hload hlogin he hk₀.symm
    · exact hcallback.2 e₀ hmem hk₀ hother

end runs

/-! ## A login over a disabled connection -/

/-- Ada begins a login; the connection is disabled; her callback arrives; and a login is begun again. -/
def disabledLogin : ℕ → FederationRequest
  | 0 => .initiateOidc (some "acme") ⟨"connection", "https://app.example/"⟩
  | 1 => .other ((fun _ => ()) <$> federationCall (.setEnabled "acme" "connection" false))
  | 2 => .callback "code" (Ulid.repeating 'A').text "oidc"
  | _ => .initiateOidc (some "acme") ⟨"connection", "https://app.example/"⟩

/-- Their programs, at the world of the examples. -/
abbrev disabledLogins : Pool FederationSig ℕ FederationAnswer FederationWorld :=
  federated .plain disabledLogin acmeFederation

/-- The calls of the example. -/
abbrev plainCalls : Handler FederationSig (ℕ × FederationChoice) FederationWorld :=
  federationFor ℕ FederationSetup.plain.env

/-- The calls up to the one that disables the connection. -/
def untilDisabled : List (ℕ × FederationChoice) :=
  List.replicate 4 (0, .plain 'A' 0) ++ [(1, .plain 'B' 0)]

/-- The calls after it. -/
def sinceDisabled : List (ℕ × FederationChoice) :=
  List.replicate 20 (2, .plain 'C' 1) ++ List.replicate 4 (3, .plain 'D' 2)

/-- The call enables a connection. -/
def enablesConnection : FederationOp → Bool
  | .setEnabled _ _ true => true
  | _ => false

/-- The call asks for a connection by its id. -/
def loadsConnection : FederationOp → Bool
  | .getConnection _ _ => true
  | _ => false

/-- The call that disables the connection before anybody comes. -/
def disablingCall : FederationEvent ℕ :=
  ⟨.setEnabled "acme" "connection" false, (1, .plain 'B' 0), acmeFederation⟩

theorem disablingCall_disables :
    DisabledBy "acme" "connection" disablingCall.op (disablingCall.res plainCalls) :=
  ⟨rfl, rfl, { acmeConnection with isEnabled := false }, rfl⟩

/-- Where the connection is disabled before anybody comes, a callback that then arrives creates no session. -/
theorem disabled_before_login :
    (∀ k, InitiationOf "acme" "connection" (disabledLogin k) →
      (∀ a, ¬ (disabledLogins.run plainCalls [(1, .plain 'B' 0)]).Returned k a) →
      ∀ a, (disabledLogins.run plainCalls ([(1, .plain 'B' 0)] ++ [(2, .plain 'C' 1)])).Returned k a →
        a.NoUrl) ∧
    (∀ e ∈ (disabledLogins.run plainCalls [(1, .plain 'B' 0)]).events plainCalls [(2, .plain 'C' 1)],
      CallbackOf .plain disabledLogin
        (disabledLogins.events plainCalls ([(1, .plain 'B' 0)] ++ [(2, .plain 'C' 1)]))
        "acme" "connection" e.choice.1 → ¬ CreatesSession e.op) := by
  have hpre : disabledLogins.events plainCalls [(1, .plain 'B' 0)] = [] ++ [disablingCall] := rfl
  have henable : ∀ e ∈ (disabledLogins.run plainCalls [(1, .plain 'B' 0)]).events plainCalls
      [(2, .plain 'C' 1)], enablesConnection e.op = false := by
    decide +kernel
  have hload : ∀ e ∈ disabledLogins.events plainCalls
      ([(1, .plain 'B' 0)] ++ [(2, .plain 'C' 1)]), loadsConnection e.op = false := by
    decide +kernel
  refine disabled_signs_nobody_in hpre disablingCall_disables (fun e he hop => ?_) ⟨?_, ?_⟩
  · have hfalse := henable e he
    rw [hop] at hfalse
    exact absurd hfalse (by decide)
  · intro e he _ t i hop
    have hfalse := hload e he
    rw [hop] at hfalse
    cases hfalse
  · intro before e between d after t i htr _ hop _
    have hfalse := hload e (htr ▸ List.mem_append_right _ List.mem_cons_self)
    rw [hop] at hfalse
    cases hfalse

/-- The request has ended in a redirect, or in an authorization URL. -/
def hasSucceeded : Prog FederationSig FederationAnswer → Bool
  | .pure (.redirected (.ok response)) => response.status == 302
  | .pure (.initiated (.ok _)) => true
  | _ => false

/-- After the connection is disabled, and although nobody enables it, Ada is signed in, and the next login
is begun. -/
theorem disabled_signs_in :
    Disabled "acme" "connection" (disabledLogins.run plainCalls untilDisabled).world ∧
    (∀ e ∈ (disabledLogins.run plainCalls untilDisabled).events plainCalls sinceDisabled,
      e.op ≠ .setEnabled "acme" "connection" true) ∧
    (∀ k ∈ [2, 3], hasSucceeded ((disabledLogins.run plainCalls untilDisabled).threads k) = false) ∧
    (∀ k ∈ [2, 3], hasSucceeded
      ((disabledLogins.run plainCalls (untilDisabled ++ sinceDisabled)).threads k) = true) ∧
    (disabledLogins.run plainCalls (untilDisabled ++ sinceDisabled)).world.sessions.rows.map
      (fun s => s.tenantId) = ["acme"] := by
  have hnone : ∀ e ∈ (disabledLogins.run plainCalls untilDisabled).events plainCalls sinceDisabled,
      enablesConnection e.op = false := by
    decide +kernel
  refine ⟨⟨{ acmeConnection with isEnabled := false }, ?_, ⟨rfl, rfl⟩, rfl⟩, fun e he hop => ?_, ?_, ?_, ?_⟩
  · exact List.mem_singleton.mpr rfl
  · have hfalse := hnone e he
    rw [hop] at hfalse
    exact absurd hfalse (by decide)
  · decide +kernel
  · decide +kernel
  · decide +kernel

end SsoGateway
