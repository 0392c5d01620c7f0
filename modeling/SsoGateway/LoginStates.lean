import SsoGateway.FederationCalls
import SsoGateway.Lib.OwnCalls

/-!
# Pending logins

A login through an upstream provider is pending under a state token, until a callback carries the token back.
The callback looks the login up, compares its type and deletes it; whether the delete found a row decides who
goes on to the token exchange.

* `CallbackPromise` — the calls of one callback, each by the calls before it (`callback_promise`).
* `Recorded`, `timesIssued` — the pending logins of a run, and how often a token was issued.
* `consumed_once` — a token that is issued once is deleted once.
* `login_state_single_use` — at most one callback exchanges its code, for the login of the token.

Source: `services/handlers/callback.rs`, `services/federation.rs`, `db/login_state.rs`.
-/

namespace SsoGateway

open Lib

/-! ## One callback -/

/-- The login was looked up. -/
def lookedUp (state : String) (row : LoginStateRow) : Reply FederationSig :=
  ⟨.getLoginState state, (.ok row : Except DbError LoginStateRow)⟩

/-- It was deleted. -/
def consumed (state : String) : Reply FederationSig :=
  ⟨.deleteLoginState state, (.ok () : Except DbError Unit)⟩

/-- Its connection was read. -/
def connected (row : LoginStateRow) (connection : TenantConnectionRow) : Reply FederationSig :=
  ⟨.getConnection row.tenantId row.connectionId, (.ok connection : Except DbError TenantConnectionRow)⟩

/-- The call for the code of a login that a callback has taken. -/
def exchangeOf (publicBaseUrl code type : String) (row : LoginStateRow) (connection : TenantConnectionRow) :
    FederationOp :=
  .exchangeCode connection.config code (callbackUri publicBaseUrl type) row.codeVerifier

/-- The calls of a callback: the login is deleted once it was looked up and is of the type of the endpoint; the
code is exchanged once it was deleted, for its connection and with its verifier; and an ID token is checked
with its nonce. -/
def CallbackPromise (publicBaseUrl code state type : String) :
    FederationOp → List (Reply FederationSig) → Prop
  | .deleteLoginState token, past => token = state ∧
      ∃ row, row.connectionType = type ∧ past = [lookedUp state row]
  | .exchangeCode config code' redirectUri verifier, past => ∃ row connection, row.connectionType = type ∧
      FederationOp.exchangeCode config code' redirectUri verifier =
        exchangeOf publicBaseUrl code type row connection ∧
      past = [connected row connection, consumed state, lookedUp state row]
  | .validateIdToken _ config nonce, past => ∃ row connection token, config = connection.config ∧
      nonce = row.nonce ∧ row.connectionType = type ∧
      past = [⟨exchangeOf publicBaseUrl code type row connection, token⟩, connected row connection,
        consumed state, lookedUp state row]
  | _, _ => True

section callback

variable {env : FederationEnv} {lib : FederationLibraries} {cfg : CallbackConfig}
  {code state type : String} {past : List (Reply FederationSig)}

/-- A call that a program of the gateway makes. -/
theorem callbackPromise_ofGateway {ε α : Type} (x : ExceptT ε (Prog Gateway) α) :
    (ofGateway x).run.Calls fun op => ∀ past,
      CallbackPromise cfg.publicBaseUrl code state type op past := by
  refine Prog.calls_translate (Prog.calls_true x.run) fun op _ => ?_
  exact Prog.calls_perform fun past => trivial

/-- The session of a callback. -/
theorem buildSessionRedirect_promise {identity : ProvisionedIdentity} {amr returnTo : String} :
    (buildSessionRedirect env lib cfg identity amr returnTo).run.Calls fun op => ∀ past,
      CallbackPromise cfg.publicBaseUrl code state type op past := by
  unfold buildSessionRedirect
  apply Prog.calls_run_bind
  · unfold issueSession
    apply Prog.calls_run_attempt
    exact Prog.calls_bind (Prog.calls_perform fun _ => trivial) fun _ =>
      Prog.calls_bind (Prog.calls_perform fun _ => trivial) fun _ => Prog.calls_pure
  rintro ⟨token, claims, exp⟩
  apply Prog.calls_run_bind
  · unfold sessionExpiry
    apply Prog.calls_run_attempt
    split
    · exact Prog.calls_pure
    · exact Prog.calls_map (Prog.calls_perform fun _ => trivial)
  intro expiresAt
  apply Prog.calls_run_bind
  · exact Prog.calls_run_orThrow (Prog.calls_perform fun _ => trivial)
  intro _
  dsimp only
  split
  · exact Prog.calls_pure
  · exact Prog.calls_pure

/-- What follows the exchange. -/
theorem afterExchange_promise {row : LoginStateRow} {connection : TenantConnectionRow}
    {token : UpstreamTokenResponse} {answer : Except UpstreamOAuthError UpstreamTokenResponse}
    (htype : row.connectionType = type)
    (hpast : past = [⟨exchangeOf cfg.publicBaseUrl code type row connection, answer⟩,
      connected row connection, consumed state, lookedUp state row]) :
    (do
      checkCallbackIdToken type connection.config row.nonce token.idToken
      let userinfo ← Prog.orThrow (fun _ => CallbackError.userinfo)
        (federationCall (.fetchUserinfo connection.config token))
      let identity ← provisionUserinfo lib cfg row.tenantId userinfo
      buildSessionRedirect env lib cfg identity type row.returnTo : Federated CallbackError Response).run.Sat
      (scripted FederationSig) (Answering (CallbackPromise cfg.publicBaseUrl code state type))
      (fun _ _ => True) past := by
  apply Prog.sat_run_bind.mpr
  have hcheck : (checkCallbackIdToken type connection.config row.nonce token.idToken).run.Sat
      (scripted FederationSig) (Answering (CallbackPromise cfg.publicBaseUrl code state type))
      (fun _ _ => True) past := by
    unfold checkCallbackIdToken
    by_cases hoidc : type = "oidc"
    · rw [if_pos hoidc]
      cases token.idToken with
      | some idToken =>
          refine Prog.sat_run_orThrow.mpr (Prog.answering_perform ?_ fun _ => trivial)
          exact ⟨row, connection, answer, rfl, rfl, htype, hpast⟩
      | none =>
          dsimp only
          split
          · trivial
          · trivial
    · rw [if_neg hoidc]
      trivial
  refine hcheck.post fun r past₁ _ => ?_
  cases r with
  | error e => trivial
  | ok _ =>
      refine Prog.answering_calls (Prog.calls_run_bind ?_ fun userinfo => ?_)
      · exact Prog.calls_run_orThrow (Prog.calls_perform fun _ => trivial)
      · refine Prog.calls_run_bind ?_ fun identity => buildSessionRedirect_promise
        exact Prog.calls_run_orThrow (callbackPromise_ofGateway _)

/-- What a callback does with a login that it has taken. -/
theorem finishLogin_promise {row : LoginStateRow} (htype : row.connectionType = type) :
    (finishLogin env lib cfg code type row).run.Sat (scripted FederationSig)
      (Answering (CallbackPromise cfg.publicBaseUrl code state type)) (fun _ _ => True)
      [consumed state, lookedUp state row] := by
  unfold finishLogin
  apply Prog.sat_run_bind.mpr
  apply Prog.sat_run_mk.mpr
  cases validateReturnTo lib cfg row.returnTo with
  | error e => trivial
  | ok _ =>
      refine Prog.sat_run_bind.mpr (Prog.sat_run_orThrow.mpr (Prog.answering_perform trivial fun r => ?_))
      cases r with
      | error e => trivial
      | ok connection =>
          refine Prog.sat_run_bind.mpr (Prog.sat_run_orThrow.mpr (Prog.answering_perform ?_ fun answer => ?_))
          · exact ⟨row, connection, htype, rfl, rfl⟩
          · cases answer with
            | error e => trivial
            | ok token => exact afterExchange_promise htype rfl

/-- **The calls of a callback.** -/
theorem callback_promise : (handleOauthCallback env lib cfg code state type).run.Sat (scripted FederationSig)
    (Answering (CallbackPromise cfg.publicBaseUrl code state type)) (fun _ _ => True) [] := by
  unfold handleOauthCallback
  refine Prog.sat_run_bind.mpr (Prog.sat_run_orThrow.mpr (Prog.answering_perform trivial fun r => ?_))
  cases r with
  | error e => trivial
  | ok row =>
      apply Prog.sat_run_ite.mpr
      by_cases htype : row.connectionType ≠ type
      · rw [if_pos htype]
        trivial
      · rw [if_neg htype]
        push Not at htype
        refine Prog.sat_run_bind.mpr (Prog.sat_run_orThrow.mpr (Prog.answering_perform ?_ fun r => ?_))
        · exact ⟨rfl, row, htype, rfl⟩
        · cases r with
          | error e => trivial
          | ok _ => exact finishLogin_promise htype

end callback

/-! ## The pending logins of a run -/

/-- What the row under a new token is. -/
def issuedRow (op : FederationOp) (c : FederationChoice) : Option LoginStateRow :=
  match op with
  | .createLoginState t connection type returnTo verifier nonce ttl =>
      some ⟨c.ulid, t, connection, type, returnTo, verifier, nonce, c.base.now + ttl⟩
  | _ => none

/-- The call issues the token, to a new login. -/
def Issues {κ : Type} (state : String) (ev : FederationEvent κ) : Prop :=
  ∃ row ∈ issuedRow ev.op ev.choice.2, row.stateToken.text = state

instance {κ : Type} (state : String) : DecidablePred (Issues (κ := κ) state) := fun ev =>
  inferInstanceAs (Decidable (∃ row ∈ issuedRow ev.op ev.choice.2, row.stateToken.text = state))

/-- The logins under the token. -/
def pending (state : String) (w : FederationWorld) : ℕ :=
  w.loginStates.rows.countP fun row => row.stateToken.text = state

/-- How often the token was issued, in the run and before it. -/
def timesIssued {κ : Type} (state : String) (w : FederationWorld) (trace : FederationTrace κ) : ℕ :=
  pending state w + trace.countP fun ev => Issues state ev

/-- The login is pending when the run starts, or is created in it. -/
def Recorded {κ : Type} (w : FederationWorld) (trace : FederationTrace κ) (row : LoginStateRow) : Prop :=
  row ∈ w.loginStates.rows ∨ ∃ ev ∈ trace, issuedRow ev.op ev.choice.2 = some row

section run

variable {κ : Type} {env : FederationEnv} {w w' : FederationWorld} {trace : FederationTrace κ}
  {state : String}

/-- A pending login was there before the call, or the call created it. -/
theorem loginStates_after {op : FederationOp} {c : FederationChoice} {row : LoginStateRow}
    (h : row ∈ (federation env op c w).2.loginStates.rows) :
    row ∈ w.loginStates.rows ∨ issuedRow op c = some row := by
  rcases loginStates_step env c w op with heq |
    ⟨t, connection, type, returnTo, verifier, nonce, ttl, rfl, hinsert⟩ | ⟨token, -, hdelete⟩
  · rw [heq] at h
    exact .inl h
  · rw [(Table.insert?_eq_some hinsert).1] at h
    rcases List.mem_cons.mp h with rfl | hold
    · exact .inr rfl
    · exact .inl hold
  · rw [hdelete] at h
    exact .inl (Table.mem_deleteWhere.mp h).1

/-- A call adds one login under the token at most, and only if it issues it. -/
theorem pending_step (env : FederationEnv) (state : String) (op : FederationOp) (ic : κ × FederationChoice)
    (w : FederationWorld) :
    pending state (federation env op ic.2 w).2 ≤
      pending state w + if Issues state ⟨op, ic, w⟩ then 1 else 0 := by
  unfold pending
  rcases loginStates_step env ic.2 w op with heq |
    ⟨t, connection, type, returnTo, verifier, nonce, ttl, rfl, hinsert⟩ | ⟨token, -, hdelete⟩
  · rw [heq]
    omega
  · rw [(Table.insert?_eq_some hinsert).1, List.countP_cons]
    by_cases htoken : ic.2.ulid.text = state
    · have hissues : Issues state (⟨.createLoginState t connection type returnTo verifier nonce ttl, ic, w⟩ :
        FederationEvent κ) := ⟨_, rfl, htoken⟩
      simp [htoken, hissues]
    · simp [htoken]
  · rw [hdelete, Table.rows_deleteWhere, List.countP_filter]
    refine le_trans (List.countP_mono_left fun row _ h => ?_) (Nat.le_add_right _ _)
    simp only [Bool.and_eq_true] at h
    exact h.1

/-- At the end of a chain of calls there are no more logins under the token than it was issued. -/
theorem pending_le_issued (state : String) (hc : Chained (federationFor κ env) w trace w') :
    pending state w' ≤ timesIssued state w trace := by
  induction trace generalizing w with
  | nil =>
      cases hc
      simp [timesIssued]
  | cons ev trace ih =>
      obtain ⟨rfl, hc⟩ := hc
      have hrest := ih hc
      have hstep := pending_step env state ev.op ev.choice ev.before
      have hafter : ev.after (federationFor κ env) = (federation env ev.op ev.choice.2 ev.before).2 := rfl
      unfold timesIssued at hrest ⊢
      rw [hafter] at hrest
      rw [List.countP_cons]
      by_cases hissues : Issues state ev
      · simp only [hissues, if_true, decide_true] at hstep ⊢
        omega
      · simp only [hissues, if_false, decide_false] at hstep ⊢
        simp only [Bool.false_eq_true, if_false]
        omega

/-- Every login that is pending when a call is made is one of the run. -/
theorem recorded_before (hc : Chained (federationFor κ env) w trace w') :
    ∀ ev ∈ trace, ∀ row ∈ ev.before.loginStates.rows, Recorded w trace row := by
  refine (hc.invariant (I := fun v => ∀ row ∈ v.loginStates.rows, Recorded w trace row)
    (fun row hrow => .inl hrow) fun ev hev hbefore row hrow => ?_).2
  rcases loginStates_after hrow with hold | hnew
  · exact hbefore row hold
  · exact .inr ⟨ev, hev, hnew⟩

/-- The delete of a pending login succeeded. -/
def Consumes (env : FederationEnv) (state : String) (ev : FederationEvent κ) : Prop :=
  ev.answered (federationFor κ env) = consumed state

/-- It finds the login, and leaves none. -/
theorem pending_of_consumes {ev : FederationEvent κ} (h : Consumes env state ev) :
    0 < pending state ev.before ∧ pending state (ev.after (federationFor κ env)) = 0 := by
  obtain ⟨c, v, rfl, hanswer⟩ := Event.answered_eq_iff.mp h
  obtain ⟨⟨row, hrow, htoken⟩, htable⟩ := deleteRow_ok hanswer
  constructor
  · exact List.countP_pos_iff.mpr ⟨row, hrow, by simpa using htoken⟩
  · have hafter : (federation env (.deleteLoginState state) c.2 v).2.loginStates =
      v.loginStates.deleteWhere (·.stateToken.text = state) := htable
    unfold pending
    apply List.countP_eq_zero.mpr
    intro row' hrow'
    have hkept : row' ∈ (v.loginStates.deleteWhere (·.stateToken.text = state)).rows := hafter ▸ hrow'
    simpa using (Table.mem_deleteWhere.mp hkept).2

/-- **A token that is issued once is deleted once.** -/
theorem consumed_once (hc : Chained (federationFor κ env) w trace w')
    (honce : timesIssued state w trace ≤ 1)
    {pre post : FederationTrace κ} {ev : FederationEvent κ} (hsplit : trace = pre ++ ev :: post)
    (hev : Consumes env state ev) : ∀ ev' ∈ post, ¬ Consumes env state ev' := by
  subst hsplit
  intro ev' hev' hagain
  obtain ⟨mid, last, rfl⟩ := List.append_of_mem hev'
  obtain ⟨v, hpre, rfl, hrest⟩ := Chained.append.mp hc
  obtain ⟨v', hmid, rfl, -⟩ := Chained.append.mp hrest
  have hfirst := pending_le_issued state hpre
  have hsecond := pending_le_issued state hmid
  obtain ⟨hfound, hgone⟩ := pending_of_consumes hev
  obtain ⟨hfound', -⟩ := pending_of_consumes hagain
  unfold timesIssued at honce hfirst hsecond
  rw [List.countP_append, List.countP_cons, List.countP_append] at honce
  omega

/-- It is deleted by one call. -/
theorem consumes_eq (hc : Chained (federationFor κ env) w trace w')
    (honce : timesIssued state w trace ≤ 1)
    {ev ev' : FederationEvent κ} (hev : ev ∈ trace) (hconsumes : Consumes env state ev) (hev' : ev' ∈ trace)
    (hconsumes' : Consumes env state ev') : ev = ev' := by
  obtain ⟨pre, post, hsplit⟩ := List.append_of_mem hev
  rw [hsplit] at hev'
  rcases List.mem_append.mp hev' with hbefore | hlater
  · obtain ⟨pre', mid, rfl⟩ := List.append_of_mem hbefore
    rw [List.append_assoc, List.cons_append] at hsplit
    refine absurd hconsumes (consumed_once hc honce hsplit hconsumes' ev ?_)
    exact List.mem_append_right mid List.mem_cons_self
  · rcases List.mem_cons.mp hlater with rfl | hafter
    · rfl
    · exact absurd hconsumes' (consumed_once hc honce hsplit hconsumes ev' hafter)

/-- Of the items of a list that satisfy `p`, there is one. -/
theorem eq_of_countP_le_one {α : Type} {p : α → Prop} [DecidablePred p] {l : List α}
    (h : (l.countP fun a => p a) ≤ 1) {a b : α} (ha : a ∈ l) (hpa : p a) (hb : b ∈ l) (hpb : p b) : a = b := by
  rw [List.countP_eq_length_filter] at h
  have hafter : a ∈ l.filter fun a => p a := List.mem_filter.mpr ⟨ha, by simpa using hpa⟩
  have hbfter : b ∈ l.filter fun a => p a := List.mem_filter.mpr ⟨hb, by simpa using hpb⟩
  generalize (l.filter fun a => p a) = kept at h hafter hbfter
  rcases kept with _ | ⟨c, _ | ⟨d, kept⟩⟩
  · simp at hafter
  · rw [List.mem_singleton.mp hafter, List.mem_singleton.mp hbfter]
  · simp at h

/-- A token that is issued once stands for one login. -/
theorem recorded_unique (honce : timesIssued state w trace ≤ 1) {row row' : LoginStateRow}
    (hrow : Recorded w trace row) (htoken : row.stateToken.text = state) (hrow' : Recorded w trace row')
    (htoken' : row'.stateToken.text = state) : row = row' := by
  have hstored : ∀ r ∈ w.loginStates.rows, r.stateToken.text = state → 0 < pending state w :=
    fun r hr h => List.countP_pos_iff.mpr ⟨r, hr, by simpa using h⟩
  have hmade : ∀ r : LoginStateRow, ∀ ev ∈ trace, issuedRow ev.op ev.choice.2 = some r →
      r.stateToken.text = state → Issues state ev := fun r ev _ h htext => ⟨r, h, htext⟩
  have hcount : ∀ ev ∈ trace, Issues state ev → 0 < trace.countP fun ev => Issues state ev :=
    fun ev hev h => List.countP_pos_iff.mpr ⟨ev, hev, by simpa using h⟩
  unfold timesIssued at honce
  rcases hrow with hold | ⟨ev, hev, hnew⟩
  · have h := hstored row hold htoken
    rcases hrow' with hold' | ⟨ev', hev', hnew'⟩
    · have hsymm : ∀ r r' : LoginStateRow, r.SameToken r' → r'.SameToken r := fun r r' h => h.symm
      apply Table.eq_of_conflicts hsymm hold hold'
      have htext := htoken.trans htoken'.symm
      show row.stateToken = row'.stateToken
      obtain ⟨⟨text, _⟩, _⟩ := row
      obtain ⟨⟨text', _⟩, _⟩ := row'
      simpa using htext
    · have h' := hcount ev' hev' (hmade row' ev' hev' hnew' htoken')
      omega
  · have h := hcount ev hev (hmade row ev hev hnew htoken)
    rcases hrow' with hold' | ⟨ev', hev', hnew'⟩
    · have h' := hstored row' hold' htoken'
      omega
    · have hsame : ev = ev' := eq_of_countP_le_one (p := Issues state) (by omega) hev
        (hmade row ev hev hnew htoken) hev' (hmade row' ev' hev' hnew' htoken')
      subst hsame
      rw [hnew] at hnew'
      exact Option.some.inj hnew'

end run

/-! ## Single use -/

/-- The call takes the login, or goes on with it. -/
def Proceeds : FederationOp → Prop
  | .deleteLoginState _ => True
  | .exchangeCode _ _ _ _ => True
  | .validateIdToken _ _ _ => True
  | _ => False

/-- The call is one of a callback that carries the state, for a code. -/
def ExchangesFor {κ : Type} (requests : κ → FederationRequest) (state : String) (ev : FederationEvent κ) :
    Prop :=
  (∃ code type, requests ev.choice.1 = .callback code state type) ∧
    ∃ config code redirectUri verifier, ev.op = .exchangeCode config code redirectUri verifier

/-- What is exchanged and checked is what the login says: a connection of its tenant, under its id, its type,
its verifier and its nonce. The calls so far are those of the callback. -/
def UsesLogin (publicBaseUrl code : String) (row : LoginStateRow) (calls : List (Reply FederationSig)) :
    FederationOp → Prop
  | .exchangeCode config code' redirectUri verifier => ∃ connection, connected row connection ∈ calls ∧
      FederationOp.exchangeCode config code' redirectUri verifier =
        exchangeOf publicBaseUrl code row.connectionType row connection
  | .validateIdToken _ config nonce => ∃ connection, connected row connection ∈ calls ∧
      config = connection.config ∧ nonce = row.nonce
  | _ => True

section singleUse

variable {κ : Type} [DecidableEq κ] {setup : FederationSetup} {requests : κ → FederationRequest}
  {w w' : FederationWorld} {sched : List (κ × FederationChoice)} {code state type : String}

/-- The calls of one callback of a run. -/
theorem callback_calls {pre post : FederationTrace κ} {ev : FederationEvent κ}
    (hsplit : (federated setup requests w).events (federationFor κ setup.env) sched = pre ++ ev :: post)
    (hrequest : requests ev.choice.1 = .callback code state type) :
    CallbackPromise setup.callbacks.publicBaseUrl code state type ev.op
      (Pool.own (federationFor κ setup.env) ev.choice.1 pre) := by
  have hthread : ((federated setup requests w).threads ev.choice.1).Sat (scripted FederationSig)
      (Answering (CallbackPromise setup.callbacks.publicBaseUrl code state type)) (fun _ _ => True) [] := by
    show ((requests ev.choice.1).prog setup).Sat _ _ _ _
    rw [hrequest]
    exact Prog.sat_map.mpr callback_promise
  simpa using Pool.own_calls sched hthread pre ev post hsplit rfl

/-- A login that the callback has looked up is one of the run, under its state. -/
theorem recorded_of_lookedUp {pre post : FederationTrace κ} {k : κ} (state : String) (row : LoginStateRow)
    (hc : Chained (federationFor κ setup.env) w (pre ++ post) w')
    {calls : List (Reply FederationSig)} (hcalls : Pool.own (federationFor κ setup.env) k pre = calls)
    (hlooked : lookedUp state row ∈ calls) :
    Recorded w (pre ++ post) row ∧ row.stateToken.text = state := by
  rw [← hcalls] at hlooked
  obtain ⟨ev, hev, -, hanswered⟩ := Pool.mem_own.mp hlooked
  obtain ⟨c, v, rfl, hanswer⟩ := Event.answered_eq_iff.mp hanswered
  obtain ⟨hrow, htoken, -⟩ := selectRow_ok hanswer
  exact ⟨recorded_before hc _ (List.mem_append_left post hev) row hrow, htoken⟩

/-- A callback that takes a login, or goes on with it, has looked it up, and it is of the endpoint's type. -/
theorem proceeds_recorded {pre post : FederationTrace κ} {ev : FederationEvent κ}
    (hsplit : (federated setup requests w).events (federationFor κ setup.env) sched = pre ++ ev :: post)
    (hrequest : requests ev.choice.1 = .callback code state type) (hproceeds : Proceeds ev.op) :
    ∃ row, Recorded w (pre ++ ev :: post) row ∧ row.stateToken.text = state ∧ row.connectionType = type ∧
      UsesLogin setup.callbacks.publicBaseUrl code row
        (Pool.own (federationFor κ setup.env) ev.choice.1 pre) ev.op := by
  have hc := (federated setup requests w).chained_events (federationFor κ setup.env) sched
  rw [hsplit] at hc
  have hpromise := callback_calls hsplit hrequest
  obtain ⟨op, ⟨k, c⟩, v⟩ := ev
  cases op with
  | deleteLoginState token =>
      obtain ⟨-, row, htype, hpast⟩ := hpromise
      obtain ⟨hrecorded, htoken⟩ := recorded_of_lookedUp state row hc hpast (by simp)
      exact ⟨row, hrecorded, htoken, htype, trivial⟩
  | exchangeCode config code' redirectUri verifier =>
      obtain ⟨row, connection, htype, hop, hpast⟩ := hpromise
      obtain ⟨hrecorded, htoken⟩ := recorded_of_lookedUp state row hc hpast (by simp)
      refine ⟨row, hrecorded, htoken, htype, connection, by simp [hpast], ?_⟩
      rw [htype]
      exact hop
  | validateIdToken idToken config nonce =>
      obtain ⟨row, connection, token, hconfig, hnonce, htype, hpast⟩ := hpromise
      obtain ⟨hrecorded, htoken⟩ := recorded_of_lookedUp state row hc hpast (by simp)
      exact ⟨row, hrecorded, htoken, htype, connection, by simp [hpast], hconfig, hnonce⟩
  | _ => exact hproceeds.elim

/-- The exchange is the callback's fourth call. -/
theorem own_of_exchange {pre post : FederationTrace κ} {ev : FederationEvent κ}
    (hsplit : (federated setup requests w).events (federationFor κ setup.env) sched = pre ++ ev :: post)
    (hev : ExchangesFor requests state ev) : ∃ row connection,
      Pool.own (federationFor κ setup.env) ev.choice.1 pre =
        [connected row connection, consumed state, lookedUp state row] := by
  obtain ⟨⟨code, type, hrequest⟩, config, code', redirectUri, verifier, hop⟩ := hev
  have hpromise := callback_calls hsplit hrequest
  rw [hop] at hpromise
  obtain ⟨row, connection, -, -, hpast⟩ := hpromise
  exact ⟨row, connection, hpast⟩

/-- Its callback has deleted the login. -/
theorem consumes_of_exchange {pre post : FederationTrace κ} {ev : FederationEvent κ}
    (hsplit : (federated setup requests w).events (federationFor κ setup.env) sched = pre ++ ev :: post)
    (hev : ExchangesFor requests state ev) :
    ∃ taken ∈ pre, taken.choice.1 = ev.choice.1 ∧ Consumes setup.env state taken := by
  obtain ⟨row, connection, hown⟩ := own_of_exchange hsplit hev
  have hmem : consumed state ∈ Pool.own (federationFor κ setup.env) ev.choice.1 pre := by simp [hown]
  exact Pool.mem_own.mp hmem

/-- **At most one exchange** for a token that is issued once. -/
theorem exchanged_once (honce : timesIssued state w
      ((federated setup requests w).events (federationFor κ setup.env) sched) ≤ 1)
    {pre post : FederationTrace κ} {ev : FederationEvent κ}
    (hsplit : (federated setup requests w).events (federationFor κ setup.env) sched = pre ++ ev :: post)
    (hev : ExchangesFor requests state ev) : ∀ ev' ∈ pre, ¬ ExchangesFor requests state ev' := by
  intro ev' hbefore hev'
  obtain ⟨pre', mid, rfl⟩ := List.append_of_mem hbefore
  have hsplit' := hsplit
  rw [List.append_assoc, List.cons_append] at hsplit'
  obtain ⟨taken, htaken, hk, hconsumes⟩ := consumes_of_exchange hsplit hev
  obtain ⟨taken', htaken', hk', hconsumes'⟩ := consumes_of_exchange hsplit' hev'
  have hc := (federated setup requests w).chained_events (federationFor κ setup.env) sched
  have hsame : taken' = taken := by
    apply consumes_eq hc honce ?_ hconsumes' ?_ hconsumes
    · rw [hsplit']
      exact List.mem_append_left _ htaken'
    · rw [hsplit]
      exact List.mem_append_left _ htaken
  -- one callback made both exchanges, although the second was its fourth call
  have hcallback : ev'.choice.1 = ev.choice.1 := by rw [← hk', ← hk, hsame]
  obtain ⟨row, connection, hown⟩ := own_of_exchange hsplit hev
  have hmem : ev'.answered (federationFor κ setup.env) ∈
      Pool.own (federationFor κ setup.env) ev.choice.1 (pre' ++ ev' :: mid) :=
    Pool.mem_own.mpr ⟨ev', hbefore, hcallback, rfl⟩
  obtain ⟨-, config, code, redirectUri, verifier, hop⟩ := hev'
  obtain ⟨op, c, v⟩ := ev'
  subst hop
  rw [hown] at hmem
  simp only [List.mem_cons, List.not_mem_nil, or_false] at hmem
  rcases hmem with h | h | h
  · cases congrArg Sigma.fst h
  · cases congrArg Sigma.fst h
  · cases congrArg Sigma.fst h

/-- **A login is used once, as it was stored.** However callbacks and other requests are interleaved, if the
state was issued once: at most one callback that carries it exchanges a code; every callback that takes the
login or goes on with it does so with what was stored; and one on the endpoint of another type does neither. -/
theorem login_state_single_use (setup : FederationSetup) (requests : κ → FederationRequest)
    (w : FederationWorld) (sched : List (κ × FederationChoice)) (state : String)
    (honce : timesIssued state w ((federated setup requests w).events (federationFor κ setup.env) sched) ≤ 1) :
    (∀ pre ev post, (federated setup requests w).events (federationFor κ setup.env) sched =
        pre ++ ev :: post → ExchangesFor requests state ev → ∀ ev' ∈ pre, ¬ ExchangesFor requests state ev') ∧
    ∀ pre ev post, (federated setup requests w).events (federationFor κ setup.env) sched =
        pre ++ ev :: post → ∀ code type, requests ev.choice.1 = .callback code state type →
      (Proceeds ev.op → ∃ row, Recorded w (pre ++ ev :: post) row ∧ row.stateToken.text = state ∧
        row.connectionType = type ∧ UsesLogin setup.callbacks.publicBaseUrl code row
          (Pool.own (federationFor κ setup.env) ev.choice.1 pre) ev.op) ∧
      ∀ row, Recorded w (pre ++ ev :: post) row → row.stateToken.text = state →
        row.connectionType ≠ type → ¬ Proceeds ev.op := by
  refine ⟨fun pre ev post hsplit hev => exchanged_once honce hsplit hev, ?_⟩
  intro pre ev post hsplit code type hrequest
  refine ⟨proceeds_recorded hsplit hrequest, ?_⟩
  intro row hrow htoken htype hproceeds
  obtain ⟨row', hrow', htoken', htype', -⟩ := proceeds_recorded hsplit hrequest hproceeds
  rw [hsplit] at honce
  exact htype (recorded_unique honce hrow htoken hrow' htoken' ▸ htype')

end singleUse

/-! ### Two callbacks at once -/

/-- A login of `acme`'s is pending. -/
def adaPending : FederationWorld :=
  { acmeFederation with
    loginStates := .single ⟨Ulid.repeating 'A', "acme", "connection", "oidc", "https://app.example/",
      some "verifier", some "nonce", 600⟩ }

/-- Two callbacks carry its state. -/
def twoCallbacks (_ : Fin 2) : FederationRequest :=
  .callback "code" (Ulid.repeating 'A').text "oidc"

/-- Both look the login up before either deletes it. -/
def racingSchedule : List (Fin 2 × FederationChoice) :=
  [⟨0, Nat.zero_lt_two⟩, ⟨1, Nat.one_lt_two⟩, ⟨0, Nat.zero_lt_two⟩, ⟨1, Nat.one_lt_two⟩, ⟨0, Nat.zero_lt_two⟩,
    ⟨1, Nat.one_lt_two⟩, ⟨0, Nat.zero_lt_two⟩].map fun caller => (caller, .plain 'B' 0)

/-- The calls they make. -/
abbrev racingTrace : FederationTrace (Fin 2) :=
  (federated .plain twoCallbacks adaPending).events (federationFor (Fin 2) .plain) racingSchedule

/-- A code is exchanged. -/
def FederationOp.isExchange : FederationOp → Bool
  | .exchangeCode _ _ _ _ => true
  | _ => false

/-- One of them exchanges its code. -/
theorem racing_callbacks : (racingTrace.countP fun ev => ev.op.isExchange) = 1 ∧
    ∀ pre ev post, racingTrace = pre ++ ev :: post →
      ExchangesFor twoCallbacks (Ulid.repeating 'A').text ev →
      ∀ ev' ∈ pre, ¬ ExchangesFor twoCallbacks (Ulid.repeating 'A').text ev' :=
  ⟨by decide +kernel, (login_state_single_use .plain twoCallbacks adaPending racingSchedule
    (Ulid.repeating 'A').text (by decide +kernel)).1⟩

end SsoGateway
