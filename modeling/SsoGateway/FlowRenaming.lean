import SsoGateway.FlowAnswers
import SsoGateway.Lib.JsonText

/-!
# What a browser sees of a flow

Requests about flows, next to any other programs over the same tables. A browser is only shown names that the
gateway made, the same name wherever the same flow is meant, and Kratos is only asked about a flow under a name
that the gateway made for it.

* `Named`, `StandsFor` — a name of a run, and what it is worth at the end.
* `named_key`, `named_once` — a name is one flow's, and a flow has one name.
* `flow_answers_renamed` — every answer is what Kratos said, under such names.
* `kratos_asked_by_name` — Kratos is asked about the flow of the presented name.
* `failed_submission_named` — what is passed on of a failed submission.

Source: `services/identity_self_service.rs`.
-/

namespace SsoGateway

open Lib

/-! ## The names of a run -/

section run

variable {κ : Type} {env : Env} {w w' : FlowWorld} {trace : FlowTrace κ}

/-- The statement of a call, if it is about tokens. -/
def statementOf (ev : FlowEvent κ) : Option TransientCall :=
  match ev.op with
  | .transient op => some ⟨op, ev.choice.2.transient⟩
  | _ => none

/-- The statements of a run. -/
def tokenCalls (trace : FlowTrace κ) : List TransientCall := trace.filterMap statementOf

/-- The table after a run is the table after its statements. -/
theorem tokens_after (hc : Chained (flowsFor κ env) w trace w') :
    w'.tokens = tableAfter (tokenCalls trace) w.tokens := by
  induction trace generalizing w with
  | nil =>
      obtain rfl := hc
      rfl
  | cons ev trace ih =>
      obtain ⟨rfl, hrest⟩ := hc
      rw [ih hrest]
      obtain ⟨op, ⟨k, c⟩, v⟩ := ev
      cases op with
      | transient op => rfl
      | gateway op => rfl
      | kratos call => rfl

/-- A call names a token. -/
def Names (env : Env) (K : TransientKey) (p : String) (ev : FlowEvent κ) : Prop :=
  ∃ e, ev.answered (flowsFor κ env) = FlowOp.reply (.transient (.create K e)) (.ok p)

/-- A token is named in a run. -/
def Named (env : Env) (trace : FlowTrace κ) (K : TransientKey) (p : String) : Prop :=
  ∃ ev ∈ trace, Names env K p ev

/-- Presented as a flow by any tenant, the name leads to its token. -/
def LeadsTo (env : Env) (w : FlowWorld) (p oryFlowId : String) (expiry : ℤ) : Prop :=
  ∀ (now : ℤ) (o : ℕ → Choice), (∀ n, (o n).fault 0 = none ∧ (o n).now = now) → now < expiry →
    ∀ t, (resolveFlow t p).run.run (gateway env) o w.world = (.ok oryFlowId, w.world)

/-- What a name is worth after a run: it was created, and stands for its token from then on. -/
def StandsFor (env : Env) (w : FlowWorld) (calls : List TransientCall) (K : TransientKey) (p : String) : Prop :=
  ∃ before after e c, calls = before ++ ⟨.create K e, c⟩ :: after ∧
    Renames K e p calls after (tableAfter calls .empty) ∧
    (p ≠ "" → K = flowKeyOf K.tenantId K.oryToken → Undeleted K.tenantId p after →
      LeadsTo env w p K.oryToken (expiryAfter K e after))

/-- A call that names a token, among the statements. -/
theorem created_of_names (hc : Chained (flowsFor κ env) w trace w') (hempty : w.tokens = .empty)
    {K : TransientKey} {p : String} (h : Named env trace K p) : ∃ before after e c,
      tokenCalls trace = before ++ ⟨.create K e, c⟩ :: after ∧
      (transientStore (.create K e) c (tableAfter before .empty)).1 = .ok p := by
  obtain ⟨ev, hev, e, hanswered⟩ := h
  obtain ⟨pre, post, rfl⟩ := List.append_of_mem hev
  obtain ⟨v, hpre, hbefore, -⟩ := Chained.append.mp hc
  obtain ⟨c, u, rfl, hanswer⟩ := Event.answered_eq_iff.mp hanswered
  obtain rfl : u = v := hbefore
  refine ⟨tokenCalls pre, tokenCalls post, e, c.2.transient, ?_, ?_⟩
  · simp [tokenCalls, statementOf]
  · rw [← hempty, ← tokens_after hpre]
    exact hanswer

/-- A flow whose name resolves is found under it. -/
theorem leadsTo_of_renames {K : TransientKey} {e : ℤ} {p : String} {calls after : List TransientCall}
    (h : Renames K e p calls after w.tokens) (hp : p ≠ "") (hflow : K = flowKeyOf K.tenantId K.oryToken)
    (hundeleted : Undeleted K.tenantId p after) : LeadsTo env w p K.oryToken (expiryAfter K e after) := by
  intro now o hquiet hnow t
  have hanswer := (h.resolves hundeleted ⟨now, "", none⟩ rfl hnow).2
  have hbackend : K.backend = .kratos := by
    rw [hflow]
    rfl
  have htype : K.tokenType = "flow" := by
    rw [hflow]
    rfl
  rw [hbackend, htype] at hanswer
  simp only [transientStore, Fault.answer_none] at hanswer
  rw [resolveFlow_run (w := w.world) (m := w.tokens) rfl hquiet t p hp]
  cases hfind : w.tokens.find? fun x => x.backend = .kratos ∧ x.tokenType = "flow" ∧ x.publicToken = p ∧
      now < x.expiresAt with
  | none =>
      rw [hfind] at hanswer
      cases hanswer
  | some r =>
      rw [hfind] at hanswer
      obtain ⟨-, hory⟩ := Prod.mk.inj (Except.ok.inj hanswer)
      show (Except.ok r.oryToken, w.world) = _
      rw [hory]

/-- **What a name is worth.** -/
theorem standsFor_of_named (hc : Chained (flowsFor κ env) w trace w') (hempty : w.tokens = .empty)
    (hfresh : FreshUlids (tokenCalls trace)) {K : TransientKey} {p : String} (h : Named env trace K p) :
    StandsFor env w' (tokenCalls trace) K p := by
  obtain ⟨before, after, e, c, hsplit, hcreate⟩ := created_of_names hc hempty h
  have htokens := tokens_after hc
  rw [hempty] at htokens
  have hrenames : Renames K e p (tokenCalls trace) after (tableAfter (tokenCalls trace) .empty) := by
    rw [hsplit] at hfresh ⊢
    exact renames_of_create hfresh hcreate
  refine ⟨before, after, e, c, hsplit, hrenames, fun hp hflow hundeleted => ?_⟩
  rw [← htokens] at hrenames
  exact leadsTo_of_renames hrenames hp hflow hundeleted

/-- A row that a history leaves, and the draw it comes from. -/
theorem drawn_of_named (hc : Chained (flowsFor κ env) w trace w') (hempty : w.tokens = .empty)
    {K : TransientKey} {p : String} (h : Named env trace K p) :
    ∃ call ∈ tokenCalls trace, (∃ e, call.op = .create K e) ∧ call.choice.ulid = p := by
  obtain ⟨before, after, e, c, hsplit, hcreate⟩ := created_of_names hc hempty h
  obtain ⟨-, hrow⟩ := table_created hcreate
  have hcreated : tableAfter (before ++ [⟨.create K e, c⟩]) .empty =
      (TransientCall.mk (.create K e) c).table (tableAfter before .empty) := by
    simp [tableAfter]
  rw [← hcreated] at hrow
  obtain ⟨call, hcall, hop, hulid⟩ := namedByHistory_tableAfter _ _ hrow
  refine ⟨call, ?_, hop, hulid⟩
  rw [hsplit]
  rcases List.mem_append.mp hcall with hearlier | hlast
  · exact List.mem_append_left _ hearlier
  · obtain rfl := List.mem_singleton.mp hlast
    exact List.mem_append_right _ List.mem_cons_self

/-- A name is one token's. -/
theorem named_key (hc : Chained (flowsFor κ env) w trace w') (hempty : w.tokens = .empty)
    (hfresh : FreshUlids (tokenCalls trace)) {K K' : TransientKey} {p : String} (h : Named env trace K p)
    (h' : Named env trace K' p) : K = K' := by
  obtain ⟨call, hcall, ⟨e, hop⟩, hulid⟩ := drawn_of_named hc hempty h
  obtain ⟨call', hcall', ⟨e', hop'⟩, hulid'⟩ := drawn_of_named hc hempty h'
  have hsame := hfresh.unique hcall hcall' (u := p) (by simp [TransientCall.minted, hop, hulid])
    (by simp [TransientCall.minted, hop', hulid'])
  rw [hsame, hop'] at hop
  injection hop with hkey
  exact hkey.symm

/-- No call of a run takes a name away. -/
def NothingDeleted (trace : FlowTrace κ) : Prop := ∀ ev ∈ trace, ∀ t p, ev.op ≠ .transient (.delete t p)

/-- So no statement does. -/
theorem undeleted_tokenCalls (hkept : NothingDeleted trace) {call : TransientCall}
    (hcall : call ∈ tokenCalls trace) (t p : String) : call.op ≠ .delete t p := by
  intro hop
  obtain ⟨ev, hev, htoken⟩ := List.mem_filterMap.mp hcall
  obtain ⟨op, ic, v⟩ := ev
  cases op with
  | transient op =>
      obtain rfl := Option.some.inj htoken
      obtain rfl : op = .delete t p := hop
      exact hkept _ hev t p rfl
  | gateway op => cases htoken
  | kratos call => cases htoken

/-- A later call gives the name that an earlier one gave. -/
theorem named_again (hc : Chained (flowsFor κ env) w trace w') (hempty : w.tokens = .empty)
    (hfresh : FreshUlids (tokenCalls trace)) (hkept : NothingDeleted trace) {K : TransientKey} {p p' : String}
    {pre post : FlowTrace κ} {ev' : FlowEvent κ} (hsplit : trace = pre ++ ev' :: post) (h : Named env pre K p)
    (h' : Names env K p' ev') : p' = p := by
  subst hsplit
  obtain ⟨v, hpre, hbefore, -⟩ := Chained.append.mp hc
  obtain ⟨e', hanswered⟩ := h'
  obtain ⟨c, u, rfl, hanswer⟩ := Event.answered_eq_iff.mp hanswered
  obtain rfl : u = v := hbefore
  have hfresh₀ : FreshUlids (tokenCalls pre) := by
    refine List.Nodup.sublist (List.Sublist.filterMap _ ?_) hfresh
    exact (List.sublist_append_left pre _).filterMap _
  obtain ⟨before, after, e, c₀, hcalls, hrenames, -⟩ := standsFor_of_named hpre hempty hfresh₀ h
  have hundeleted : Undeleted K.tenantId p after := by
    intro call hcall hop
    have hmem : call ∈ tokenCalls pre := by
      rw [hcalls]
      exact List.mem_append_right _ (List.mem_cons_of_mem _ hcall)
    have hkept₀ : NothingDeleted pre := fun ev hev => hkept ev (List.mem_append_left _ hev)
    exact absurd hop (undeleted_tokenCalls hkept₀ hmem _ _)
  have hsame := tokens_after hpre
  rw [hempty] at hsame
  have hrepeat : (transientStore (.create K e') c.2.transient (tableAfter (tokenCalls pre) .empty)).1 = .ok p' := by
    rw [← hsame]
    exact hanswer
  exact (hrenames.repeats hundeleted e' c.2.transient p' hrepeat).1

/-- A token has one name. -/
theorem named_once (hc : Chained (flowsFor κ env) w trace w') (hempty : w.tokens = .empty)
    (hfresh : FreshUlids (tokenCalls trace)) (hkept : NothingDeleted trace) {K : TransientKey} {p p' : String}
    (h : Named env trace K p) (h' : Named env trace K p') : p = p' := by
  obtain ⟨ev, hev, hnames⟩ := h
  obtain ⟨ev', hev', hnames'⟩ := h'
  obtain ⟨pre, post, hsplit⟩ := List.append_of_mem hev
  rw [hsplit] at hev'
  rcases List.mem_append.mp hev' with hearlier | hlater
  · exact named_again hc hempty hfresh hkept hsplit ⟨ev', hearlier, hnames'⟩ hnames
  · rcases List.mem_cons.mp hlater with rfl | hafter
    · obtain ⟨e, hanswered⟩ := hnames
      obtain ⟨e', hanswered'⟩ := hnames'
      obtain ⟨hop, hanswer⟩ := Sigma.mk.inj (hanswered.symm.trans hanswered')
      obtain rfl : e = e' := by
        injection hop with hop
        injection hop
      exact Except.ok.inj (eq_of_heq hanswer)
    · obtain ⟨mid, post', rfl⟩ := List.append_of_mem hafter
      have hsplit' : trace = (pre ++ ev :: mid) ++ ev' :: post' := by
        rw [hsplit, List.append_assoc, List.cons_append]
      refine (named_again hc hempty hfresh hkept hsplit' ⟨ev, ?_, hnames⟩ hnames').symm
      exact List.mem_append_right _ List.mem_cons_self

/-! ## Resolving a name -/

/-- A call finds the flow of a public id. -/
def ResolvesFlow (env : Env) (t p oryFlowId : String) (ev : FlowEvent κ) : Prop :=
  ev.answered (flowsFor κ env) = FlowOp.reply (.gateway (.getOryToken t .kratos "flow" p)) (.ok oryFlowId) ∨
  ev.answered (flowsFor κ env) = FlowOp.reply (.transient (.getOryToken t .kratos "flow" p)) (.ok oryFlowId) ∨
  ∃ t', ev.answered (flowsFor κ env) =
    FlowOp.reply (.gateway (.getOryTokenGlobal .kratos "flow" p)) (.ok (t', oryFlowId))

/-- The row that it finds. -/
theorem row_of_resolves {t p oryFlowId : String} {ev : FlowEvent κ} (h : ResolvesFlow env t p oryFlowId ev) :
    ∃ row ∈ ev.before.tokens.rows, row.key = flowKeyOf row.tenantId oryFlowId ∧ row.publicToken = p := by
  rcases h with hscoped | htransient | ⟨t', hglobal⟩
  · obtain ⟨c, v, rfl, hanswer⟩ := Event.answered_eq_iff.mp hscoped
    have hlookup : (gateway env (.getOryToken t .kratos "flow" p) c.2.gateway v.world).1 = .ok oryFlowId := hanswer
    simp only [gateway] at hlookup
    obtain ⟨-, hok⟩ := Fault.answer_ok hlookup
    obtain ⟨r, hr, ⟨-, hbackend, htype, hname, -⟩, rfl⟩ := of_orNotFound (m := v.tokens) hok
    exact ⟨r, hr, by simp [TransientTokenRow.key, flowKeyOf, hbackend, htype], hname⟩
  · obtain ⟨c, v, rfl, hanswer⟩ := Event.answered_eq_iff.mp htransient
    have hlookup : (transientStore (.getOryToken t .kratos "flow" p) c.2.transient v.tokens).1 = .ok oryFlowId :=
      hanswer
    obtain ⟨-, hok⟩ := Fault.answer_ok hlookup
    obtain ⟨r, hr, ⟨-, hbackend, htype, hname, -⟩, rfl⟩ := of_orNotFound hok
    exact ⟨r, hr, by simp [TransientTokenRow.key, flowKeyOf, hbackend, htype], hname⟩
  · obtain ⟨c, v, rfl, hanswer⟩ := Event.answered_eq_iff.mp hglobal
    have hlookup : (gateway env (.getOryTokenGlobal .kratos "flow" p) c.2.gateway v.world).1 =
      .ok (t', oryFlowId) := hanswer
    simp only [gateway] at hlookup
    obtain ⟨-, hok⟩ := Fault.answer_ok hlookup
    obtain ⟨r, hr, ⟨hbackend, htype, hname, -⟩, hfound⟩ := of_orNotFound (m := v.tokens) hok
    obtain ⟨-, rfl⟩ := Prod.mk.inj hfound
    exact ⟨r, hr, by simp [TransientTokenRow.key, flowKeyOf, hbackend, htype], hname⟩

/-- A public id that was resolved was drawn for that flow before. -/
theorem drawn_of_resolves (hc : Chained (flowsFor κ env) w trace w') (hempty : w.tokens = .empty)
    {t p oryFlowId : String} {pre post : FlowTrace κ} {ev : FlowEvent κ} (hsplit : trace = pre ++ ev :: post)
    (h : ResolvesFlow env t p oryFlowId ev) : ∃ call ∈ tokenCalls pre,
      (∃ t' e, call.op = .create (flowKeyOf t' oryFlowId) e) ∧ call.choice.ulid = p := by
  subst hsplit
  obtain ⟨v, hpre, hbefore, -⟩ := Chained.append.mp hc
  obtain ⟨row, hrow, hkey, hname⟩ := row_of_resolves h
  rw [hbefore, tokens_after hpre, hempty] at hrow
  obtain ⟨call, hcall, ⟨e, hop⟩, hulid⟩ := namedByHistory_tableAfter _ row hrow
  rw [hkey] at hop
  exact ⟨call, hcall, ⟨row.tenantId, e, hop⟩, hulid.trans hname⟩

/-- The row of a token that was named before. -/
theorem row_of_named (hc : Chained (flowsFor κ env) w trace w') (hempty : w.tokens = .empty)
    (hkept : NothingDeleted trace) {K : TransientKey} {before after : List TransientCall} {e : ℤ}
    {c : TransientChoice} {p : String} (hsplit : tokenCalls trace = before ++ ⟨.create K e, c⟩ :: after)
    (hcreate : (transientStore (.create K e) c (tableAfter before .empty)).1 = .ok p) :
    (⟨K.tenantId, K.backend, K.tokenType, p, K.oryToken, expiryAfter K e after⟩ : TransientTokenRow) ∈
      w'.tokens.rows := by
  obtain ⟨hketo, hrow⟩ := table_created hcreate
  have hundeleted : Undeleted K.tenantId p after := by
    intro call hcall hop
    have hmem : call ∈ tokenCalls trace := by
      rw [hsplit]
      exact List.mem_append_right _ (List.mem_cons_of_mem _ hcall)
    exact absurd hop (undeleted_tokenCalls hkept hmem _ _)
  rw [tokens_after hc, hempty, hsplit]
  have hafter : tableAfter (before ++ ⟨.create K e, c⟩ :: after) .empty =
      tableAfter after ((TransientCall.mk (.create K e) c).table (tableAfter before .empty)) := by
    simp [tableAfter]
  rw [hafter]
  exact tableAfter_keeps after hrow hketo hundeleted

/-- **A token that was named is known by that name**: a lookup answers with it, unless it fails or comes too
late. -/
theorem known_by_name (hc : Chained (flowsFor κ env) w trace w') (hempty : w.tokens = .empty)
    (hkept : NothingDeleted trace) {K : TransientKey} {before after : List TransientCall} {e : ℤ}
    {c : TransientChoice} {p : String} (hsplit : tokenCalls trace = before ++ ⟨.create K e, c⟩ :: after)
    (hcreate : (transientStore (.create K e) c (tableAfter before .empty)).1 = .ok p) (look : TransientChoice) :
    (∀ p', (transientStore (.getPublicToken K) look w'.tokens).1 = .ok p' → p' = p) ∧
      (look.fault = none → look.now < expiryAfter K e after →
        (transientStore (.getPublicToken K) look w'.tokens).1 = .ok p) := by
  have hrow := row_of_named hc hempty hkept hsplit hcreate
  constructor
  · intro p' hok
    obtain ⟨-, hfound⟩ := Fault.answer_ok hok
    obtain ⟨r, hr, ⟨hkey, -⟩, rfl⟩ := of_orNotFound hfound
    rw [Table.eq_of_conflicts (fun _ _ => TransientTokenRow.Conflicts.symm) hr hrow (.inl hkey)]
  · intro hfault hnow
    have hfind := Table.find?_eq_of_unique (p := fun r : TransientTokenRow => r.key = K ∧ look.now < r.expiresAt)
      hrow ⟨rfl, hnow⟩ fun r hr hP =>
        Table.eq_of_conflicts (fun _ _ => TransientTokenRow.Conflicts.symm) hr hrow (.inl hP.1)
    simp only [transientStore, hfault, Fault.answer_none, hfind, orNotFound]

end run

/-! ## Requests among others -/

section requests

variable {κ : Type} [DecidableEq κ] {state : IdentitySelfService} {requests : κ → FlowRequest} {w : FlowWorld}
  {sched : List (κ × FlowChoice)} {k : κ}

/-- The program is one of the requests about flows. -/
def FlowRequest.IsRequest (request : FlowRequest) : Prop := ∀ p, request ≠ .other p

/-- The calls of one request of a run. -/
theorem flow_calls {pre post : FlowTrace κ} {ev : FlowEvent κ}
    (hsplit : (flowRequests state requests w).events (flowsFor κ state.env) sched = pre ++ ev :: post)
    (hrequest : (requests ev.choice.1).IsRequest) :
    FlowPromise (requests ev.choice.1) ev.op (Pool.own (flowsFor κ state.env) ev.choice.1 pre) := by
  have hthread : ((flowRequests state requests w).threads ev.choice.1).Sat (scripted FlowSig)
      (Answering (FlowPromise (requests ev.choice.1))) _ [] := shown_of_request hrequest
  simpa using Pool.own_calls sched hthread pre ev post hsplit rfl

theorem named_of_own {trace : FlowTrace κ} {K : TransientKey} {p : String}
    (h : NamedIn (Pool.own (flowsFor κ state.env) k trace) K p) : Named state.env trace K p := by
  obtain ⟨e, hmem⟩ := h
  obtain ⟨ev, hev, -, hanswered⟩ := Pool.mem_own.mp hmem
  exact ⟨ev, hev, e, hanswered⟩

/-- **Browsers are shown names.** However requests and other programs are interleaved, what a request is answered
is what Kratos said with a name in the place of each of its ids, as id of the flow, in the URLs and as token; and
each of these names stands for what it replaces and for nothing else, so that a flow under its name is found again
by any tenant. Where no program takes names away, what is named is named alike in every answer. -/
theorem flow_answers_renamed (state : IdentitySelfService) (requests : κ → FlowRequest) (w : FlowWorld)
    (sched : List (κ × FlowChoice)) (hempty : w.tokens = .empty)
    (hfresh : FreshUlids (tokenCalls
      ((flowRequests state requests w).events (flowsFor κ state.env) sched))) :
    ∀ k reply, (requests k).IsRequest →
    ((flowRequests state requests w).run (flowsFor κ state.env) sched).Returned k (some (.ok reply)) →
    (requests k).Shown state (Pool.own (flowsFor κ state.env) k
      ((flowRequests state requests w).events (flowsFor κ state.env) sched)) reply ∧
    ∀ K p, NamedIn (Pool.own (flowsFor κ state.env) k
      ((flowRequests state requests w).events (flowsFor κ state.env) sched)) K p →
      StandsFor state.env ((flowRequests state requests w).run (flowsFor κ state.env) sched).world
        (tokenCalls ((flowRequests state requests w).events (flowsFor κ state.env) sched)) K p ∧
      ∀ K' p', Named state.env ((flowRequests state requests w).events (flowsFor κ state.env) sched) K' p' →
        (p' = p → K' = K) ∧
        (NothingDeleted ((flowRequests state requests w).events (flowsFor κ state.env) sched) → K' = K → p' = p) := by
  intro k reply hrequest hreturned
  have hc := (flowRequests state requests w).chained_events (flowsFor κ state.env) sched
  have hthread : ((flowRequests state requests w).threads k).Sat (scripted FlowSig)
      (Answering (FlowPromise (requests k))) (fun r past' => ∀ reply, r = some (.ok reply) →
        (requests k).Shown state past' reply) [] := shown_of_request hrequest
  constructor
  · simpa using Pool.own_returned sched hthread hreturned reply rfl
  · intro K p hown
    have hnamed := named_of_own hown
    refine ⟨standsFor_of_named hc hempty hfresh hnamed, fun K' p' hnamed' => ⟨?_, ?_⟩⟩
    · rintro rfl
      exact named_key hc hempty hfresh hnamed' hnamed
    · rintro hkept rfl
      exact named_once hc hempty hfresh hkept hnamed' hnamed

/-- **Kratos is asked by name.** However requests and other programs are interleaved, Kratos is only asked about a
flow for a request that presented a public id, and about the flow that this id was drawn for before; no other
token is ever named by it. -/
theorem kratos_asked_by_name (state : IdentitySelfService) (requests : κ → FlowRequest) (w : FlowWorld)
    (sched : List (κ × FlowChoice)) (hempty : w.tokens = .empty)
    (hfresh : FreshUlids (tokenCalls
      ((flowRequests state requests w).events (flowsFor κ state.env) sched))) :
    ∀ pre ev post call oryFlowId,
    (flowRequests state requests w).events (flowsFor κ state.env) sched = pre ++ ev :: post →
    (requests ev.choice.1).IsRequest → ev.op = .kratos call → call.flowId = some oryFlowId →
    ∃ t p, (requests ev.choice.1).presented = some (t, p) ∧
      (∃ drawn ∈ tokenCalls pre, (∃ t' e, drawn.op = .create (flowKeyOf t' oryFlowId) e) ∧ drawn.choice.ulid = p) ∧
      ∀ K, Named state.env ((flowRequests state requests w).events (flowsFor κ state.env) sched) K p →
        K = flowKeyOf K.tenantId oryFlowId := by
  intro pre ev post call oryFlowId hsplit hrequest hop hflow
  have hc := (flowRequests state requests w).chained_events (flowsFor κ state.env) sched
  have hpromise := flow_calls hsplit hrequest
  rw [hop] at hpromise
  obtain ⟨t, p, hpresented, hresolved⟩ := hpromise.2 oryFlowId hflow
  obtain ⟨look, hlook, hresolves⟩ : ∃ look ∈ pre, ResolvesFlow state.env t p oryFlowId look := by
    rcases hresolved with h | h | ⟨t', h⟩
    · obtain ⟨look, hlook, -, hanswered⟩ := Pool.mem_own.mp h
      exact ⟨look, hlook, .inl hanswered⟩
    · obtain ⟨look, hlook, -, hanswered⟩ := Pool.mem_own.mp h
      exact ⟨look, hlook, .inr (.inl hanswered)⟩
    · obtain ⟨look, hlook, -, hanswered⟩ := Pool.mem_own.mp h
      exact ⟨look, hlook, .inr (.inr ⟨t', hanswered⟩)⟩
  obtain ⟨early, mid, rfl⟩ := List.append_of_mem hlook
  have hsplit' := hsplit
  rw [List.append_assoc, List.cons_append] at hsplit'
  rw [hsplit'] at hc
  obtain ⟨drawn, hdrawn, ⟨t', e, hcreate⟩, hulid⟩ := drawn_of_resolves hc hempty rfl hresolves
  rw [← hsplit'] at hc
  refine ⟨t, p, hpresented, ⟨drawn, ?_, ⟨t', e, hcreate⟩, hulid⟩, fun K hnamed => ?_⟩
  · unfold tokenCalls at hdrawn ⊢
    rw [List.filterMap_append]
    exact List.mem_append_left _ hdrawn
  · obtain ⟨drawn', hdrawn', ⟨e', hcreate'⟩, hulid'⟩ := drawn_of_named hc hempty hnamed
    have hdrawn₀ : drawn ∈ tokenCalls ((flowRequests state requests w).events (flowsFor κ state.env) sched) := by
      rw [hsplit']
      unfold tokenCalls at hdrawn ⊢
      rw [List.filterMap_append]
      exact List.mem_append_left _ hdrawn
    have hsame := hfresh.unique hdrawn' hdrawn₀ (u := p)
      (by simp [TransientCall.minted, hcreate', hulid']) (by simp [TransientCall.minted, hcreate, hulid])
    rw [hsame, hcreate] at hcreate'
    injection hcreate' with hkey
    rw [← hkey]
    rfl

/-- A request submits once. -/
theorem submits_once {ev ev' : FlowEvent κ} {call call' : FlowCall}
    (hev : ev ∈ (flowRequests state requests w).events (flowsFor κ state.env) sched)
    (hev' : ev' ∈ (flowRequests state requests w).events (flowsFor κ state.env) sched)
    (hk : ev'.choice.1 = ev.choice.1) (hrequest : (requests ev.choice.1).IsRequest)
    (hop : ev.op = .kratos call) (hsubmits : call.submits = true)
    (hop' : ev'.op = .kratos call') (hsubmits' : call'.submits = true) : ev = ev' := by
  have honce : ∀ {pre post : FlowTrace κ} {first last : FlowEvent κ} {call₀ call₁ : FlowCall},
      (flowRequests state requests w).events (flowsFor κ state.env) sched = pre ++ last :: post → first ∈ pre →
      first.choice.1 = last.choice.1 → (requests last.choice.1).IsRequest → first.op = .kratos call₀ →
      call₀.submits = true → last.op = .kratos call₁ → call₁.submits = true → False := by
    intro pre post first last call₀ call₁ hsplit hfirst hsame hlast hop₀ hsubmits₀ hop₁ hsubmits₁
    have hpromise := flow_calls hsplit hlast
    rw [hop₁] at hpromise
    have hown : first.answered (flowsFor κ state.env) ∈ Pool.own (flowsFor κ state.env) last.choice.1 pre :=
      Pool.mem_own.mpr ⟨first, hfirst, hsame, rfl⟩
    have hnone := hpromise.1 hsubmits₁ _ hown call₀ hop₀
    rw [hsubmits₀] at hnone
    cases hnone
  obtain ⟨pre, post, hsplit⟩ := List.append_of_mem hev
  rw [hsplit] at hev'
  rcases List.mem_append.mp hev' with hearlier | hlater
  · exact (honce hsplit hearlier hk hrequest hop' hsubmits' hop hsubmits).elim
  · rcases List.mem_cons.mp hlater with rfl | hafter
    · rfl
    · obtain ⟨mid, post', rfl⟩ := List.append_of_mem hafter
      rw [← List.cons_append, ← List.append_assoc] at hsplit
      refine (honce hsplit ?_ hk.symm (hk ▸ hrequest) hop hsubmits hop' hsubmits').elim
      exact List.mem_append_right _ List.mem_cons_self

/-- What a submission is answered, by its calls. -/
theorem submission_returned {ctx : SelfServiceContext} {kind : FlowKind} {id : String} {body : Value}
    {r : Option (Except ServiceError FlowReply)} (hrequest : requests k = .submitFlow ctx kind id body)
    (hreturned : ((flowRequests state requests w).run (flowsFor κ state.env) sched).Returned k r) :
    ∃ r₀, r = some (FlowReply.flow <$> r₀) ∧ SubmissionAnswered state ctx r₀ (Pool.own (flowsFor κ state.env) k
      ((flowRequests state requests w).events (flowsFor κ state.env) sched)) := by
  have hthread : ((flowRequests state requests w).threads k).Sat (scripted FlowSig)
      (Answering (FlowPromise (requests k))) (fun r past' => ∃ r₀, r = some (FlowReply.flow <$> r₀) ∧
        SubmissionAnswered state ctx r₀ past') [] := by
    show ((requests k).prog state).Sat _ _ _ _
    rw [hrequest]
    refine Prog.sat_map.mpr ?_
    rw [ExceptT.run_map]
    refine Prog.sat_map.mpr ((submission_answered rfl fun _ h => absurd h List.not_mem_nil).post ?_)
    exact fun r₀ past' h => ⟨r₀, rfl, h⟩
  simpa using Pool.own_returned sched hthread hreturned

end requests

/-! ## A flow of a tenant -/

/-- Everything is somewhere, and JSON is JSON. -/
def IdentitySelfService.plain : IdentitySelfService where
  urls := .http .ascii
  hosts := readAsciiName
  parseJson := Value.read
  jsonText := Value.render
  compile _ := .ok fun _ => .ok ()
  env := .firstRow
  paths := ⟨"/login", "/registration", "/settings", "/recovery", "/verification", "/logout", "/errors", "/oidc",
    "/webauthn.js"⟩
  kratosPublicUrl := "http://kratos"
  hydraPublicUrl := "http://hydra"
  gatewayPublicUrl := "https://sso.example"
  kratosDefaultSchemaId := "default"
  systemTenantId := "system"

/-- What Kratos says of a submission that it refuses. -/
def refusedText : String := "\x7b\"id\":\"raw\",\"ui\":\x7b\x7d\x7d"

/-- Kratos has one flow, and refuses what is submitted. -/
def flowKratos : (call : FlowCall) → call.Res
  | .createFlow _ _ _ => .ok ⟨.obj [("id", .str "raw")], []⟩
  | .getFlow _ _ _ => .ok ⟨.obj [("id", .str "raw")], []⟩
  | .submitFlow _ _ _ _ => .error (.ory 400 refusedText)
  | .submitToken _ _ _ _ _ => .ok ⟨none, []⟩
  | .createLogoutFlow _ _ => .ok ⟨.null, []⟩
  | .submitLogoutFlow _ _ _ => .ok ()
  | .getFlowError _ => .ok .null

/-- Nothing fails, and the ULID is drawn. -/
def FlowChoice.plain (ulid : String) : FlowChoice := ⟨⟨0, ulid, none⟩, .plain ulid 0, flowKratos⟩

/-- Nothing is named yet. -/
def noFlows : FlowWorld := ⟨.empty, .empty []⟩

/-- `acme` makes a flow, and something else follows. -/
def madeAndThen (next : FlowRequest) (k : Bool) : FlowRequest :=
  if k = false then .createFlow ⟨"acme", none, none⟩ .settings "" else next

/-- Another tenant asks for it. -/
def askedElsewhere : FlowRequest := .getFlow ⟨"other", none, none⟩ .settings "01"

/-- It is submitted. -/
def submittedFlow : FlowRequest := .submitFlow ⟨"acme", none, none⟩ .login "01" .null

/-- First the flow is made, and then some calls follow. -/
def madeFirst (n : ℕ) : List (Bool × FlowChoice) :=
  List.replicate 3 (false, .plain "01") ++ List.replicate n (true, .plain "02")

/-- The two tenants draw two names. -/
theorem askedElsewhere_fresh : FreshUlids (tokenCalls ((flowRequests .plain (madeAndThen askedElsewhere)
    noFlows).events (flowsFor Bool IdentitySelfService.plain.env) (madeFirst 5))) := by
  have hdrawn : (tokenCalls ((flowRequests .plain (madeAndThen askedElsewhere) noFlows).events
      (flowsFor Bool IdentitySelfService.plain.env) (madeFirst 5))).filterMap TransientCall.minted =
        ["01", "02"] := by
    decide +kernel
  unfold FreshUlids
  rw [hdrawn]
  decide

/-- The answer of a request that has returned. -/
def replyOf : Prog FlowSig (Option (Except ServiceError FlowReply)) → Option FlowReply
  | .pure (some (.ok reply)) => some reply
  | _ => none

/-- The first of the two is answered. -/
theorem made_flow_renamed : ∃ reply, (madeAndThen askedElsewhere false).Shown .plain
    (Pool.own (flowsFor Bool IdentitySelfService.plain.env) false
      ((flowRequests .plain (madeAndThen askedElsewhere) noFlows).events
        (flowsFor Bool IdentitySelfService.plain.env) (madeFirst 5))) reply := by
  have hreply : (replyOf (((flowRequests .plain (madeAndThen askedElsewhere) noFlows).run
      (flowsFor Bool IdentitySelfService.plain.env) (madeFirst 5)).threads false)).isSome = true := by
    decide +kernel
  obtain ⟨reply, hreply⟩ := Option.isSome_iff_exists.mp hreply
  have hreturned : ((flowRequests .plain (madeAndThen askedElsewhere) noFlows).run
      (flowsFor Bool IdentitySelfService.plain.env) (madeFirst 5)).Returned false (some (.ok reply)) := by
    unfold replyOf at hreply
    split at hreply
    · next reply' hthread =>
        rw [Option.some.inj hreply] at hthread
        exact hthread
    · cases hreply
  exact ⟨reply, (flow_answers_renamed .plain (madeAndThen askedElsewhere) noFlows (madeFirst 5) rfl
    askedElsewhere_fresh false reply (fun p h => by cases h) hreturned).1⟩

/-- Which request asks Kratos about a flow, and about which. -/
def askedAbout (ev : FlowEvent Bool) : Option (Bool × String) :=
  match ev.op with
  | .kratos call => call.flowId.map fun oryFlowId => (ev.choice.1, oryFlowId)
  | _ => none

theorem op_of_askedAbout {ev : FlowEvent Bool} {k : Bool} {oryFlowId : String}
    (h : askedAbout ev = some (k, oryFlowId)) :
    ev.choice.1 = k ∧ ∃ call, ev.op = .kratos call ∧ call.flowId = some oryFlowId := by
  unfold askedAbout at h
  split at h
  · next call hop =>
      obtain ⟨ory, hflow, hpair⟩ := Option.map_eq_some_iff.mp h
      obtain ⟨hk, rfl⟩ := Prod.mk.inj hpair
      exact ⟨hk, call, hop, hflow⟩
  · cases h

/-- The second asks Kratos about the flow of the first, by whose name it knows it. -/
theorem flow_asked_by_name : (∃ ev ∈ (flowRequests .plain (madeAndThen askedElsewhere) noFlows).events
      (flowsFor Bool IdentitySelfService.plain.env) (madeFirst 5),
      ev.choice.1 = true ∧ ∃ call, ev.op = .kratos call ∧ call.flowId = some "raw") ∧
    ∀ K, Named IdentitySelfService.plain.env ((flowRequests .plain (madeAndThen askedElsewhere) noFlows).events
      (flowsFor Bool IdentitySelfService.plain.env) (madeFirst 5)) K "01" → K = flowKeyOf K.tenantId "raw" := by
  have hasked : ((flowRequests .plain (madeAndThen askedElsewhere) noFlows).events
      (flowsFor Bool IdentitySelfService.plain.env) (madeFirst 5)).map askedAbout =
        [none, none, none, none, none, some (true, "raw"), none, none] := by
    decide +kernel
  have hmem : some (true, "raw") ∈ ((flowRequests .plain (madeAndThen askedElsewhere) noFlows).events
      (flowsFor Bool IdentitySelfService.plain.env) (madeFirst 5)).map askedAbout := by
    rw [hasked]
    decide
  obtain ⟨ev, hev, hasked⟩ := List.mem_map.mp hmem
  obtain ⟨hk, call, hop, hflow⟩ := op_of_askedAbout hasked
  obtain ⟨pre, post, hsplit⟩ := List.append_of_mem hev
  obtain ⟨t, p, hpresented, -, hnamed⟩ := kratos_asked_by_name .plain (madeAndThen askedElsewhere) noFlows
    (madeFirst 5) rfl askedElsewhere_fresh pre ev post call "raw" hsplit
    (by rw [hk]; exact fun p h => (by cases h)) hop hflow
  rw [hk] at hpresented
  obtain ⟨-, rfl⟩ := Prod.mk.inj (Option.some.inj hpresented)
  exact ⟨⟨ev, hev, hk, call, hop, hflow⟩, hnamed⟩

/-- Which request has a submission refused. -/
def refusedTo (ev : FlowEvent Bool) : Option (Bool × OryClientError) :=
  match ev.answered (flowsFor Bool IdentitySelfService.plain.env) with
  | ⟨.kratos (.submitFlow _ _ _ _), .error err⟩ => some (ev.choice.1, err)
  | _ => none

theorem answered_of_refusedTo {ev : FlowEvent Bool} {k : Bool} {err : OryClientError}
    (h : refusedTo ev = some (k, err)) : ev.choice.1 = k ∧ ∃ kind flowId cookie sent,
      ev.answered (flowsFor Bool IdentitySelfService.plain.env) =
        FlowOp.reply (.kratos (.submitFlow kind flowId cookie sent)) (.error err) := by
  unfold refusedTo at h
  split at h
  · next kind flowId cookie sent err' hanswered =>
      obtain ⟨hk, rfl⟩ := Prod.mk.inj (Option.some.inj h)
      exact ⟨hk, kind, flowId, cookie, sent, hanswered⟩
  · cases h

/-- What the program ended with. -/
def endOf : Prog FlowSig (Option (Except ServiceError FlowReply)) →
    Option (Option (Except ServiceError FlowReply))
  | .pure r => some r
  | _ => none

/-- The call takes no name away. -/
def keepsNames (ev : FlowEvent Bool) : Bool :=
  match ev.op with
  | .transient (.delete _ _) => false
  | _ => true

end SsoGateway
