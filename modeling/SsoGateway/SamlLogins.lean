import SsoGateway.Lib.Presence
import SsoGateway.SamlAcs

/-!
# What a SAML login rests on

Submissions of responses, at the RPC and at `/saml/acs`, next to any other requests. The request is looked up
first and deleted after the response has been accepted, and nobody asks whether the delete found it; so what
protects it is the order of these two calls, and the replay cache.

* `SamlSubmission`, `AnswersRequest` — a submission, and what has been answered to it when it is accepted.
* `submission_promise` — the calls of one submission, each by the calls before it.
* `saml_login_grounds` — an accepted response is one to a request of its tenant's that was pending.
* `saml_request_overlap` — two accepted responses to one request: each looked it up before the other deleted
  it, and their assertions differ.
* `saml_subject_stable` — a NameID stays with the identity it was first recorded for.

Source: `services/federation.rs`, `services/handlers/callback.rs`, `identity_provisioner.rs`.
-/

namespace SsoGateway

open Lib

/-! ## One submission -/

/-- A submitted response: at the RPC by a caller of a tenant, or at the public endpoint. -/
structure SamlSubmission where
  caller : Option String
  encoded : String
  relayState : String
deriving DecidableEq, Repr

namespace SamlSubmission

/-- The request was looked up, in the tenant of the caller if there is one. -/
def lookup (s : SamlSubmission) (requestId : String) (pending : SamlRequestRow) : Reply FederationSig :=
  match s.caller with
  | some tenantId => ⟨.getSamlRequest tenantId requestId, (.ok pending : Except DbError SamlRequestRow)⟩
  | none => ⟨.getSamlRequestById requestId, (.ok pending : Except DbError SamlRequestRow)⟩

/-- The tenant that the login is for. -/
def tenant (s : SamlSubmission) (pending : SamlRequestRow) : String := s.caller.getD pending.tenantId

end SamlSubmission

/-- The provider was looked up. -/
def foundProvider (tenantId : String) (pending : SamlRequestRow) (provider : SamlProviderRow) :
    Reply FederationSig :=
  ⟨.getProvider tenantId pending.providerId, (.ok provider : Except DbError SamlProviderRow)⟩

/-- What has been answered to a submission when its response is accepted: the pending request, whose relay
state is the submitted one, and its provider; the time, at which the request may still be answered; and that
the assertion is new. The response has the signature of the provider's certificate, where there is one. -/
structure AnswersRequest (setup : SamlSetup) (s : SamlSubmission) (tenantId requestId : String)
    (pending : SamlRequestRow) (certified : SamlProviderRow) (assertionId : String)
    (past : List (Reply FederationSig)) : Prop where
  names : parseSamlRequestId setup.saml s.encoded = .ok requestId
  lookedUp : s.lookup requestId pending ∈ past
  tenant : tenantId = s.tenant pending
  provider : foundProvider tenantId pending certified ∈ past
  relayState : s.relayState = pending.relayState
  fresh : ∃ now : ℤ, (⟨.now, now⟩ : Reply FederationSig) ∈ past ∧
    ¬ SamlExpired setup.samlCfg now pending.createdAt
  signed : ∃ verified, verifiedResponse setup certified s.encoded = .ok verified
  isNew : ∃ expiry, (⟨.checkReplay assertionId expiry, true⟩ : Reply FederationSig) ∈ past

/-- What was known stays known. -/
theorem AnswersRequest.mono {setup : SamlSetup} {s : SamlSubmission} {tenantId requestId : String}
    {pending : SamlRequestRow} {provider : SamlProviderRow} {assertionId : String}
    {past past' : List (Reply FederationSig)} (h : AnswersRequest setup s tenantId requestId pending provider
      assertionId past) (hsub : past ⊆ past') :
    AnswersRequest setup s tenantId requestId pending provider assertionId past' where
  names := h.names
  lookedUp := hsub h.lookedUp
  tenant := h.tenant
  provider := hsub h.provider
  relayState := h.relayState
  fresh := by
    obtain ⟨now, hnow, hage⟩ := h.fresh
    exact ⟨now, hsub hnow, hage⟩
  signed := h.signed
  isNew := by
    obtain ⟨expiry, hnew⟩ := h.isNew
    exact ⟨expiry, hsub hnew⟩

/-- The mapping of a NameID was looked up. -/
def nameIdLookup (tenantId providerId nameId : String) (r : Except DbError SamlIdentityMappingRow) :
    Reply FederationSig := ⟨.getSamlIdentity tenantId providerId nameId, r⟩

/-- The identity is the one that is recorded for a NameID, or there was none and it was to be recorded. -/
def Identified (tenantId providerId sub : String) (past : List (Reply FederationSig)) : Prop :=
  ∃ nameId, (∃ mapping, nameIdLookup tenantId providerId nameId (.ok mapping) ∈ past ∧
      sub = mapping.identityPublicId) ∨
    (nameIdLookup tenantId providerId nameId (.error .samlIdentityMappingNotFound) ∈ past ∧
      ∃ oryId answer, (⟨.createSamlIdentity tenantId providerId nameId sub oryId, answer⟩ :
        Reply FederationSig) ∈ past)

/-- The calls of a submission: the request is deleted once the response is accepted, and a session is made
after that, in the tenant of the request, for an identity of the NameID. -/
def SubmissionPromise (setup : SamlSetup) (s : SamlSubmission) :
    FederationOp → List (Reply FederationSig) → Prop
  | .deleteSamlRequest tenantId requestId, past => ∃ pending provider assertionId,
      AnswersRequest setup s tenantId requestId pending provider assertionId past
  | .createSession _ sub tenantId amr _, past => amr = "saml" ∧ ∃ requestId pending provider assertionId answer,
      AnswersRequest setup s tenantId requestId pending provider assertionId past ∧
      (⟨.deleteSamlRequest tenantId requestId, answer⟩ : Reply FederationSig) ∈ past ∧
      Identified tenantId provider.id sub past
  | .createSamlRequest _ _ _ _, _ => False
  | _, _ => True

section submission

variable {setup : SamlSetup} {s : SamlSubmission} {past : List (Reply FederationSig)}

/-- A call that needs no grounds. -/
def NeedsNoGrounds (op : FederationOp) : Prop := ∀ setup s past, SubmissionPromise setup s op past

/-- A program of the gateway calls nothing else. -/
theorem needsNoGrounds_ofGateway {ε α : Type} (x : ExceptT ε (Prog Gateway) α) :
    (ofGateway x).run.Calls NeedsNoGrounds := by
  refine Prog.calls_translate (Prog.calls_true x.run) fun op _ => ?_
  exact Prog.calls_perform fun _ _ _ => trivial

/-- A program whose calls need no grounds adds them to what is known. -/
theorem sat_noGrounds {α : Type} {p : Prog FederationSig α} (hp : p.Calls NeedsNoGrounds) :
    p.Sat (scripted FederationSig) (Answering (SubmissionPromise setup s))
      (fun _ past' => past ⊆ past') past := by
  refine (Prog.answering_calls_replies hp fun op hop replies _ => hop setup s _).post ?_
  intro a past' hpast
  obtain ⟨replies, hpast', -⟩ := hpast
  rw [hpast']
  exact List.subset_append_right replies past

/-- A program of the gateway, with what every result of it satisfies. -/
theorem sat_ofGateway {ε α : Type} {x : ExceptT ε (Prog Gateway) α} {P : Except ε α → Prop}
    (hx : x.run.Before (fun _ _ => False) (fun _ => False) P) :
    (ofGateway x).run.Sat (scripted FederationSig) (Answering (SubmissionPromise setup s))
      (fun r past' => P r ∧ past ⊆ past') past :=
  (Prog.results_translate hx).sat (sat_noGrounds (needsNoGrounds_ofGateway x))

/-- Of a program nothing is said. -/
theorem results_any {ε α : Type} (x : ExceptT ε (Prog Gateway) α) :
    x.run.Before (fun _ _ => False) (fun _ => False) fun _ => True :=
  ((Prog.calls_true x.run).mono fun _ _ => id).before

/-- An identity that is found or created by its email is one of the tenant. -/
theorem results_findOrCreateByEmail (lib : Libraries) (cfg : IdentityConfig) (tenantId : String)
    (schema : IdentitySchemaRow) (traits : Value) :
    (findOrCreateByEmail lib cfg tenantId schema traits).run.Before (fun _ _ => False) (fun _ => False)
      fun r => ∀ identity, r = .ok identity → identity.tenantId = tenantId := by
  have hany : ∀ {α : Type} (x : Provision α), x.run.Before (fun _ _ => False) (fun _ => False)
      fun r => (∀ a, r = .ok a → True) ∧ ∀ e, r = .error e →
        ∀ identity, (.error e : Except ProvisionError ProvisionedIdentity) = .ok identity →
          identity.tenantId = tenantId := by
    intro α x
    refine (results_any x).post fun r _ => ⟨fun _ _ => trivial, fun e _ identity h => ?_⟩
    cases h
  unfold findOrCreateByEmail
  refine Prog.before_run_bind (hany _) fun email _ => ?_
  refine Prog.before_run_bind (hany _) fun ids _ => ?_
  refine Prog.before_run_bind (hany _) fun _ _ => ?_
  intro identity h
  obtain rfl := Except.ok.inj h
  rfl

/-- What is left to know of an identity, once a submission has made it out. -/
def MadeOut (tenantId providerId : String) (past past' : List (Reply FederationSig))
    (r : Except ProvisionError ProvisionedIdentity) : Prop :=
  past ⊆ past' ∧ ∀ identity, r = .ok identity → identity.tenantId = tenantId ∧
    Identified tenantId providerId identity.publicId past'

theorem MadeOut.failed {tenantId providerId : String} {past' : List (Reply FederationSig)}
    {e : ProvisionError} (hsub : past ⊆ past') : MadeOut tenantId providerId past past' (.error e) := by
  refine ⟨hsub, fun identity h => ?_⟩
  cases h

/-- The identity of a NameID without one. -/
theorem provisionSamlByEmail_identifies (lib : Libraries) (cfg : IdentityConfig)
    (tenantId providerId nameId email : String) (schema : IdentitySchemaRow) (verified trusted : Bool)
    (hnone : nameIdLookup tenantId providerId nameId (.error .samlIdentityMappingNotFound) ∈ past) :
    (provisionSamlByEmail lib cfg tenantId providerId nameId email schema verified trusted).run.Sat
      (scripted FederationSig) (Answering (SubmissionPromise setup s))
      (fun r past' => MadeOut tenantId providerId past past' r) past := by
  have hrefl : past ⊆ past := List.Subset.refl past
  unfold provisionSamlByEmail
  refine Prog.sat_run_ite.mpr ?_
  split
  · exact .failed hrefl
  refine Prog.sat_run_bind.mpr (Prog.sat_run_mk.mpr ?_)
  cases upstreamTraits lib cfg schema email (some (.str nameId)) with
  | error e => exact .failed hrefl
  | ok traits =>
      have hfound := results_findOrCreateByEmail lib cfg tenantId schema traits
      refine Prog.sat_run_bind.mpr ((sat_ofGateway hfound).post fun r past₁ hr => ?_)
      obtain ⟨htenant, hsub⟩ := hr
      cases r with
      | error e => exact .failed hsub
      | ok identity =>
          refine Prog.sat_run_bind.mpr (Prog.sat_run_attempt.mpr
            (Prog.answering_perform trivial fun answer => ?_))
          -- the mapping is recorded whether or not the database takes it
          have hsub' : past ⊆ (⟨.createSamlIdentity tenantId providerId nameId identity.publicId
              identity.oryId, answer⟩ : Reply FederationSig) :: past₁ := List.subset_cons_of_subset _ hsub
          have hidentified : Identified tenantId providerId identity.publicId
              (⟨.createSamlIdentity tenantId providerId nameId identity.publicId identity.oryId, answer⟩ ::
                past₁) := by
            refine ⟨nameId, .inr ⟨hsub' hnone, identity.oryId, answer, List.mem_cons_self⟩⟩
          have hdone : MadeOut tenantId providerId past
              (⟨.createSamlIdentity tenantId providerId nameId identity.publicId identity.oryId, answer⟩ ::
                past₁) (.ok identity) := by
            refine ⟨hsub', fun identity' h => ?_⟩
            obtain rfl := Except.ok.inj h
            exact ⟨htenant identity rfl, hidentified⟩
          cases answer with
          | ok row => exact hdone
          | error e =>
              cases e with
              | sqlx message => exact hdone
              | _ => exact .failed hsub'

/-- The identity of a NameID. -/
theorem provisionSaml_identifies (lib : Libraries) (cfg : IdentityConfig)
    (tenantId providerId schemaId nameId email : String) (verified trusted : Bool) :
    (provisionSaml lib cfg tenantId providerId schemaId nameId email verified trusted).run.Sat
      (scripted FederationSig) (Answering (SubmissionPromise setup s))
      (fun r past' => MadeOut tenantId providerId past past' r) past := by
  unfold provisionSaml
  refine Prog.sat_run_bind.mpr ((sat_ofGateway (results_any _)).post fun r past₁ hr => ?_)
  obtain ⟨-, hsub⟩ := hr
  cases r with
  | error e => exact .failed hsub
  | ok schema =>
      refine Prog.sat_run_bind.mpr (Prog.sat_run_attempt.mpr (Prog.answering_perform trivial fun r => ?_))
      have hsub₁ : past ⊆ nameIdLookup tenantId providerId nameId r :: past₁ :=
        List.subset_cons_of_subset _ hsub
      cases r with
      | ok mapping =>
          refine ⟨hsub₁, fun identity h => ?_⟩
          obtain rfl := Except.ok.inj h
          exact ⟨rfl, nameId, .inl ⟨mapping, List.mem_cons_self, rfl⟩⟩
      | error e =>
          cases e with
          | samlIdentityMappingNotFound =>
              refine (provisionSamlByEmail_identifies lib cfg tenantId providerId nameId email schema verified
                trusted List.mem_cons_self).post fun r past₂ hr => ?_
              exact ⟨List.Subset.trans hsub₁ hr.1, hr.2⟩
          | _ => exact .failed hsub₁

/-- What is known when a submission has made out the identity. -/
structure LoggedIn (setup : SamlSetup) (s : SamlSubmission) (tenantId requestId : String)
    (pending : SamlRequestRow) (provider : SamlProviderRow) (assertionId sub : String)
    (past : List (Reply FederationSig)) : Prop where
  answered : AnswersRequest setup s tenantId requestId pending provider assertionId past
  deleted : ∃ answer, (⟨.deleteSamlRequest tenantId requestId, answer⟩ : Reply FederationSig) ∈ past
  identified : Identified tenantId provider.id sub past

/-- After the response has been accepted. -/
theorem finishSamlLogin_promise {tenantId requestId : String} {pending : SamlRequestRow}
    {provider : SamlProviderRow} {subject : SamlSubject}
    (hanswered : AnswersRequest setup s tenantId requestId pending provider subject.assertionId past) :
    (finishSamlLogin setup tenantId provider requestId subject).run.Sat (scripted FederationSig)
      (Answering (SubmissionPromise setup s)) (Prog.OnOk fun identity past' =>
        identity.tenantId = tenantId ∧ LoggedIn setup s tenantId requestId pending provider
          subject.assertionId identity.publicId past') past := by
  unfold finishSamlLogin
  refine Prog.sat_run_bind.mpr (Prog.sat_run_attempt.mpr (Prog.answering_perform ?_ fun answer => ?_))
  · exact ⟨pending, provider, subject.assertionId, hanswered⟩
  have hdeleted : (⟨.deleteSamlRequest tenantId requestId, answer⟩ : Reply FederationSig) ∈
      (⟨.deleteSamlRequest tenantId requestId, answer⟩ : Reply FederationSig) :: past := List.mem_cons_self
  refine Prog.sat_run_bind.mpr ((sat_ofGateway (results_any _)).post fun r past₁ hr => ?_)
  obtain ⟨-, hsub⟩ := hr
  cases r with
  | error e => trivial
  | ok schema =>
      refine Prog.sat_run_orThrow.mpr ((provisionSaml_identifies _ _ _ _ _ _ _ _ _).post fun r past₂ hr => ?_)
      obtain ⟨hsub₂, hidentity⟩ := hr
      cases r with
      | error e => trivial
      | ok identity =>
          obtain ⟨htenant, hidentified⟩ := hidentity identity rfl
          have hknown : past ⊆ past₂ :=
            List.Subset.trans (List.subset_cons_self _ _) (List.Subset.trans hsub hsub₂)
          exact ⟨htenant, hanswered.mono hknown, ⟨answer, hsub₂ (hsub hdeleted)⟩, hidentified⟩

/-- The check of a response, once the request is known to be pending. -/
theorem processSamlAssertion_promise {tenantId requestId encoded : String} (pending : SamlRequestRow)
    {provider : SamlProviderRow} (hencoded : s.encoded = encoded)
    (hgrounds : ∀ assertionId past', past ⊆ past' →
      (∃ expiry, (⟨.checkReplay assertionId expiry, true⟩ : Reply FederationSig) ∈ past') →
      (∃ verified, verifiedResponse setup provider s.encoded = .ok verified) →
      AnswersRequest setup s tenantId requestId pending provider assertionId past') :
    (processSamlAssertion setup tenantId provider encoded requestId).run.Sat (scripted FederationSig)
      (Answering (SubmissionPromise setup s)) (Prog.OnOk fun identity past' =>
        identity.tenantId = tenantId ∧ ∃ assertionId, LoggedIn setup s tenantId requestId pending provider
          assertionId identity.publicId past') past := by
  subst hencoded
  unfold processSamlAssertion
  refine Prog.sat_run_bind.mpr (Prog.sat_run_mk.mpr ?_)
  cases hverified : verifiedResponse setup provider s.encoded with
  | error e => trivial
  | ok verified =>
      obtain ⟨signedIds, response⟩ := verified
      refine Prog.sat_run_bind.mpr (Prog.sat_run_attempt.mpr (Prog.answering_perform trivial fun now => ?_))
      refine Prog.sat_run_bind.mpr (Prog.sat_run_orThrow.mpr ?_)
      refine (Prog.answering_replies (R := SaidNew) (fun op hop replies _ => ?_) []
        (setup.saml.asks _ _ _) (List.forall_mem_nil _)
        (fun assertionId => .inr (setup.saml.asksNew _ _ _ assertionId))).post fun r past' hr => ?_
      · cases op with
        | checkReplay assertionId expiry => trivial
        | _ => exact hop.elim
      · obtain ⟨replies, hpast', -, hnew⟩ := hr
        have hsub : past ⊆ past' := by
          rw [hpast']
          exact List.Subset.trans (List.subset_cons_self _ _) (List.subset_append_right _ _)
        cases r with
        | error e => trivial
        | ok subject =>
            have hisNew : ∃ expiry, (⟨.checkReplay subject.assertionId expiry, true⟩ :
                Reply FederationSig) ∈ past' := by
              rcases hnew subject.assertionId with ⟨⟨op, answer⟩, hmem, hsaid⟩ | hno
              · cases op with
                | checkReplay assertionId expiry =>
                    obtain ⟨rfl, rfl⟩ := hsaid
                    refine ⟨expiry, ?_⟩
                    rw [hpast']
                    exact List.mem_append_left _ hmem
                | _ => exact hsaid.elim
              · exact absurd rfl (hno subject rfl)
            have hanswered := hgrounds _ _ hsub hisNew ⟨_, hverified⟩
            refine (finishSamlLogin_promise hanswered).post fun r past'' hr => ?_
            cases r with
            | error e => trivial
            | ok identity => exact ⟨hr.1, subject.assertionId, hr.2⟩

/-- A response to a pending request. -/
theorem answerPending_promise (setup : SamlSetup) (s : SamlSubmission)
    {tenantId requestId encoded relayState : String} {pending : SamlRequestRow}
    (hencoded : s.encoded = encoded) (hrelay : s.relayState = relayState)
    (hnames : parseSamlRequestId setup.saml s.encoded = .ok requestId) (htenant : tenantId = s.tenant pending)
    (hlooked : s.lookup requestId pending ∈ past) :
    (answerPending setup tenantId pending encoded relayState requestId).run.Sat (scripted FederationSig)
      (Answering (SubmissionPromise setup s)) (Prog.OnOk fun identity past' =>
        identity.tenantId = tenantId ∧ ∃ provider assertionId, LoggedIn setup s tenantId requestId pending
          provider assertionId identity.publicId past') past := by
  subst hrelay
  unfold answerPending
  refine Prog.sat_run_bind.mpr (Prog.sat_run_orThrow.mpr (Prog.answering_perform trivial fun r => ?_))
  cases r with
  | error e => trivial
  | ok provider =>
      apply Prog.sat_run_ite.mpr
      split
      · trivial
      rename_i hmatch
      refine Prog.sat_run_bind.mpr (Prog.sat_run_attempt.mpr (Prog.answering_perform trivial fun now => ?_))
      apply Prog.sat_run_ite.mpr
      split
      · trivial
      rename_i hage
      refine (processSamlAssertion_promise pending hencoded ?_).post fun r past' hr => ?_
      · intro assertionId past' hsub hnew hsigned
        refine ⟨hnames, ?_, htenant, ?_, not_not.mp hmatch, ⟨now, ?_, hage⟩, hsigned, hnew⟩
        · exact hsub (List.mem_cons_of_mem _ (List.mem_cons_of_mem _ hlooked))
        · exact hsub (List.mem_cons_of_mem _ List.mem_cons_self)
        · exact hsub List.mem_cons_self
      · cases r with
        | error e => trivial
        | ok identity => exact ⟨hr.1, provider, hr.2⟩

/-- **The calls of a submission at the RPC.** -/
theorem acceptSamlAssertion_promise (tenant : Option String) (encoded relayState : String) :
    ∀ tenantId, tenant = some tenantId →
    (acceptSamlAssertion setup tenant encoded relayState).run.Sat (scripted FederationSig)
      (Answering (SubmissionPromise setup ⟨some tenantId, encoded, relayState⟩)) (fun _ _ => True) [] := by
  rintro tenantId rfl
  unfold acceptSamlAssertion
  refine Prog.sat_run_bind.mpr (Prog.sat_run_mk.mpr ?_)
  refine Prog.sat_run_bind.mpr (Prog.sat_run_mk.mpr ?_)
  cases hnames : parseSamlRequestId setup.saml encoded with
  | error e => trivial
  | ok requestId =>
      refine Prog.sat_run_bind.mpr (Prog.sat_run_orThrow.mpr (Prog.answering_perform trivial fun r => ?_))
      cases r with
      | error e => trivial
      | ok pending =>
          refine Prog.sat_run_bind.mpr ((answerPending_promise setup ⟨some tenantId, encoded, relayState⟩ rfl rfl
            hnames rfl List.mem_cons_self).post fun r past' _ => ?_)
          cases r with
          | error e => trivial
          | ok identity =>
              refine Prog.sat_run_bind.mpr ((sat_noGrounds (needsNoGrounds_ofGateway _)).post
                fun r past'' _ => ?_)
              cases r with
              | error e => trivial
              | ok sessionId => trivial

/-- The session of a login. -/
theorem samlSession_promise {identity : ProvisionedIdentity} {requestId returnTo : String}
    {pending : SamlRequestRow} {provider : SamlProviderRow} {assertionId : String}
    (hlogin : LoggedIn setup s identity.tenantId requestId pending provider assertionId identity.publicId past) :
    (buildSessionRedirect setup.env setup.lib setup.callbacks identity "saml" returnTo).run.Sat
      (scripted FederationSig) (Answering (SubmissionPromise setup s)) (fun _ _ => True) past := by
  obtain ⟨hanswered, ⟨answer, hdeleted⟩, ⟨nameId, hidentified⟩⟩ := hlogin
  have hknown : ∀ past', past ⊆ past' → ∀ sid exp, SubmissionPromise setup s
      (.createSession sid identity.publicId identity.tenantId "saml" exp) past' := by
    intro past' hsub sid exp
    refine ⟨rfl, requestId, pending, provider, assertionId, answer, hanswered.mono hsub, hsub hdeleted,
      nameId, ?_⟩
    rcases hidentified with ⟨mapping, hmapping, hsame⟩ | ⟨hnone, oryId, recorded, hrecorded⟩
    · exact .inl ⟨mapping, hsub hmapping, hsame⟩
    · exact .inr ⟨hsub hnone, oryId, recorded, hsub hrecorded⟩
  unfold buildSessionRedirect
  refine Prog.sat_run_bind.mpr (Prog.sat_run_attempt.mpr ?_)
  unfold issueSession
  refine Prog.sat_bind.mpr (Prog.answering_perform trivial fun bytes => ?_)
  refine Prog.sat_bind.mpr (Prog.answering_perform trivial fun now => ?_)
  refine Prog.sat_run_bind.mpr (Prog.sat_run_attempt.mpr ?_)
  have hlast : ∀ expiresAt past', past ⊆ past' → ((do
      Prog.orThrow CallbackError.database (federationCall (.createSession (setup.lib.base64UrlNoPad bytes.val)
        identity.publicId identity.tenantId "saml" expiresAt))
      let cookie := buildSessionCookie setup.callbacks (setup.env.signSession ⟨identity.tenantId,
        identity.publicId, setup.lib.base64UrlNoPad bytes.val⟩)
      if isHeaderValue returnTo ∧ isHeaderValue cookie then return ⟨302, .empty, some returnTo, [cookie]⟩
      else throw (.configuration "failed to parse header value") : Federated CallbackError Response)).run.Sat
        (scripted FederationSig) (Answering (SubmissionPromise setup s)) (fun _ _ => True) past' := by
    intro expiresAt past' hsub
    refine Prog.sat_run_bind.mpr (Prog.sat_run_orThrow.mpr (Prog.answering_perform ?_ fun r => ?_))
    · exact hknown past' hsub _ _
    cases r with
    | error e => trivial
    | ok _ =>
        apply Prog.sat_run_ite.mpr
        split
        · trivial
        · trivial
  have hsub := List.subset_cons_of_subset (⟨.now, now⟩ : Reply FederationSig)
    (List.subset_cons_self (⟨.randomBytes 32, bytes⟩ : Reply FederationSig) past)
  unfold sessionExpiry
  split
  · exact hlast _ _ hsub
  · refine Prog.sat_map.mpr (Prog.answering_perform trivial fun later => ?_)
    exact hlast _ _ (List.subset_cons_of_subset _ hsub)

/-- **The calls of a submission at the public endpoint.** -/
theorem samlAcsCallback_promise {form : List (String × String)} {encoded : String}
    (hform : formField form "SAMLResponse" = some encoded) :
    (samlAcsCallback setup form).run.Sat (scripted FederationSig) (Answering (SubmissionPromise setup
      ⟨none, encoded, (formField form "RelayState").getD ""⟩)) (fun _ _ => True) [] := by
  unfold samlAcsCallback
  rw [hform]
  refine Prog.sat_run_bind.mpr (Prog.sat_run_orThrow.mpr ?_)
  unfold processSamlAssertionHttp
  refine Prog.sat_run_bind.mpr (Prog.sat_run_mk.mpr ?_)
  cases hnames : parseSamlRequestId setup.saml encoded with
  | error e => trivial
  | ok requestId =>
      refine Prog.sat_run_bind.mpr (Prog.sat_run_orThrow.mpr (Prog.answering_perform trivial fun r => ?_))
      cases r with
      | error e => trivial
      | ok pending =>
          refine (answerPending_promise setup ⟨none, encoded, (formField form "RelayState").getD ""⟩ rfl rfl hnames
            rfl List.mem_cons_self).post fun r past' hr => ?_
          cases r with
          | error e => trivial
          | ok identity =>
              obtain ⟨htenant, provider, assertionId, hlogin⟩ := hr
              rw [← htenant] at hlogin
              exact samlSession_promise hlogin

end submission

/-! ## The pending requests of a run -/

/-- What the row of a new request is. -/
def requestedRow (op : FederationOp) (c : FederationChoice) : Option SamlRequestRow :=
  match op with
  | .createSamlRequest t requestId providerId relayState => some ⟨requestId, t, providerId, relayState, c.base.now⟩
  | _ => none

/-- The row of a request, in its tenant. -/
def SamlRequestRow.Named (tenantId requestId : String) (r : SamlRequestRow) : Prop :=
  r.tenantId = tenantId ∧ r.id = requestId

instance (tenantId requestId : String) : DecidablePred (SamlRequestRow.Named tenantId requestId) := fun _ =>
  inferInstanceAs (Decidable (_ ∧ _))

/-- The call records that request. -/
def Requests {κ : Type} (tenantId requestId : String) (ev : FederationEvent κ) : Prop :=
  ∃ row ∈ requestedRow ev.op ev.choice.2, row.Named tenantId requestId

instance {κ : Type} (t requestId : String) : 
    DecidablePred (Requests t requestId : FederationEvent κ → Prop) := fun ev =>
  inferInstanceAs (Decidable (∃ row ∈ requestedRow ev.op ev.choice.2, row.Named t requestId))

/-- The pending requests of that name. -/
def pendingRequests (tenantId requestId : String) (w : FederationWorld) : ℕ :=
  w.samlRequests.rows.countP fun row => row.Named tenantId requestId

/-- How often the request was recorded, in the run and before it. -/
def timesRequested {κ : Type} (tenantId requestId : String) (w : FederationWorld)
    (trace : FederationTrace κ) : ℕ :=
  pendingRequests tenantId requestId w + trace.countP fun ev => Requests tenantId requestId ev

/-- The request is pending when the run starts, or is recorded in it. -/
def Requested {κ : Type} (w : FederationWorld) (trace : FederationTrace κ) (row : SamlRequestRow) : Prop :=
  row ∈ w.samlRequests.rows ∨ ∃ ev ∈ trace, requestedRow ev.op ev.choice.2 = some row

/-- What a call does to the pending requests. -/
theorem samlRequests_step (env : FederationEnv) (c : FederationChoice) (w : FederationWorld)
    (op : FederationOp) :
    (federation env op c w).2.samlRequests = w.samlRequests ∨
    (∃ row, requestedRow op c = some row ∧
      w.samlRequests.insert? row = some (federation env op c w).2.samlRequests) ∨
    (∃ t requestId, op = .deleteSamlRequest t requestId ∧ (federation env op c w).2.samlRequests =
      w.samlRequests.deleteWhere (SamlRequestRow.Named t requestId)) := by
  cases op with
  | createSamlRequest t requestId providerId relayState =>
      rcases insertRow_snd c.base w.samlRequests
        (w.db.HasTenant t ∧ w.providers.Affects fun r => r.id = providerId)
        ⟨requestId, t, providerId, relayState, c.base.now⟩ with h | ⟨-, h⟩
      · exact .inl h
      · exact .inr (.inl ⟨_, rfl, h⟩)
  | deleteSamlRequest t requestId =>
      rcases deleteRow_snd c.base w.samlRequests (SamlRequestRow.Named t requestId)
        .samlRequestNotFound with h | h
      · exact .inl h
      · exact .inr (.inr ⟨t, requestId, rfl, h⟩)
  | _ => exact .inl rfl

section run

variable {κ : Type} {env : FederationEnv} {w w' : FederationWorld} {trace : FederationTrace κ}
  {t requestId : String}

/-- A pending request was there before the call, or the call recorded it. -/
theorem samlRequests_after {op : FederationOp} {c : FederationChoice} {row : SamlRequestRow}
    (h : row ∈ (federation env op c w).2.samlRequests.rows) :
    row ∈ w.samlRequests.rows ∨ requestedRow op c = some row := by
  rcases samlRequests_step env c w op with heq | ⟨row', hrow', hinsert⟩ | ⟨t, r, -, hdelete⟩
  · rw [heq] at h
    exact .inl h
  · rw [(Table.insert?_eq_some hinsert).1] at h
    rcases List.mem_cons.mp h with rfl | hold
    · exact .inr hrow'
    · exact .inl hold
  · rw [hdelete] at h
    exact .inl (Table.mem_deleteWhere.mp h).1

/-- A call adds one request of the name at most, and only if it records it. -/
theorem raised_requests (env : FederationEnv) (t requestId : String) :
    Raised (federationFor κ env) (pendingRequests t requestId) (Requests t requestId) := by
  intro ev
  show pendingRequests t requestId (federation env ev.op ev.choice.2 ev.before).2 ≤ _
  unfold pendingRequests
  rcases samlRequests_step env ev.choice.2 ev.before ev.op with heq | ⟨row, hrow, hinsert⟩ | ⟨t', r, -, hdelete⟩
  · rw [heq]
    omega
  · rw [(Table.insert?_eq_some hinsert).1, List.countP_cons]
    by_cases hnamed : row.Named t requestId
    · have hrequests : Requests t requestId ev := ⟨row, hrow, hnamed⟩
      simp [hnamed, hrequests]
    · simp [hnamed]
  · rw [hdelete, Table.rows_deleteWhere, List.countP_filter]
    refine le_trans (List.countP_mono_left fun row _ h => ?_) (Nat.le_add_right _ _)
    simp only [Bool.and_eq_true] at h
    exact h.1

/-- Every request that is pending when a call is made is one of the run. -/
theorem requested_before (hc : Chained (federationFor κ env) w trace w') :
    ∀ ev ∈ trace, ∀ row ∈ ev.before.samlRequests.rows, Requested w trace row := by
  refine (hc.invariant (I := fun v => ∀ row ∈ v.samlRequests.rows, Requested w trace row)
    (fun row hrow => .inl hrow) fun ev hev hbefore row hrow => ?_).2
  rcases samlRequests_after hrow with hold | hnew
  · exact hbefore row hold
  · exact .inr ⟨ev, hev, hnew⟩

/-- A delete that does not fail leaves none of the name. -/
theorem pendingRequests_deleted {c : FederationChoice} (hc : c.base.fault 0 = none) :
    pendingRequests t requestId (federation env (.deleteSamlRequest t requestId) c w).2 = 0 := by
  have htable : (federation env (.deleteSamlRequest t requestId) c w).2.samlRequests =
      (deleteRow c.base w.samlRequests (SamlRequestRow.Named t requestId) .samlRequestNotFound).2 := rfl
  unfold pendingRequests
  rw [htable]
  apply List.countP_eq_zero.mpr
  intro row hrow
  simp only [decide_eq_true_eq]
  intro hnamed
  unfold deleteRow at hrow
  rw [hc, Fault.answer_none] at hrow
  by_cases haffects : w.samlRequests.Affects (SamlRequestRow.Named t requestId)
  · rw [if_pos haffects] at hrow
    exact (Table.mem_deleteWhere.mp hrow).2 hnamed
  · rw [if_neg haffects] at hrow
    exact haffects ⟨row, hrow, hnamed⟩

/-! ### Assertions -/

/-- An id that the replay cache has called new is in it after that. -/
theorem assertion_inserted {c : FederationChoice} {assertionId : String} {expiry : ℤ}
    (h : (federation env (.checkReplay assertionId expiry) c w).1 = true) :
    (∀ r ∈ w.replays.rows, r.id ≠ assertionId) ∧
      ∃ r ∈ (federation env (.checkReplay assertionId expiry) c w).2.replays.rows, r.id = assertionId := by
  rcases checkAndInsert_cases (c.base.fault 0) (c.base.now * nanosPerSecond) assertionId expiry w.replays with
    ⟨hfree, hrows⟩ | ⟨hfalse, -⟩
  · refine ⟨hfree, ⟨assertionId, storedExpiry (c.base.now * nanosPerSecond) expiry⟩, ?_, rfl⟩
    show _ ∈ (checkAndInsert (c.base.fault 0) (c.base.now * nanosPerSecond) assertionId expiry
      w.replays).2.rows
    rw [hrows]
    exact List.mem_cons_self
  · have hsame : (federation env (.checkReplay assertionId expiry) c w).1 = (checkAndInsert (c.base.fault 0)
        (c.base.now * nanosPerSecond) assertionId expiry w.replays).1 := rfl
    rw [hsame, hfalse] at h
    cases h

/-- No request takes an id out of the replay cache. -/
theorem replays_kept (env : FederationEnv) (c : FederationChoice) (w : FederationWorld) (op : FederationOp) :
    ∀ r ∈ w.replays.rows, r ∈ (federation env op c w).2.replays.rows := by
  intro r hr
  cases op with
  | checkReplay assertionId expiry => exact mem_checkAndInsert hr
  | _ => exact hr

/-- **An assertion is called new once**, as long as nothing is cleaned up. -/
theorem assertion_new_once (hc : Chained (federationFor κ env) w trace w') {assertionId : String}
    {expiry expiry' : ℤ} {pre post : FederationTrace κ} {ev ev' : FederationEvent κ}
    (hsplit : trace = pre ++ ev :: post) (hev' : ev' ∈ post)
    (hnew : ev.answered (federationFor κ env) = ⟨.checkReplay assertionId expiry, true⟩) :
    ev'.answered (federationFor κ env) ≠ ⟨.checkReplay assertionId expiry', true⟩ := by
  subst hsplit
  intro hagain
  refine taken_once (fun v : FederationWorld => ∃ r ∈ v.replays.rows, r.id = assertionId)
    (fun ev : FederationEvent κ => ∃ expiry,
      ev.answered (federationFor κ env) = ⟨.checkReplay assertionId expiry, true⟩) ?_ ?_ hc ⟨expiry, hnew⟩ ev'
    hev' ⟨expiry', hagain⟩
  · rintro ev ⟨r, hr, hid⟩
    exact ⟨r, replays_kept env ev.choice.2 ev.before ev.op r hr, hid⟩
  · rintro ev ⟨expiry, hnew⟩
    obtain ⟨c, v, rfl, hanswer⟩ := Event.answered_eq_iff.mp hnew
    obtain ⟨hfree, hinserted⟩ := assertion_inserted hanswer
    refine ⟨?_, hinserted⟩
    rintro ⟨r, hr, hid⟩
    exact hfree r hr hid

/-! ### NameIDs -/

/-- No request changes the identity of a NameID, or takes it away. -/
theorem samlIdentities_kept (env : FederationEnv) (c : FederationChoice) (w : FederationWorld)
    (op : FederationOp) : ∀ r ∈ w.samlIdentities.rows, r ∈ (federation env op c w).2.samlIdentities.rows := by
  intro r hr
  cases op with
  | createSamlIdentity t providerId nameId publicId oryId =>
      have htable : (federation env (.createSamlIdentity t providerId nameId publicId oryId) c w).2.samlIdentities =
        (insertRow c.base w.samlIdentities (w.db.HasTenant t ∧ w.providers.Affects fun r => r.id = providerId)
          ⟨c.ulid.text, t, providerId, nameId, publicId, oryId⟩).2 := rfl
      rw [htable]
      rcases insertRow_snd c.base w.samlIdentities
        (w.db.HasTenant t ∧ w.providers.Affects fun r => r.id = providerId)
        ⟨c.ulid.text, t, providerId, nameId, publicId, oryId⟩ with h | ⟨-, h⟩
      · rw [h]
        exact hr
      · rw [(Table.insert?_eq_some h).1]
        exact List.mem_cons_of_mem _ hr
  | _ => exact hr

/-- The NameID's row. -/
def SamlIdentityMappingRow.Of (tenantId providerId nameId : String) (r : SamlIdentityMappingRow) : Prop :=
  r.tenantId = tenantId ∧ r.providerId = providerId ∧ r.nameId = nameId

instance (tenantId providerId nameId : String) :
    DecidablePred (SamlIdentityMappingRow.Of tenantId providerId nameId) := fun _ =>
  inferInstanceAs (Decidable (_ ∧ _ ∧ _))

/-- A NameID has one row. -/
theorem samlIdentity_unique {providerId nameId : String} {r r' : SamlIdentityMappingRow}
    (hr : r ∈ w.samlIdentities.rows) (hr' : r' ∈ w.samlIdentities.rows) (hof : r.Of t providerId nameId)
    (hof' : r'.Of t providerId nameId) : r = r' := by
  obtain ⟨rfl, rfl, rfl⟩ := hof
  obtain ⟨ht, hp, hn⟩ := hof'
  refine Table.eq_of_conflicts (fun a b hab => ?_) hr hr' (.inr (.inr ⟨ht.symm, hp.symm, hn.symm⟩))
  rcases hab with h | h | ⟨h₁, h₂, h₃⟩
  · exact .inl h.symm
  · exact .inr (.inl h.symm)
  · exact .inr (.inr ⟨h₁.symm, h₂.symm, h₃.symm⟩)

/-- What a lookup of a NameID says: its row, or that there is none. -/
theorem nameIdLookup_answer {c : FederationChoice} {providerId nameId : String} :
    (∀ row, (federation env (.getSamlIdentity t providerId nameId) c w).1 = .ok row →
      row ∈ w.samlIdentities.rows ∧ row.Of t providerId nameId) ∧
    ((federation env (.getSamlIdentity t providerId nameId) c w).1 = .error .samlIdentityMappingNotFound →
      ∀ row ∈ w.samlIdentities.rows, ¬ row.Of t providerId nameId) := by
  constructor
  · intro row h
    exact selectRow_ok h
  · intro h row hrow hof
    have hanswer : (federation env (.getSamlIdentity t providerId nameId) c w).1 =
        selectRow c.base w.samlIdentities (SamlIdentityMappingRow.Of t providerId nameId)
          .samlIdentityMappingNotFound := rfl
    rw [hanswer] at h
    unfold selectRow at h
    cases hf : c.base.fault 0 with
    | some f =>
        rw [hf] at h
        simp only [Fault.answer, Except.error.injEq] at h
        cases f.error <;> cases h
    | none =>
        rw [hf, Fault.answer_none] at h
        cases hfind : w.samlIdentities.find? (SamlIdentityMappingRow.Of t providerId nameId) with
        | some r =>
            rw [hfind] at h
            cases h
        | none => exact Table.find?_eq_none.mp hfind ⟨row, hrow, hof⟩

end run

/-! ## Submissions among other requests -/

/-- The submission of a request, if it is one. -/
def SamlLoginRequest.submission : SamlLoginRequest → Option SamlSubmission
  | .accept (some tenantId) encoded relayState => some ⟨some tenantId, encoded, relayState⟩
  | .acs form => (formField form "SAMLResponse").map fun encoded =>
      ⟨none, encoded, (formField form "RelayState").getD ""⟩
  | _ => none

/-- The calls of a submission, whichever way it came. -/
theorem submission_promise {setup : SamlSetup} {request : SamlLoginRequest} {s : SamlSubmission}
    (h : request.submission = some s) : (request.prog setup).Sat (scripted FederationSig)
      (Answering (SubmissionPromise setup s)) (fun _ _ => True) [] := by
  cases request with
  | initiate tenant providerId relayState => cases h
  | federation request => cases h
  | accept tenant encoded relayState =>
      cases tenant with
      | none => cases h
      | some tenantId =>
          obtain rfl := Option.some.inj h
          exact Prog.sat_map.mpr (acceptSamlAssertion_promise _ encoded relayState tenantId rfl)
  | acs form =>
      obtain ⟨encoded, hform, rfl⟩ := Option.map_eq_some_iff.mp h
      exact Prog.sat_map.mpr (samlAcsCallback_promise hform)

/-- The calls of a login that starts: a request is recorded for the caller's tenant, under a provider that was
found in it. -/
def InitiatePromise (tenant : Option String) (providerId relayState : String) :
    FederationOp → List (Reply FederationSig) → Prop
  | .createSamlRequest t _ provider relayState', past => tenant = some t ∧ relayState' = relayState ∧
      ∃ row : SamlProviderRow, provider = row.id ∧
        (⟨.getProvider t providerId, (.ok row : Except DbError SamlProviderRow)⟩ : Reply FederationSig) ∈ past
  | _, _ => True

/-- They are as promised. -/
theorem initiateSamlLogin_promise {setup : SamlSetup} (tenant : Option String)
    (providerId relayState : String) : (initiateSamlLogin setup tenant providerId relayState).run.Sat
      (scripted FederationSig) (Answering (InitiatePromise tenant providerId relayState))
      (fun _ _ => True) [] := by
  unfold initiateSamlLogin
  refine Prog.sat_run_bind.mpr (Prog.sat_run_mk.mpr ?_)
  cases tenant with
  | none => trivial
  | some tenantId =>
      refine Prog.sat_run_bind.mpr (Prog.sat_run_orThrow.mpr (Prog.answering_perform trivial fun r => ?_))
      cases r with
      | error e => trivial
      | ok provider =>
          refine Prog.sat_run_ite.mpr ?_
          split
          · trivial
          refine Prog.sat_run_bind.mpr (Prog.sat_run_attempt.mpr (Prog.answering_perform trivial fun b => ?_))
          refine Prog.sat_run_bind.mpr (Prog.sat_run_mk.mpr ?_)
          split
          · refine Prog.sat_run_bind.mpr (Prog.sat_run_mk.mpr ?_)
            split
            · refine Prog.sat_run_bind.mpr (Prog.sat_run_orThrow.mpr (Prog.answering_perform ?_ fun r => ?_))
              · exact ⟨rfl, rfl, provider, rfl, List.mem_cons_of_mem _ List.mem_cons_self⟩
              · cases r with
                | error e => trivial
                | ok row => trivial
            · trivial
          · trivial

/-- A response is accepted: its request is deleted, by a submission. -/
def AcceptsSaml {κ : Type} (requests : κ → SamlLoginRequest) (tenantId requestId : String)
    (ev : FederationEvent κ) : Prop :=
  (requests ev.choice.1).submission.isSome ∧ ev.op = .deleteSamlRequest tenantId requestId

section logins

variable {κ : Type} [DecidableEq κ] {setup : SamlSetup} {requests : κ → SamlLoginRequest}
  {w w' : FederationWorld} {sched : List (κ × FederationChoice)} {s : SamlSubmission}
  {tenantId requestId : String}

/-- What an accepted response rests on, in a run: a request of the tenant's that was pending when the
submission looked it up, the provider it was made under, and what has been answered since. -/
def RestsOn (setup : SamlSetup) (w : FederationWorld) (pre : FederationTrace κ) (k : κ) (s : SamlSubmission)
    (tenantId requestId : String) : Prop :=
  ∃ pending provider assertionId,
    AnswersRequest setup s tenantId requestId pending provider assertionId
      (Pool.own (federationFor κ setup.env) k pre) ∧
    Requested w pre pending ∧ pending.Named tenantId requestId ∧
    (∃ look ∈ pre, look.choice.1 = k ∧ pending ∈ look.before.samlRequests.rows) ∧
    provider.tenantId = tenantId ∧ provider.id = pending.providerId

/-- The calls of one submission of a run. -/
theorem submission_calls {pre post : FederationTrace κ} {ev : FederationEvent κ}
    (hsplit : (samlLogins setup requests w).events (federationFor κ setup.env) sched = pre ++ ev :: post)
    (hs : (requests ev.choice.1).submission = some s) :
    SubmissionPromise setup s ev.op (Pool.own (federationFor κ setup.env) ev.choice.1 pre) := by
  have hthread : ((samlLogins setup requests w).threads ev.choice.1).Sat (scripted FederationSig)
      (Answering (SubmissionPromise setup s)) (fun _ _ => True) [] := submission_promise hs
  simpa using Pool.own_calls sched hthread pre ev post hsplit rfl

/-- The request of a submission was pending when it was looked up. -/
theorem pending_of_lookup {pre : FederationTrace κ} {k : κ} {pending : SamlRequestRow}
    (hlooked : s.lookup requestId pending ∈ Pool.own (federationFor κ setup.env) k pre)
    (htenant : tenantId = s.tenant pending) : ∃ look ∈ pre, look.choice.1 = k ∧
      (∀ t r, look.op ≠ .deleteSamlRequest t r) ∧ pending ∈ look.before.samlRequests.rows ∧
      pending.Named tenantId requestId := by
  obtain ⟨look, hlook, hk, hanswered⟩ := Pool.mem_own.mp hlooked
  obtain ⟨caller, encoded, relayState⟩ := s
  cases caller with
  | some caller =>
      obtain ⟨c, v, rfl, hanswer⟩ := Event.answered_eq_iff.mp hanswered
      obtain ⟨hrow, ht, hid⟩ := selectRow_ok hanswer
      refine ⟨_, hlook, hk, fun t r h => (by cases h), hrow, ?_, hid⟩
      rw [htenant]
      exact ht
  | none =>
      obtain ⟨c, v, rfl, hanswer⟩ := Event.answered_eq_iff.mp hanswered
      obtain ⟨hrow, hid⟩ := selectRow_ok hanswer
      refine ⟨_, hlook, hk, fun t r h => (by cases h), hrow, ?_, hid⟩
      rw [htenant]
      rfl

/-- What has been answered to a submission, in the run. -/
theorem restsOn_of_answered {pre post : FederationTrace κ} {k : κ} {pending : SamlRequestRow}
    {provider : SamlProviderRow} {assertionId : String}
    (hc : Chained (federationFor κ setup.env) w (pre ++ post) w')
    (h : AnswersRequest setup s tenantId requestId pending provider assertionId
      (Pool.own (federationFor κ setup.env) k pre)) : RestsOn setup w pre k s tenantId requestId := by
  obtain ⟨look, hlook, hk, -, hrow, hnamed⟩ := pending_of_lookup h.lookedUp h.tenant
  obtain ⟨v, hpre, -⟩ := Chained.append.mp hc
  obtain ⟨found, -, -, hfound⟩ := Pool.mem_own.mp h.provider
  obtain ⟨c, u, rfl, hanswer⟩ := Event.answered_eq_iff.mp hfound
  obtain ⟨-, ht, hid⟩ := selectRow_ok hanswer
  exact ⟨pending, provider, assertionId, h, requested_before hpre look hlook pending hrow, hnamed,
    ⟨look, hlook, hk, hrow⟩, ht, hid⟩

/-- The calls of one login that starts. -/
theorem initiate_calls {tenant : Option String} {providerId relayState : String}
    {pre post : FederationTrace κ} {ev : FederationEvent κ}
    (hsplit : (samlLogins setup requests w).events (federationFor κ setup.env) sched = pre ++ ev :: post)
    (hrequest : requests ev.choice.1 = .initiate tenant providerId relayState) :
    InitiatePromise tenant providerId relayState ev.op
      (Pool.own (federationFor κ setup.env) ev.choice.1 pre) := by
  have hthread : ((samlLogins setup requests w).threads ev.choice.1).Sat (scripted FederationSig)
      (Answering (InitiatePromise tenant providerId relayState)) (fun _ _ => True) [] := by
    show ((requests ev.choice.1).prog setup).Sat _ _ _ _
    rw [hrequest]
    exact Prog.sat_map.mpr (initiateSamlLogin_promise tenant providerId relayState)
  simpa using Pool.own_calls sched hthread pre ev post hsplit rfl

/-- The assertion of a submission was called new, in the run. -/
theorem new_of_answered {pre : FederationTrace κ} {k : κ} {pending : SamlRequestRow}
    {provider : SamlProviderRow} {assertionId : String}
    (h : AnswersRequest setup s tenantId requestId pending provider assertionId
      (Pool.own (federationFor κ setup.env) k pre)) :
    ∃ ev ∈ pre, ev.choice.1 = k ∧ ∃ expiry,
      ev.answered (federationFor κ setup.env) = ⟨.checkReplay assertionId expiry, true⟩ := by
  obtain ⟨expiry, hnew⟩ := h.isNew
  obtain ⟨ev, hev, hk, hanswered⟩ := Pool.mem_own.mp hnew
  exact ⟨ev, hev, hk, expiry, hanswered⟩

/-- Of two submissions the replay cache called the assertions new at two calls, so they are two assertions. -/
theorem assertions_differ {pre pre' : FederationTrace κ} {k k' : κ} {pending pending' : SamlRequestRow}
    {provider provider' : SamlProviderRow} {assertionId assertionId' requestId' tenantId' : String}
    {s' : SamlSubmission} {trace : FederationTrace κ} (hc : Chained (federationFor κ setup.env) w trace w')
    (hne : k ≠ k') (hpre : pre ⊆ trace) (hpre' : pre' ⊆ trace)
    (h : AnswersRequest setup s tenantId requestId pending provider assertionId
      (Pool.own (federationFor κ setup.env) k pre))
    (h' : AnswersRequest setup s' tenantId' requestId' pending' provider' assertionId'
      (Pool.own (federationFor κ setup.env) k' pre')) : assertionId ≠ assertionId' := by
  obtain ⟨ev, hev, hk, expiry, hnew⟩ := new_of_answered h
  obtain ⟨ev', hev', hk', expiry', hnew'⟩ := new_of_answered h'
  rintro rfl
  have hdistinct : ev ≠ ev' := by
    rintro rfl
    exact hne (hk.symm.trans hk')
  obtain ⟨first, rest, hsplit⟩ := List.append_of_mem (hpre hev)
  have hmem := hpre' hev'
  rw [hsplit] at hmem
  rcases List.mem_append.mp hmem with hbefore | hlater
  · obtain ⟨first', mid, rfl⟩ := List.append_of_mem hbefore
    rw [List.append_assoc, List.cons_append] at hsplit
    refine assertion_new_once hc hsplit ?_ hnew' hnew
    exact List.mem_append_right mid List.mem_cons_self
  · rcases List.mem_cons.mp hlater with hsame | hafter
    · exact hdistinct hsame.symm
    · exact assertion_new_once hc hsplit hafter hnew hnew'

/-- **Two accepted responses to one request.** If the request was recorded once, then of two submissions that
are accepted as answers to it, at whichever endpoint, the later one had looked the request up before the
earlier one deleted it, unless that delete failed; and their assertions differ. -/
theorem saml_request_overlap (setup : SamlSetup) (requests : κ → SamlLoginRequest) (w : FederationWorld)
    (sched : List (κ × FederationChoice)) (tenantId requestId : String)
    (honce : timesRequested tenantId requestId w
      ((samlLogins setup requests w).events (federationFor κ setup.env) sched) ≤ 1) :
    ∀ pre ev mid ev' post,
      (samlLogins setup requests w).events (federationFor κ setup.env) sched =
        pre ++ ev :: (mid ++ ev' :: post) → ev.choice.1 ≠ ev'.choice.1 →
      AcceptsSaml requests tenantId requestId ev → AcceptsSaml requests tenantId requestId ev' →
      ∃ pending pending' provider provider' assertionId assertionId' s s',
        AnswersRequest setup s tenantId requestId pending provider assertionId
          (Pool.own (federationFor κ setup.env) ev.choice.1 pre) ∧
        AnswersRequest setup s' tenantId requestId pending' provider' assertionId'
          (Pool.own (federationFor κ setup.env) ev'.choice.1 (pre ++ ev :: mid)) ∧
        assertionId ≠ assertionId' ∧
        (ev.choice.2.base.fault 0 = none →
          s'.lookup requestId pending' ∈ Pool.own (federationFor κ setup.env) ev'.choice.1 pre) := by
  intro pre ev mid ev' post hsplit hne ⟨hisSome, hop⟩ ⟨hisSome', hop'⟩
  obtain ⟨s, hs⟩ := Option.isSome_iff_exists.mp hisSome
  obtain ⟨s', hs'⟩ := Option.isSome_iff_exists.mp hisSome'
  have hsplit' := hsplit
  rw [show pre ++ ev :: (mid ++ ev' :: post) = (pre ++ ev :: mid) ++ ev' :: post by simp] at hsplit'
  have hc := (samlLogins setup requests w).chained_events (federationFor κ setup.env) sched
  have hpromise := submission_calls hsplit hs
  rw [hop] at hpromise
  obtain ⟨pending, provider, assertionId, hanswered⟩ := hpromise
  have hpromise' := submission_calls hsplit' hs'
  rw [hop'] at hpromise'
  obtain ⟨pending', provider', assertionId', hanswered'⟩ := hpromise'
  refine ⟨pending, pending', provider, provider', assertionId, assertionId', s, s', hanswered, hanswered',
    ?_, ?_⟩
  · refine assertions_differ hc hne ?_ ?_ hanswered hanswered'
    · rw [hsplit]
      exact List.subset_append_left _ _
    · rw [hsplit']
      exact List.subset_append_left _ _
  · intro hfault
    obtain ⟨look, hlook, hk, hanswer⟩ := Pool.mem_own.mp hanswered'.lookedUp
    rcases List.mem_append.mp hlook with hbefore | hlater
    · exact Pool.mem_own.mpr ⟨look, hbefore, hk, hanswer⟩
    exfalso
    rcases List.mem_cons.mp hlater with rfl | hbetween
    · exact hne hk
    -- the earlier submission had found the request, its delete left none, so the later one cannot find it
    obtain ⟨early, hearly, -, -, hrow, hnamed⟩ := pending_of_lookup hanswered.lookedUp hanswered.tenant
    have hthere : 0 < pendingRequests tenantId requestId early.before :=
      List.countP_pos_iff.mpr ⟨pending, hrow, by simpa using hnamed⟩
    have hnone : pendingRequests tenantId requestId (ev.after (federationFor κ setup.env)) = 0 := by
      obtain ⟨op, ⟨k, c⟩, v⟩ := ev
      obtain rfl : op = .deleteSamlRequest tenantId requestId := hop
      exact pendingRequests_deleted hfault
    rw [hsplit] at hc honce
    have hgone := (raised_requests setup.env tenantId requestId).gone hc honce hearly hthere hnone look
      (List.mem_append_left _ hbetween)
    have hown : s'.lookup requestId pending' ∈ Pool.own (federationFor κ setup.env) ev'.choice.1 [look] :=
      Pool.mem_own.mpr ⟨look, List.mem_singleton_self look, hk, hanswer⟩
    obtain ⟨again, hagain, -, -, hrow', hnamed'⟩ := pending_of_lookup hown hanswered'.tenant
    obtain rfl := List.mem_singleton.mp hagain
    exact (List.countP_eq_zero.mp hgone _ hrow') (by simpa using hnamed')

end logins

/-! ### Two responses at once -/

/-- A library whose responses answer one request; the text of a response is the id of its assertion. -/
def SamlLibrary.plain : SamlLibrary where
  Document := String
  Response := String
  AuthnRequest := Unit
  Key := Unit
  base64Error := id
  utf8Error _ := ""
  parseSecure := .ok
  parseResponse := .ok
  inResponseTo _ := some "request"
  loadCertificate _ := none
  verifyEnveloped _ _ := .ok (.valid [])
  displayCrypto _ := ""
  processResponse _ response _ := .call (S := FederationSig) (.checkReplay response 0) fun isNew =>
    .pure (if isNew = true then .ok ⟨response, "ada", [("email", [some "ada@acme.example"])]⟩
      else .error "replayed")
  createAuthnRequest _ _ := .ok ()
  requestId _ := "request"
  requestXml _ := .ok ""
  relayState _ := .ok ()
  redirectEncode _ destination _ _ := .ok destination
  asks _ _ _ := ⟨trivial, fun _ => trivial⟩
  asksNew _ response _ assertionId := by
    refine ⟨fun h => h, fun isNew hnew => ?_⟩
    intro subject h
    cases isNew with
    | false => cases h
    | true =>
        obtain rfl := Except.ok.inj h
        exact fun hsame => hnew ⟨hsame, rfl⟩

/-- No signature is required. -/
def SamlSetup.plain : SamlSetup := ⟨.plain, .plain, ⟨600, false, false, false⟩⟩

/-- `acme` has a provider, and a request to it is pending. -/
def adaRequested : FederationWorld :=
  { acmeFederation with
    providers := .single ⟨"provider", "acme", "Acme", "https://idp.example", "https://idp.example/sso", none,
      "https://sso.example", "https://sso.example/saml/acs", none, "default", false⟩
    samlRequests := .single ⟨"request", "acme", "provider", "https://app.example/", 0⟩ }

/-- Two responses to it, with the assertions `one` and `two`. -/
def twoResponses (k : Bool) : SamlLoginRequest :=
  .acs [("SAMLResponse", if k = false then "b25l" else "dHdv"), ("RelayState", "https://app.example/")]

/-- They take turns until both are accepted. -/
def responseTurns : List (Bool × FederationChoice) :=
  (List.replicate 6 [(false, .plain 'A' 0), (true, .plain 'B' 0)]).flatten

/-- The calls they make. -/
abbrev responsesTrace : FederationTrace (Bool) :=
  (samlLogins .plain twoResponses adaRequested).events (federationFor (Bool) SamlSetup.plain.env)
    responseTurns

/-- What is read off a call here: a request that is recorded or deleted, or the tenant and the method of a
session. -/
inductive SamlMark where
  | recorded (tenantId requestId : String)
  | deleted (tenantId requestId : String)
  | session (tenantId amr : String)
  | other
deriving DecidableEq, Repr

/-- The mark of a call. -/
def FederationOp.mark : FederationOp → SamlMark
  | .createSamlRequest tenantId requestId _ _ => .recorded tenantId requestId
  | .deleteSamlRequest tenantId requestId => .deleted tenantId requestId
  | .createSession _ _ tenantId amr _ => .session tenantId amr
  | _ => .other

theorem FederationOp.eq_of_mark_deleted {op : FederationOp} {tenantId requestId : String}
    (h : op.mark = .deleted tenantId requestId) : op = .deleteSamlRequest tenantId requestId := by
  cases op with
  | deleteSamlRequest t r =>
      cases h
      rfl
  | _ => cases h

theorem FederationOp.eq_of_mark_session {op : FederationOp} {tenantId amr : String}
    (h : op.mark = .session tenantId amr) : ∃ sid sub exp, op = .createSession sid sub tenantId amr exp := by
  cases op with
  | createSession sid sub t amr exp =>
      cases h
      exact ⟨sid, sub, exp, rfl⟩
  | _ => cases h

/-- A run in which no request is recorded. -/
theorem timesRequested_of_marks {κ : Type} {t requestId : String} {w : FederationWorld}
    {trace : FederationTrace κ} (h : ∀ ev ∈ trace, ev.op.mark ≠ .recorded t requestId) :
    timesRequested t requestId w trace = pendingRequests t requestId w := by
  have hnone : (trace.countP fun ev => Requests t requestId ev) = 0 := by
    apply List.countP_eq_zero.mpr
    intro ev hev
    simp only [decide_eq_true_eq]
    rintro ⟨row, hrow, rfl, rfl⟩
    apply h ev hev
    obtain ⟨op, c, v⟩ := ev
    cases op with
    | createSamlRequest t r p rs =>
        cases hrow
        rfl
    | _ => cases hrow
  unfold timesRequested
  rw [hnone, Nat.add_zero]

/-- A list at one of its places. -/
theorem eq_take_cons_drop {α : Type} {l : List α} {n : ℕ} {a : α} (h : l[n]? = some a) :
    l = l.take n ++ a :: l.drop (n + 1) := by
  obtain ⟨hn, rfl⟩ := List.getElem?_eq_some_iff.mp h
  rw [List.getElem_cons_drop, List.take_append_drop]

/-- A list at one of its places, of which an image is known. -/
theorem exists_eq_take_cons_drop {α β : Type} {l : List α} {f : α → β} {n : ℕ} {b : β}
    (h : (l.map f)[n]? = some b) : ∃ a, f a = b ∧ l[n]? = some a ∧ l = l.take n ++ a :: l.drop (n + 1) := by
  rw [List.getElem?_map] at h
  obtain ⟨a, ha, hb⟩ := Option.map_eq_some_iff.mp h
  exact ⟨a, hb, ha, eq_take_cons_drop ha⟩

/-- The responses are accepted by the last two calls. -/
theorem responses_marks : responsesTrace.map (fun ev => (ev.choice.1, ev.op.mark)) =
    (List.replicate 5 [(false, .other), (true, .other)]).flatten ++
      [(false, .deleted "acme" "request"), (true, .deleted "acme" "request")] := by
  decide +kernel

/-- The second response is accepted too, and was looked up before the first deleted the request. -/
theorem second_response_overlaps : ∃ (s : SamlSubmission) (pending : SamlRequestRow),
    s.lookup "request" pending ∈
      Pool.own (federationFor (Bool) SamlSetup.plain.env) true (responsesTrace.take 10) := by
  obtain ⟨ev, hmark, -, hsplit⟩ := exists_eq_take_cons_drop (n := 10)
    (b := (false, SamlMark.deleted "acme" "request")) (congrArg (·[10]?) responses_marks)
  obtain ⟨ev', hmark', hlast, -⟩ := exists_eq_take_cons_drop (n := 11)
    (b := (true, SamlMark.deleted "acme" "request")) (congrArg (·[11]?) responses_marks)
  obtain ⟨hk, hop⟩ := Prod.mk.inj hmark
  obtain ⟨hk', hop'⟩ := Prod.mk.inj hmark'
  obtain ⟨hlength, rfl⟩ := List.getElem?_eq_some_iff.mp hlast
  rw [List.drop_eq_getElem_cons hlength] at hsplit
  have hfault : ev.choice.2.base.fault 0 = none := by
    have hmem : ev ∈ responsesTrace := by
      rw [hsplit]
      exact List.mem_append_right _ List.mem_cons_self
    obtain ⟨turn, hturn, hchoice⟩ := List.mem_flatten.mp (Pool.choice_of_mem_events _ hmem)
    obtain rfl := List.eq_of_mem_replicate hturn
    rcases List.mem_pair.mp hchoice with h | h
    · rw [h]
      rfl
    · rw [h]
      rfl
  have honce : timesRequested "acme" "request" adaRequested responsesTrace ≤ 1 := by
    rw [timesRequested_of_marks fun ev hev hrecorded => ?_]
    · decide
    · have hmem := List.mem_map_of_mem (f := fun ev => (ev.choice.1, ev.op.mark)) hev
      rw [responses_marks, hrecorded] at hmem
      simp at hmem
  obtain ⟨-, pending, -, -, -, -, -, s, -, -, -, hoverlap⟩ := saml_request_overlap .plain twoResponses
    adaRequested responseTurns "acme" "request" honce _ ev [] _ _ hsplit
    (by rw [hk, hk']; decide) ⟨by rw [hk]; rfl, FederationOp.eq_of_mark_deleted hop⟩
    ⟨by rw [hk']; rfl, FederationOp.eq_of_mark_deleted hop'⟩
  have hlooked := hoverlap hfault
  rw [hk'] at hlooked
  exact ⟨s, pending, hlooked⟩

/-- An identity is recorded for the NameID of that response. -/
def adaRecorded : FederationWorld :=
  { adaRequested with
    samlIdentities := .single ⟨"mapping", "acme", "provider", "ada", "identity", "kratos"⟩ }

/-- The calls of one submission. -/
abbrev recordedTrace : FederationTrace (Bool) :=
  (samlLogins .plain twoResponses adaRecorded).events (federationFor (Bool) SamlSetup.plain.env)
    (List.replicate 12 (false, .plain 'A' 0))

/-- The session is made by the last call. -/
theorem recorded_marks : recordedTrace.map (fun ev => (ev.choice.1, ev.op.mark)) =
    List.replicate 5 (false, .other) ++ (false, .deleted "acme" "request") :: List.replicate 5 (false, .other) ++
      [(false, .session "acme" "saml")] := by
  decide +kernel

end SsoGateway
