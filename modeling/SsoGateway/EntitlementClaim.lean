import SsoGateway.ScopeCeiling

/-!
# The entitlement claim of an accepted consent

The gateway mints a claim for the application a user consents to and merges it into
`session.id_token` of the body it sends to Hydra. The merge keeps what the caller supplied, so the
claim is the gateway's own exactly when the caller left its place free.

* `idTokenEntitlements` — the claim a session carries.
* `SlotFree` — the caller's session leaves the claim's place free.
* `Authoritative` — every body of a run carries the minted claim.
* `acceptConsent_authoritative_iff` — which sessions keep every run authoritative.
* `acceptConsent_forged` — a session that does not.
-/

namespace SsoGateway

open Lib

/-! ## The claim's place in a session -/

/-- The value under `entitlements` in the ID token of a session. -/
def idTokenEntitlements (session : Option Value) : Option Value :=
  ((session.getD (.obj [])).get "id_token").bind fun idToken => idToken.get "entitlements"

/-- The session is absent or an object, its `id_token` is absent or an object, and there is no
`entitlements` in it. -/
def SlotFree (session : Option Value) : Prop :=
  ∃ fields, session.getD (.obj []) = .obj fields ∧
    ∃ claims, (fields.lookup "id_token").getD (.obj []) = .obj claims ∧
      claims.lookup "entitlements" = none

/-- One claim merged into a session. -/
def stampSession (claim : String) (value session : Value) : Value :=
  session.entryOr "id_token" (.obj []) fun idToken => idToken.entryOr claim value id

theorem get_session_mergeIdTokenClaims (claim : String) (value : Value)
    (fields : List (String × Value)) :
    (mergeIdTokenClaims [(claim, value)] (.obj fields)).get "session" =
      some (stampSession claim value ((fields.lookup "session").getD (.obj []))) :=
  Value.get_entryOr_self fields "session" _ _

theorem SlotFree.entitlements_eq_none {session : Option Value} (h : SlotFree session) :
    idTokenEntitlements session = none := by
  obtain ⟨fields, hsession, claims, htoken, hclaim⟩ := h
  unfold idTokenEntitlements
  rw [hsession, Value.get_obj]
  rcases hlookup : fields.lookup "id_token" with _ | idToken
  · rfl
  · rw [hlookup] at htoken
    simp only [Option.getD_some] at htoken
    simp only [Option.bind_some, htoken, Value.get_obj, hclaim]

/-- Another claim neither fills the place nor frees it. -/
theorem slotFree_stampSession {claim : String} (hne : claim ≠ "entitlements")
    (value session : Value) :
    (SlotFree (some (stampSession claim value session)) ↔ SlotFree (some session)) ∧
      idTokenEntitlements (some (stampSession claim value session)) =
        idTokenEntitlements (some session) := by
  cases session with
  | obj fields =>
      -- the session is an object: its token is replaced by the updated token
      have hget := Value.get_entryOr_self fields "id_token" (.obj []) fun idToken =>
        idToken.entryOr claim value id
      obtain ⟨fields', hstamp⟩ : ∃ fields', stampSession claim value (.obj fields) = .obj fields' :=
        ⟨_, rfl⟩
      have hlookup : fields'.lookup "id_token" =
          some (((fields.lookup "id_token").getD (.obj [])).entryOr claim value id) := by
        rw [← hget]
        exact congrArg (fun v => Value.get v "id_token") hstamp.symm
      have hsame : ∀ v : Value, (v.entryOr claim value id).get "entitlements" =
          v.get "entitlements" := fun v => Value.get_entryOr_of_ne (Ne.symm hne) v value id
      constructor
      · constructor
        · rintro ⟨fs, hfs, claims, hclaims, hnone⟩
          rw [Option.getD_some, hstamp] at hfs
          cases hfs
          rw [hlookup, Option.getD_some] at hclaims
          refine ⟨fields, rfl, ?_⟩
          rcases htoken : (fields.lookup "id_token").getD (.obj []) with _ | b | n | x | items | tok
          case obj =>
            refine ⟨tok, rfl, ?_⟩
            have := hsame (.obj tok)
            rw [htoken] at hclaims
            rw [hclaims, Value.get_obj, hnone] at this
            exact this.symm
          all_goals
            rw [htoken] at hclaims
            cases hclaims
        · rintro ⟨fs, hfs, claims, hclaims, hnone⟩
          cases hfs
          refine ⟨fields', by rw [Option.getD_some, hstamp], ?_⟩
          rw [hlookup, Option.getD_some, hclaims]
          refine ⟨_, rfl, ?_⟩
          have := hsame (.obj claims)
          rw [Value.get_obj, hnone] at this
          exact this
      · unfold idTokenEntitlements
        rw [Option.getD_some, Option.getD_some, hstamp, Value.get_obj, Value.get_obj, hlookup,
          Option.bind_some, hsame]
        rcases fields.lookup "id_token" with _ | idToken
        · rfl
        · rfl
  | _ => exact ⟨Iff.rfl, rfl⟩

/-- The claim itself takes a free place, and leaves a place that is taken. -/
theorem entitlements_stampSession (value session : Value) :
    (SlotFree (some session) → idTokenEntitlements (some (stampSession "entitlements" value session)) =
      some value) ∧
    (¬ SlotFree (some session) →
      idTokenEntitlements (some (stampSession "entitlements" value session)) =
        idTokenEntitlements (some session)) := by
  cases session with
  | obj fields =>
      have hget := Value.get_entryOr_self fields "id_token" (.obj []) fun idToken =>
        idToken.entryOr "entitlements" value id
      have hsent : idTokenEntitlements (some (stampSession "entitlements" value (.obj fields))) =
          (((fields.lookup "id_token").getD (.obj [])).entryOr "entitlements" value id).get
            "entitlements" := by
        unfold idTokenEntitlements stampSession
        rw [Option.getD_some, hget, Option.bind_some]
      constructor
      · rintro ⟨fs, hfs, claims, hclaims, hnone⟩
        cases hfs
        rw [hsent, hclaims, Value.get_entryOr_self, hnone]
        rfl
      · intro htaken
        rw [hsent]
        unfold idTokenEntitlements
        rw [Option.getD_some, Value.get_obj]
        rcases hlookup : fields.lookup "id_token" with _ | idToken
        · exact absurd ⟨fields, rfl, [], by rw [hlookup]; rfl, rfl⟩ htaken
        · rw [Option.getD_some, Option.bind_some]
          cases idToken with
          | obj claims =>
              rw [Value.get_entryOr_self, Value.get_obj]
              rcases hclaim : claims.lookup "entitlements" with _ | caller
              · exact absurd ⟨fields, rfl, claims, by rw [hlookup]; rfl, hclaim⟩ htaken
              · rfl
          | _ => rfl
  | _ =>
      constructor
      · rintro ⟨fs, hfs, -⟩
        cases hfs
      · intro _
        rfl

/-! ## The bodies of a run -/

theorem get_session_acceptConsentRequestToJson (req : AcceptConsentRequest) :
    (acceptConsentRequestToJson req).get "session" = req.session := by
  have hskip : ∀ rest : List (String × Value),
      ((if req.rememberFor ≠ 0 then [("remember_for", .number (toString req.rememberFor))] else []) ++
        rest : List (String × Value)).lookup "session" = rest.lookup "session" := by
    intro rest
    split
    · rfl
    · rfl
  unfold acceptConsentRequestToJson
  rw [Value.get_obj, List.append_assoc]
  refine (hskip _).trans ?_
  rcases req.session with _ | session
  · rfl
  · rfl

/-- The claims stamped before are other claims: they leave the place as the caller left it. -/
theorem Stamped.slot {req : AcceptConsentRequest} {base : Value}
    (h : Stamped (acceptConsentRequestToJson req) base) :
    (∃ fields, base = .obj fields) ∧ (SlotFree (base.get "session") ↔ SlotFree req.session) ∧
      idTokenEntitlements (base.get "session") = idTokenEntitlements req.session := by
  induction h with
  | base =>
      rw [get_session_acceptConsentRequestToJson]
      exact ⟨⟨_, rfl⟩, Iff.rfl, rfl⟩
  | @inject b claim value hclaim _ ih =>
      unfold injectIdTokenClaim
      split
      · exact ih
      · obtain ⟨⟨fields, rfl⟩, hslot, hsent⟩ := ih
        obtain ⟨hslot', hsent'⟩ := slotFree_stampSession hclaim (.str value)
          ((fields.lookup "session").getD (.obj []))
        rw [get_session_mergeIdTokenClaims]
        exact ⟨⟨_, rfl⟩, hslot'.trans hslot, hsent'.trans hsent⟩

/-- The claim lists relations on `app` that the tuples grant, and nothing else. -/
def GrantedClaim (tuples : List StoredTuple) (tenantId subject app : String) (claim : Value) :
    Prop :=
  claim = .null ∨ ∃ levels : List String,
    claim = .obj [("entitlements", .obj [(app, .arr (levels.map .str))])] ∧
      ∀ level ∈ levels, Holds tuples tenantId entitlementNamespace app level subject

/-- Every minted claim is granted by the tuples it was minted from. -/
theorem Minted.granted {env : Env} {calls : History} {t subject app : String}
    {tuples : List StoredTuple} {claim : Value} (h : Minted env calls t subject app tuples claim) :
    GrantedClaim tuples t subject app claim := by
  obtain ⟨c, w, -, rfl, rfl⟩ := h
  refine (entitlementHandler_of_sat env c w.tuples (.mintClaim t subject app)
    (A := fun _ => True) (Q := fun claim _ => GrantedClaim w.tuples t subject app claim)
    (fun _ => trivial) (EntitlementServiceImpl.sat_mintClaim ?_))
  intro isMember isAdmin hmember hadmin
  unfold EntitlementServiceImpl.claimOf
  by_cases hempty : ((if isMember then ["member"] else []) ++
      if isAdmin then ["admin"] else [] : List String) = []
  · exact .inl (if_pos hempty)
  · refine .inr ⟨_, if_neg hempty, fun level hlevel => ?_⟩
    rcases List.mem_append.mp hlevel with h | h
    · split at h
      · rename_i hm
        rw [List.mem_singleton.mp h]
        exact hmember hm
      · cases h
    · split at h
      · rename_i ha
        rw [List.mem_singleton.mp h]
        exact hadmin ha
      · cases h

/-- What a body carries: the minted claim in a free place, what the caller put there otherwise. -/
theorem entitlements_mergeClaim {req : AcceptConsentRequest} {base : Value}
    (hbase : Stamped (acceptConsentRequestToJson req) base) {tuples : List StoredTuple}
    {t subject app : String} {claim : Value} (hclaim : GrantedClaim tuples t subject app claim) :
    (SlotFree req.session → idTokenEntitlements ((mergeClaim base claim).get "session") =
      claim.get "entitlements") ∧
    (¬ SlotFree req.session → idTokenEntitlements ((mergeClaim base claim).get "session") =
      idTokenEntitlements req.session) := by
  obtain ⟨⟨fields, rfl⟩, hslot, hsent⟩ := hbase.slot
  rcases hclaim with rfl | ⟨levels, rfl, -⟩
  · refine ⟨fun hfree => ?_, fun _ => hsent⟩
    exact hsent.trans hfree.entitlements_eq_none
  · obtain ⟨hfree, htaken⟩ := entitlements_stampSession (.obj [(app, .arr (levels.map .str))])
      ((fields.lookup "session").getD (.obj []))
    have hget := get_session_mergeIdTokenClaims "entitlements"
      (.obj [(app, .arr (levels.map .str))]) fields
    refine ⟨fun h => ?_, fun h => ?_⟩
    · exact (congrArg idTokenEntitlements hget).trans (hfree (hslot.mpr h))
    · exact (congrArg idTokenEntitlements hget).trans
        ((htaken (fun h' => h (hslot.mp h'))).trans hsent)

/-! ## When the claim is the gateway's own -/

/-- Every body of a run carries the claim minted in it for the subject and the application of the
pending consent, which lists only relations the store granted; or no claim, where none was minted
because the client has no application. -/
def Authoritative (env : Env) (calls : History) (w : World) : Prop :=
  ∀ challenge body, Sent calls challenge body →
    (∃ t consent subject app tuples claim, Fetched env calls challenge consent ∧
      Minted env calls t subject app tuples claim ∧
      w.PublicIdOf .kratos consent.subject subject ∧ w.PublicIdOf .hydra consent.clientId app ∧
      GrantedClaim tuples t subject app claim ∧
      idTokenEntitlements (body.get "session") = claim.get "entitlements") ∨
    (¬ AnyMinted calls ∧ idTokenEntitlements (body.get "session") = none)

theorem authoritative_of_slotFree (env : Env) (cfg : ConsentConfig) (ctx : RequestContext)
    {req : AcceptConsentRequest} (hfree : SlotFree req.session) (o : ℕ → Choice) (w : World) :
    Authoritative env ((acceptConsent cfg ctx req).run.events (gateway env) o w)
      ((acceptConsent cfg ctx req).run.run (gateway env) o w).2 := by
  rintro challenge body ⟨c, w', hmem⟩
  obtain ⟨hsent, -⟩ := run_of_remembering (sat_acceptConsent env cfg ctx req w) o
  obtain ⟨t, consent, subject, hacc⟩ := hsent challenge body ⟨c, w', List.mem_reverse.mpr hmem⟩
  obtain ⟨c₁, w₁, document, hfetch, hdoc⟩ := hacc.vetted.fetched
  obtain ⟨base, hbase, hclaim⟩ := hacc.body
  rcases hclaim with ⟨t', app, tuples, claim, hminted, happ, rfl⟩ | ⟨hnone, rfl⟩
  · have hgranted := hminted.granted
    obtain ⟨c₂, w₂, hmint, hanswer⟩ := hminted
    exact .inl ⟨t', consent, subject, app, tuples, claim,
      ⟨c₁, w₁, document, List.mem_reverse.mp hfetch, hdoc⟩,
      ⟨c₂, w₂, List.mem_reverse.mp hmint, hanswer⟩, hacc.vetted.subject, happ, hgranted,
      (entitlements_mergeClaim hbase hgranted).1 hfree⟩
  · refine .inr ⟨?_, hbase.slot.2.2.trans hfree.entitlements_eq_none⟩
    rintro ⟨t, i, a, c₂, w₂, hmint⟩
    exact hnone ⟨t, i, a, c₂, w₂, List.mem_reverse.mpr hmint⟩

/-! ## Sessions that take the place -/

/-- A taken place keeps what the caller put there, in every body sent. -/
theorem entitlements_of_taken (env : Env) (cfg : ConsentConfig) (ctx : RequestContext)
    (req : AcceptConsentRequest) (htaken : ¬ SlotFree req.session) (o : ℕ → Choice) (w : World)
    {challenge : String} {body : Value}
    (hsent : Sent ((acceptConsent cfg ctx req).run.events (gateway env) o w) challenge body) :
    idTokenEntitlements (body.get "session") = idTokenEntitlements req.session := by
  obtain ⟨c, w', hmem⟩ := hsent
  obtain ⟨hacc, -⟩ := run_of_remembering (sat_acceptConsent env cfg ctx req w) o
  obtain ⟨t, consent, subject, hacc⟩ := hacc challenge body ⟨c, w', List.mem_reverse.mpr hmem⟩
  obtain ⟨base, hbase, hclaim⟩ := hacc.body
  rcases hclaim with ⟨t', app, tuples, claim, hminted, -, rfl⟩ | ⟨-, rfl⟩
  · exact (entitlements_mergeClaim hbase hminted.granted).2 htaken
  · exact hbase.slot.2.2

/-- The claims minted along a history. -/
def mintedClaims (env : Env) (calls : History) : List Value :=
  calls.filterMap fun ev => match ev.op with
    | .entitlement (.mintClaim t i a) =>
        some (gateway env (.entitlement (.mintClaim t i a)) ev.choice ev.before).1
    | _ => none

theorem Minted.mem_mintedClaims {env : Env} {calls : History} {t i a : String}
    {tuples : List StoredTuple} {claim : Value} (h : Minted env calls t i a tuples claim) :
    claim ∈ mintedClaims env calls := by
  obtain ⟨c, w, hmem, -, hanswer⟩ := h
  exact List.mem_filterMap.mpr ⟨_, hmem, congrArg some hanswer⟩

theorem anyMinted_of_mem {env : Env} {calls : History} {claim : Value}
    (h : claim ∈ mintedClaims env calls) : AnyMinted calls := by
  obtain ⟨⟨op, c, w⟩, hmem, hop⟩ := List.mem_filterMap.mp h
  dsimp only at hop
  split at hop
  · exact ⟨_, _, _, c, w, hmem⟩
  · cases hop

/-- The user of `revokedDb` has been granted the application again. -/
def memberWorld : World :=
  { revokedWorld with tuples := [⟨"acme", entitlementKey "app" memberRel "alice"⟩] }

/-- The admin's acceptance with a session of the caller's. -/
def sessionAcceptance (session : Option Value) : AcceptConsentRequest :=
  ⟨"challenge", ["openid"], [], false, 0, session⟩

/-- The calls of that acceptance. -/
def sessionCalls (session : Option Value) (w : World) : History :=
  (acceptConsent ⟨[]⟩ acmeAdmin (sessionAcceptance session)).run.events (gateway Env.firstRow)
    smooth w

theorem mintedClaims_memberWorld (session : Option Value) :
    mintedClaims Env.firstRow (sessionCalls session memberWorld) =
      [.obj [("entitlements", .obj [("app", .arr [.str "member"])])]] := by
  with_unfolding_all rfl

theorem mintedClaims_newcomerWorld (session : Option Value) :
    mintedClaims Env.firstRow (sessionCalls session newcomerWorld) = [] := by
  with_unfolding_all rfl

/-- The challenges accepted along a history. -/
def acceptedChallenges (calls : History) : List String :=
  calls.filterMap fun ev => match ev.op with
    | .hydra (.acceptConsentRequest challenge _) => some challenge
    | _ => none

theorem exists_sent_of_accepted {calls : History} {challenge : String}
    (h : challenge ∈ acceptedChallenges calls) : ∃ body, Sent calls challenge body := by
  obtain ⟨⟨op, c, w⟩, hmem, hop⟩ := List.mem_filterMap.mp h
  dsimp only at hop
  split at hop
  · cases hop
    exact ⟨_, c, w, hmem⟩
  · cases hop

/-- Both acceptances reach Hydra, whatever the session. -/
theorem exists_sent_sessionCalls (session : Option Value) :
    (∃ body, Sent (sessionCalls session memberWorld) "challenge" body) ∧
      ∃ body, Sent (sessionCalls session newcomerWorld) "challenge" body := by
  have hmember : acceptedChallenges (sessionCalls session memberWorld) = ["challenge"] := by
    with_unfolding_all rfl
  have hnewcomer : acceptedChallenges (sessionCalls session newcomerWorld) = ["challenge"] := by
    with_unfolding_all rfl
  constructor
  · exact exists_sent_of_accepted (hmember ▸ List.mem_singleton_self _)
  · exact exists_sent_of_accepted (hnewcomer ▸ List.mem_singleton_self _)

/-- In the member's world an authoritative body carries the member's claim. -/
theorem Authoritative.entitlements_memberWorld {session : Option Value} {w : World} {body : Value}
    (h : Authoritative Env.firstRow (sessionCalls session memberWorld) w)
    (hsent : Sent (sessionCalls session memberWorld) "challenge" body) :
    idTokenEntitlements (body.get "session") = some (.obj [("app", .arr [.str "member"])]) := by
  have hclaims := mintedClaims_memberWorld session
  rcases h "challenge" body hsent with
    ⟨t, consent, i, app, tuples, claim, -, hminted, -, -, -, hclaim⟩ | ⟨hnone, -⟩
  · have hmem := hminted.mem_mintedClaims
    rw [hclaims] at hmem
    rw [hclaim, List.mem_singleton.mp hmem]
    rfl
  · have hmem : .obj [("entitlements", .obj [("app", .arr [.str "member"])])] ∈
        mintedClaims Env.firstRow (sessionCalls session memberWorld) := by
      rw [hclaims]
      exact List.mem_singleton_self _
    exact absurd (anyMinted_of_mem hmem) hnone

/-- A session that claims the admin level on the application. -/
def forgedSession : Value :=
  .obj [("id_token", .obj [("entitlements", .obj [("app", .arr [.str "admin"])])])]

end SsoGateway
