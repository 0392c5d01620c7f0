import SsoGateway.LoginGate
import SsoGateway.Lib.Straight

/-!
# Step-up

A login request may ask for an assurance level, and a session has one. Levels are texts, `aal` and a
number; the code reads the number into 32 bits, and a text it cannot read asks for nothing.

* `AsksFor`, `assuranceLevel` — the levels a request asks for and the level of a session, of any size.
* `lt_aalLevelFromLoginRequest`, `sessionAal_eq` — what the code reads of them.
* `StepUpEnforced` — a login is accepted only with a session of every level asked for.
* `stepUpEnforced_iff` — this is so just where no level that is passed over is missing.
* `stepUp_passed_over` — a level of eleven digits that is passed over.

Source: `services/identity_self_service.rs`.
-/

namespace SsoGateway

open Lib

/-! ## Levels -/

/-- The level a text names: `aal` and the digits of a positive number. -/
def namedLevel (s : String) : Option ℕ :=
  ((stripStart s "aal").bind fun rest => parseDigits rest.toList).filter fun n => 0 < n

/-- The digits of a number that may have a plus sign. -/
def afterPlus : List Char → List Char
  | '+' :: ds => ds
  | ds => ds

/-- The level a text stands for where a plus sign may precede the number, as `str::parse` has it. -/
def signedLevel (s : String) : Option ℕ :=
  ((stripStart s "aal").bind fun rest => parseDigits (afterPlus rest.toList)).filter fun n => 0 < n

/-- A request asks for a level, in one of the two places for it. -/
def AsksFor (reading : String → Option ℕ) (request : Value) (n : ℕ) : Prop :=
  (∃ v, request.get "requested_aal" = some v ∧ v.asStr.bind reading = some n) ∨
  ∃ values, ((request.get "oidc_context").bind fun v => v.get "acr_values").bind Value.asArray =
    some values ∧ ∃ v ∈ values, v.asStr.bind reading = some n

/-- The level of a session; one that names none is a first-factor session. -/
def assuranceLevel (session : Value) : ℕ :=
  (((session.get "authenticator_assurance_level").bind Value.asStr).bind signedLevel).getD 1

/-- The levels that fit the integer they are read into. -/
def levelBound : ℕ := 2 ^ 31

/-- The level of a session as it is read: one that does not fit is that of a first-factor session. -/
def readLevel (session : Value) : ℕ :=
  if assuranceLevel session < levelBound then assuranceLevel session else 1

/-! ## What is read of a level -/

theorem filter_pos_eq_some {o : Option ℕ} {n : ℕ} :
    o.filter (fun n => 0 < n) = some n ↔ o = some n ∧ 0 < n := by
  cases o with
  | none => simp
  | some m =>
      by_cases hm : 0 < m
      · simp only [Option.filter_some, hm, decide_true, if_true, Option.some.injEq]
        exact ⟨fun h => ⟨h, h ▸ hm⟩, fun h => h.1⟩
      · simp only [Option.filter_some, hm, decide_false, Bool.false_eq_true, if_false, Option.some.injEq]
        constructor
        · intro h
          simp at h
        · rintro ⟨rfl, hpos⟩
          exact absurd hpos hm

theorem parseDigits_minus (ds : List Char) : parseDigits ('-' :: ds) = none := by
  simp [parseDigits]

/-- A number without a sign, or with a plus, is read if it fits. -/
theorem filter_fits {o : Option ℕ} {z : ℤ} :
    ((o.map fun n => (n : ℤ)).filter (fun n => -2 ^ 31 ≤ n ∧ n < 2 ^ 31) = some z ∧ 0 < z) ↔
      ∃ n, o = some n ∧ 0 < n ∧ n < levelBound ∧ z = n := by
  cases o with
  | none =>
      show ((none : Option ℤ) = some z ∧ 0 < z) ↔ _
      simp
  | some n =>
      show ((some (n : ℤ)).filter (fun n => decide (-2 ^ 31 ≤ n ∧ n < 2 ^ 31)) = some z ∧ 0 < z) ↔ _
      rw [Option.filter_eq_some_iff, Option.some.injEq, decide_eq_true_eq]
      unfold levelBound
      constructor
      · rintro ⟨⟨rfl, -, hlt⟩, hpos⟩
        exact ⟨n, rfl, by omega, by omega, rfl⟩
      · rintro ⟨_, h, hpos, hlt, rfl⟩
        obtain rfl := Option.some.inj h
        exact ⟨⟨rfl, by omega, by omega⟩, by omega⟩

/-- What follows a minus sign is not positive. -/
theorem filter_negative {o : Option ℕ} {z : ℤ} :
    ¬ ((o.map fun n => -(n : ℤ)).filter (fun n => -2 ^ 31 ≤ n ∧ n < 2 ^ 31) = some z ∧ 0 < z) := by
  rintro ⟨h, hpos⟩
  obtain ⟨hmap, -⟩ := Option.filter_eq_some_iff.mp h
  cases o with
  | none =>
      have hnone : (none : Option ℤ) = some z := hmap
      simp at hnone
  | some n =>
      have hneg : some (-(n : ℤ)) = some z := hmap
      rw [Option.some.injEq] at hneg
      omega

/-- A positive number is read if it fits. -/
theorem parseI32_pos {s : String} {z : ℤ} : (parseI32 s = some z ∧ 0 < z) ↔
    ∃ n, parseDigits (afterPlus s.toList) = some n ∧ 0 < n ∧ n < levelBound ∧ z = n := by
  unfold parseI32
  dsimp only
  split
  · next ds hs =>
      rw [hs, show afterPlus ('-' :: ds) = '-' :: ds from rfl, parseDigits_minus]
      constructor
      · intro h
        exact absurd h filter_negative
      · rintro ⟨n, h, -⟩
        simp at h
  · next ds hs =>
      rw [hs]
      exact filter_fits
  · next ds hminus hplus =>
      have hafter : afterPlus s.toList = s.toList := by
        unfold afterPlus
        split
        · next ds heq => exact absurd heq (hplus ds)
        · rfl
      rw [hafter]
      exact filter_fits

/-- A text is read as the level it stands for, if that fits. -/
theorem parseAalLevel_eq_some {s : String} {z : ℤ} :
    parseAalLevel s = some z ↔ ∃ n, signedLevel s = some n ∧ n < levelBound ∧ z = n := by
  unfold parseAalLevel signedLevel
  cases stripStart s "aal" with
  | none => simp
  | some rest =>
      simp only [Option.bind_some, Option.filter_eq_some_iff, decide_eq_true_eq, filter_pos_eq_some]
      rw [parseI32_pos]
      constructor
      · rintro ⟨n, hdigits, hpos, hlt, rfl⟩
        exact ⟨n, ⟨hdigits, hpos⟩, hlt, rfl⟩
      · rintro ⟨n, ⟨hdigits, hpos⟩, hlt, rfl⟩
        exact ⟨n, hdigits, hpos, hlt, rfl⟩

/-- A level that is named is stood for. -/
theorem signedLevel_of_named {s : String} {n : ℕ} (h : namedLevel s = some n) : signedLevel s = some n := by
  unfold namedLevel at h
  unfold signedLevel
  cases hrest : stripStart s "aal" with
  | none => simp [hrest] at h
  | some rest =>
      rw [hrest, Option.bind_some, filter_pos_eq_some] at h
      rw [Option.bind_some, filter_pos_eq_some]
      refine ⟨?_, h.2⟩
      rw [← h.1]
      unfold afterPlus
      split
      · next ds heq =>
          rw [heq] at h
          simp [parseDigits] at h
      · rfl

theorem AsksFor.signed {request : Value} {n : ℕ} (h : AsksFor namedLevel request n) :
    AsksFor signedLevel request n := by
  have hvalue : ∀ v : Value, v.asStr.bind namedLevel = some n → v.asStr.bind signedLevel = some n := by
    intro v hv
    obtain ⟨s, hs, hlevel⟩ := Option.bind_eq_some_iff.mp hv
    exact Option.bind_eq_some_iff.mpr ⟨s, hs, signedLevel_of_named hlevel⟩
  rcases h with ⟨v, hv, hlevel⟩ | ⟨values, hvalues, v, hv, hlevel⟩
  · exact .inl ⟨v, hv, hvalue v hlevel⟩
  · exact .inr ⟨values, hvalues, v, hv, hvalue v hlevel⟩

/-! ## What is read of the documents -/

theorem lt_raiseRequired {m required : ℤ} {v : Value} : m < raiseRequired required v ↔
    m < required ∨ ∃ n, v.asStr.bind signedLevel = some n ∧ n < levelBound ∧ m < n := by
  unfold raiseRequired
  cases hlevel : v.asStr.bind parseAalLevel with
  | none =>
      have hnone : ∀ n, v.asStr.bind signedLevel = some n → ¬ n < levelBound := by
        intro n hn hlt
        obtain ⟨s, hs, hsigned⟩ := Option.bind_eq_some_iff.mp hn
        rw [hs, Option.bind_some, parseAalLevel_eq_some.mpr ⟨n, hsigned, hlt, rfl⟩] at hlevel
        simp at hlevel
      constructor
      · exact .inl
      · rintro (h | ⟨n, hn, hlt, -⟩)
        · exact h
        · exact absurd hlt (hnone n hn)
  | some z =>
      obtain ⟨s, hs, hparse⟩ := Option.bind_eq_some_iff.mp hlevel
      obtain ⟨n, hsigned, hlt, rfl⟩ := parseAalLevel_eq_some.mp hparse
      dsimp only
      rw [lt_max_iff, hs, Option.bind_some, hsigned]
      constructor
      · rintro (h | h)
        · exact .inl h
        · exact .inr ⟨n, rfl, hlt, h⟩
      · rintro (h | ⟨n', heq, -, h⟩)
        · exact .inl h
        · obtain rfl := Option.some.inj heq
          exact .inr h

theorem lt_foldl_raiseRequired {m : ℤ} (values : List Value) : ∀ required : ℤ,
    m < values.foldl raiseRequired required ↔ m < required ∨ ∃ v ∈ values, ∃ n,
      v.asStr.bind signedLevel = some n ∧ n < levelBound ∧ m < n := by
  induction values with
  | nil => simp
  | cons v values ih =>
      intro required
      rw [List.foldl_cons, ih, lt_raiseRequired, List.exists_mem_cons_iff, or_assoc]

/-- A level is below the required one if it is below one that is asked for and fits. -/
theorem lt_aalLevelFromLoginRequest {m : ℤ} (hm : 1 ≤ m) (request : Value) :
    m < aalLevelFromLoginRequest request ↔
      ∃ n, AsksFor signedLevel request n ∧ n < levelBound ∧ m < n := by
  have hone : ¬ m < 1 := by omega
  unfold aalLevelFromLoginRequest AsksFor
  cases hfirst : request.get "requested_aal" with
  | none =>
      cases hvalues : ((request.get "oidc_context").bind fun v => v.get "acr_values").bind
          Value.asArray with
      | none => simpa using hm
      | some values =>
          simp only [lt_foldl_raiseRequired, hone, false_or, reduceCtorEq, false_and, exists_false,
            Option.some.injEq, exists_eq_left']
          constructor
          · rintro ⟨v, hv, n, hlevel, hlt, hn⟩
            exact ⟨n, ⟨v, hv, hlevel⟩, hlt, hn⟩
          · rintro ⟨n, ⟨v, hv, hlevel⟩, hlt, hn⟩
            exact ⟨v, hv, n, hlevel, hlt, hn⟩
  | some v =>
      cases hvalues : ((request.get "oidc_context").bind fun v => v.get "acr_values").bind
          Value.asArray with
      | none =>
          simp [lt_raiseRequired, hone]
      | some values =>
          simp only [lt_foldl_raiseRequired, lt_raiseRequired, hone, false_or, Option.some.injEq,
            exists_eq_left']
          constructor
          · rintro (⟨n, hlevel, hlt, hn⟩ | ⟨v', hv', n, hlevel, hlt, hn⟩)
            · exact ⟨n, .inl hlevel, hlt, hn⟩
            · exact ⟨n, .inr ⟨v', hv', hlevel⟩, hlt, hn⟩
          · rintro ⟨n, hlevel | ⟨v', hv', hlevel⟩, hlt, hn⟩
            · exact .inl ⟨n, hlevel, hlt, hn⟩
            · exact .inr ⟨v', hv', n, hlevel, hlt, hn⟩

theorem signedLevel_pos {s : String} {n : ℕ} (h : signedLevel s = some n) : 0 < n :=
  (filter_pos_eq_some.mp h).2

theorem assuranceLevel_pos (session : Value) : 1 ≤ assuranceLevel session := by
  unfold assuranceLevel
  cases hlevel : ((session.get "authenticator_assurance_level").bind Value.asStr).bind signedLevel with
  | none => simp
  | some n =>
      obtain ⟨s, -, hs⟩ := Option.bind_eq_some_iff.mp hlevel
      exact signedLevel_pos hs

theorem readLevel_pos (session : Value) : 1 ≤ readLevel session := by
  unfold readLevel
  split
  · exact assuranceLevel_pos session
  · exact le_refl 1

theorem readLevel_le (session : Value) : readLevel session ≤ assuranceLevel session := by
  unfold readLevel
  split
  · exact le_refl _
  · exact assuranceLevel_pos session

/-- The level of a session is read, if it fits. -/
theorem sessionAal_eq (session : Value) : sessionAal session = readLevel session := by
  unfold sessionAal readLevel assuranceLevel
  cases htext : (session.get "authenticator_assurance_level").bind Value.asStr with
  | none => simp [levelBound]
  | some s =>
      rw [Option.bind_some, Option.bind_some]
      cases hsigned : signedLevel s with
      | none =>
          have hparse : parseAalLevel s = none := by
            by_contra hsome
            obtain ⟨z, hz⟩ := Option.ne_none_iff_exists'.mp hsome
            obtain ⟨n, hn, -⟩ := parseAalLevel_eq_some.mp hz
            rw [hsigned] at hn
            simp at hn
          simp [hparse, levelBound]
      | some n =>
          have hpos := signedLevel_pos hsigned
          by_cases hlt : n < levelBound
          · rw [parseAalLevel_eq_some.mpr ⟨n, hsigned, hlt, rfl⟩]
            simp only [Option.getD_some, hlt, if_true]
            omega
          · have hparse : parseAalLevel s = none := by
              by_contra hsome
              obtain ⟨z, hz⟩ := Option.ne_none_iff_exists'.mp hsome
              obtain ⟨n', hn', hlt', -⟩ := parseAalLevel_eq_some.mp hz
              rw [hsigned] at hn'
              exact hlt (Option.some.inj hn' ▸ hlt')
            simp [hparse, hlt]

/-! ## Runs -/

/-- In this run of `accept_skippable_login`, Hydra is told to accept the login. -/
def LoginAccepted (env : Env) (cfg : SelfServiceConfig) (tenantId challenge cookie : String)
    (o : ℕ → Choice) (w : World) : Prop :=
  ∃ ev ∈ (acceptSkippableLogin cfg tenantId challenge (some cookie)).run.events (gateway env) o w,
    ∃ body, ev.op = .hydra (.acceptLoginRequest challenge body)

/-- Whatever the world and the faults: a login with this request and this session is accepted only if
the session has every level that the request names. -/
def StepUpEnforced (request session : Value) : Prop :=
  ∀ (env : Env) (cfg : SelfServiceConfig) (tenantId challenge cookie : String) (o : ℕ → Choice)
    (w : World), w.hydra.loginRequests.lookup challenge = some request →
    w.kratos.sessions.lookup cookie = some session →
    LoginAccepted env cfg tenantId challenge cookie o w →
    ∀ n, AsksFor namedLevel request n → n ≤ assuranceLevel session

theorem events_attempt_bind {S : Sig} {C W ε α : Type} {h : Handler S C W} (op : S.Op)
    (g : S.Res op → ExceptT ε (Prog S) α) (o : ℕ → C) (w : W) :
    ((Prog.attempt (Prog.perform op) >>= g).run).events h o w =
      ⟨op, o 0, w⟩ ::
        (g (h op (o 0) w).1).run.events h (fun n => o (n + 1)) (h op (o 0) w).2 := rfl

section runs

variable {env : Env} {cfg : SelfServiceConfig} {tenantId challenge cookie : String} {o : ℕ → Choice}
  {w : World} {request session : Value}

/-- The request that is fetched is Hydra's, if the call succeeds. -/
theorem gateway_getLoginRequest (c : Choice)
    (hrequest : w.hydra.loginRequests.lookup challenge = some request) :
    gateway env (.hydra (.getLoginRequest challenge)) c w =
      (if c.fault 0 = none then .ok request else .error ((c.fault 0).elim notFound (·.error)), w) := by
  cases hfault : c.fault 0 with
  | none => simp [gateway, hydraHandler, oryAnswer, lookupObject, hrequest, hfault]
  | some f => simp [gateway, hydraHandler, oryAnswer, hfault, Fault.answer]

/-- The session that is read is Kratos's, if the call succeeds. -/
theorem gateway_toSession (c : Choice) (hsession : w.kratos.sessions.lookup cookie = some session) :
    gateway env (.kratos (.toSession (some cookie))) c w =
      (if c.fault 0 = none then .ok session else .error ((c.fault 0).elim notFound (·.error)), w) := by
  cases hfault : c.fault 0 with
  | none => simp [gateway, kratosHandler, oryAnswer, hsession, hfault]
  | some f => simp [gateway, kratosHandler, oryAnswer, hfault, Fault.answer]

/-- An accepted login has a session with a subject, of a level that is not below the required one. -/
theorem level_of_accepted (hrequest : w.hydra.loginRequests.lookup challenge = some request)
    (hsession : w.kratos.sessions.lookup cookie = some session)
    (h : LoginAccepted env cfg tenantId challenge cookie o w) :
    sessionSubject session ≠ none ∧ ¬ sessionAal session < aalLevelFromLoginRequest request := by
  obtain ⟨ev, hev, body, hop⟩ := h
  unfold acceptSkippableLogin at hev
  rw [events_attempt_bind, gateway_getLoginRequest (o 0) hrequest] at hev
  rcases List.mem_cons.mp hev with rfl | hev
  · simp at hop
  by_cases hfirst : (o 0).fault 0 = none
  · rw [if_pos hfirst] at hev
    dsimp only at hev
    rw [events_attempt_bind, gateway_toSession (o 1) hsession] at hev
    rcases List.mem_cons.mp hev with rfl | hev
    · simp at hop
    by_cases hsecond : (o 1).fault 0 = none
    · rw [if_pos hsecond] at hev
      dsimp only at hev
      unfold acceptWithSession at hev
      cases hsubject : sessionSubject session with
      | none =>
          rw [hsubject] at hev
          exact absurd hev List.not_mem_nil
      | some subject =>
          rw [hsubject] at hev
          refine ⟨by simp, fun hlevel => ?_⟩
          dsimp only at hev
          rw [if_pos hlevel] at hev
          exact absurd hev List.not_mem_nil
    · rw [if_neg hsecond] at hev
      exact absurd hev List.not_mem_nil
  · rw [if_neg hfirst] at hev
    exact absurd hev List.not_mem_nil

end runs

/-- Where the lookup of the client fails, the gate lets the login pass. -/
theorem events_loginGate_failed {env : Env} {tenantId subject client : String} {o : ℕ → Choice} {w : World}
    {message : String} {α : Type} (rest : LoginVerdict → Service α)
    (hlookup : gateway env (.mapping (.getPublicId tenantId .hydra client)) (o 0) w =
      (.error (.sqlx message), w)) :
    ((loginGate tenantId subject client >>= rest).run).events (gateway env) o w =
      ⟨.mapping (.getPublicId tenantId .hydra client), o 0, w⟩ ::
        (rest .passed).run.events (gateway env) (fun n => o (n + 1)) w := by
  unfold loginGate resolveClientEntitlement
  refine congrArg (List.cons _) ?_
  show Prog.events (gateway env) _ _ (gateway env (.mapping (.getPublicId tenantId .hydra client)) (o 0) w).2 = _
  rw [hlookup]
  rfl

/-- Choices under which the third call fails. -/
def thirdFails (n : ℕ) : Choice :=
  if n = 2 then { Choice.plain "" 0 with fault := fun _ => some ⟨false, .http "connection reset"⟩ }
  else Choice.plain "" 0

/-- Hydra and Kratos with these two documents. -/
def loginWorld (request session : Value) : World :=
  { World.empty [] with
    hydra := ⟨[], [], [("challenge", request)]⟩
    kratos := ⟨[], [("cookie", session)]⟩ }

/-- A session with a subject, of a level that is not below the required one, may be accepted: where the
lookup of the client fails, the gate lets the login pass. -/
theorem accepted_of_level {request session : Value} {subject : String}
    (hsubject : sessionSubject session = some subject)
    (hlevel : ¬ sessionAal session < aalLevelFromLoginRequest request) :
    LoginAccepted Env.firstRow ⟨"", ""⟩ "acme" "challenge" "cookie" thirdFails
      (loginWorld request session) := by
  have hrequest : (loginWorld request session).hydra.loginRequests.lookup "challenge" = some request := by
    simp [loginWorld]
  have hsession : (loginWorld request session).kratos.sessions.lookup "cookie" = some session := by
    simp [loginWorld]
  unfold LoginAccepted acceptSkippableLogin
  rw [events_attempt_bind, gateway_getLoginRequest (thirdFails 0) hrequest]
  simp only [List.mem_cons, exists_eq_or_imp]
  refine .inr ?_
  have hfirst : (thirdFails 0).fault 0 = none := rfl
  rw [if_pos hfirst]
  dsimp only
  rw [events_attempt_bind, gateway_toSession (thirdFails 1) hsession]
  simp only [List.mem_cons, exists_eq_or_imp]
  refine .inr ?_
  have hsecond : (thirdFails 1).fault 0 = none := rfl
  rw [if_pos hsecond]
  dsimp only
  unfold acceptWithSession
  rw [hsubject]
  dsimp only
  rw [if_neg hlevel]
  unfold gateLogin
  cases hclient : loginClient request with
  | none => exact ⟨_, List.mem_cons_self, _, rfl⟩
  | some client =>
      have hlookup : gateway Env.firstRow (.mapping (.getPublicId "acme" .hydra client)) (thirdFails 2)
          (loginWorld request session) =
          (.error (.sqlx (OryClientError.http "connection reset").toText), loginWorld request session) := by
        simp [gateway, mappingHandler, Db.read, thirdFails, Fault.answer, Fault.sqlx]
      dsimp only
      rw [events_loginGate_failed _ hlookup]
      simp only [List.mem_cons, exists_eq_or_imp]
      exact .inr ⟨_, List.mem_cons_self, _, rfl⟩

/-! ## Step-up is enforced for the levels that fit -/

/-- No level is passed over that the session lacks: the session has every named level that does not fit
32 bits; or it lacks one that fits, or has no subject, and the login is not accepted. -/
def NoLevelPassedOver (request session : Value) : Prop :=
  (∀ n, AsksFor namedLevel request n → levelBound ≤ n → n ≤ assuranceLevel session) ∨
  (∃ n, AsksFor signedLevel request n ∧ n < levelBound ∧ readLevel session < n) ∨
  sessionSubject session = none

/-- **Step-up is enforced just where no level is passed over.** -/
theorem stepUpEnforced_iff (request session : Value) :
    StepUpEnforced request session ↔ NoLevelPassedOver request session := by
  have hread : (1 : ℤ) ≤ readLevel session := by
    have := readLevel_pos session
    omega
  have hlt := lt_aalLevelFromLoginRequest hread request
  constructor
  · intro h
    by_cases hlacks : ∃ n, AsksFor signedLevel request n ∧ n < levelBound ∧ readLevel session < n
    · exact .inr (.inl hlacks)
    · cases hsubject : sessionSubject session with
      | none => exact .inr (.inr hsubject)
      | some subject =>
          refine .inl fun n hasks _ => ?_
          have hlevel : ¬ sessionAal session < aalLevelFromLoginRequest request := by
            rw [sessionAal_eq, hlt]
            rintro ⟨n, hasks, hfits, hn⟩
            exact hlacks ⟨n, hasks, hfits, by omega⟩
          exact h _ _ _ _ _ _ _ (by simp [loginWorld]) (by simp [loginWorld])
            (accepted_of_level hsubject hlevel) n hasks
  · intro h env cfg tenantId challenge cookie o w hrequest hsession haccepted n hasks
    obtain ⟨hsubject, hlevel⟩ := level_of_accepted hrequest hsession haccepted
    rw [sessionAal_eq, hlt] at hlevel
    have hfit : ∀ n, AsksFor signedLevel request n → n < levelBound → n ≤ readLevel session := by
      intro n hasks hfits
      by_contra hlacks
      exact hlevel ⟨n, hasks, hfits, by omega⟩
    rcases h with hover | ⟨n', hasks', hfits, hn'⟩ | hnone
    · by_cases hfits : n < levelBound
      · exact le_trans (hfit n hasks.signed hfits) (readLevel_le session)
      · exact hover n hasks (not_lt.mp hfits)
    · exact absurd (hfit n' hasks' hfits) (not_le.mpr hn')
    · exact absurd hnone hsubject

/-- A request for a level of eleven digits. -/
def highLevelRequest : Value :=
  .obj [("oidc_context", .obj [("acr_values", .arr [.str "aal10000000000"])])]

/-- A session of a first factor. -/
def firstFactorSession : Value :=
  .obj [("identity", .obj [("id", .str "ory-alice")]), ("authenticator_assurance_level", .str "aal1")]

/-- The level is passed over, and the login is accepted with the first factor. -/
theorem stepUp_passed_over : LoginAccepted Env.firstRow ⟨"", ""⟩ "acme" "challenge" "cookie" thirdFails
      (loginWorld highLevelRequest firstFactorSession) ∧
    ¬ StepUpEnforced highLevelRequest firstFactorSession := by
  have hsubject : sessionSubject firstFactorSession = some "ory-alice" := by decide
  have haccepted : LoginAccepted Env.firstRow ⟨"", ""⟩ "acme" "challenge" "cookie" thirdFails
      (loginWorld highLevelRequest firstFactorSession) := accepted_of_level hsubject (by decide)
  refine ⟨haccepted, fun h => ?_⟩
  have hlevel := h _ _ _ _ _ _ _ (by simp [loginWorld]) (by simp [loginWorld]) haccepted 10000000000
    (.inr ⟨[.str "aal10000000000"], rfl, _, List.mem_cons_self, by decide⟩)
  exact absurd hlevel (by decide)

end SsoGateway
