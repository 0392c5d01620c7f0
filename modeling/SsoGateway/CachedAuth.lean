import SsoGateway.Revocation
import SsoGateway.TokenCache

/-!
# Authentication from the introspection cache

An introspection is flattened into a row of the cache and rebuilt from it. What the row leaves out is
the authentication methods, so a request that is answered from the cache is authenticated as the same
caller in the same tenant with the same scopes, and without any method.

* `authenticateFrom` — `authenticate_bearer_token` from the introspection on; `requireAmr`.
* `TokenIntrospectionRow.ofAnswer`, `result_ofAnswer` — the row of an answer, and what it gives back.
* `cache_hit_as_miss` — over every run: what an introspection answers from, and how that authenticates.
* `second_factor_forgotten` — a session with a second factor that loses it to a cache hit.

Source: `auth.rs`, `db/token_cache.rs`, `middleware.rs`.
-/

namespace SsoGateway

open Lib

/-! ## The request after its introspection -/

/-- Source: `authenticate_bearer_token`, after the introspection. -/
def authenticateFrom (env : AgentEnv) (token : String) (introspection : IntrospectionResult) :
    Middleware FullAuthContext :=
  if introspection.active = false then throw 401
  else
    match introspection.sub with
    | none => throw 500
    | some subject => do
        let (tenantId, publicSubject, backend) ← Prog.orThrow AuthError.status
          (resolveSubject subject).run
        let subjectType ← subjectTypeOf publicSubject backend
        return buildAuthContext env tenantId publicSubject subjectType none introspection.scope
          introspection.authenticationMethods token

/-- A bearer token that is not an act-token is introspected, and the request goes on from there. -/
theorem authenticateIntrospected_eq (env : AgentEnv) (token : String) :
    authenticateIntrospected env token =
      Prog.orThrow AuthError.status (ask (.introspect token)) >>= authenticateFrom env token := rfl

/-- Source: `require_amr`. -/
def requireAmr (auth : Option FullAuthContext) (method : String) : Except ServiceError Unit :=
  match auth with
  | none => .error (.unauthenticated "missing authentication context")
  | some auth =>
      if method ∈ auth.authenticationMethods then .ok ()
      else .error (.permissionDenied ("missing required authentication method: " ++ method))

/-- An introspection without its authentication methods. -/
def IntrospectionResult.withoutMethods (r : IntrospectionResult) : IntrospectionResult :=
  { r with authenticationMethods := [] }

/-- A context without its authentication methods. -/
def FullAuthContext.withoutMethods (ctx : FullAuthContext) : FullAuthContext :=
  { ctx with authenticationMethods := [] }

/-- Everything but the methods decides the calls of a request, and its failures. -/
theorem authenticateFrom_withoutMethods (env : AgentEnv) (token : String) (r : IntrospectionResult) :
    authenticateFrom env token r.withoutMethods =
      FullAuthContext.withoutMethods <$> authenticateFrom env token r := by
  simp only [authenticateFrom, IntrospectionResult.withoutMethods]
  by_cases hactive : r.active = false
  · simp [hactive]
  · simp only [hactive, Bool.true_eq_false, if_false]
    rcases r.sub with _ | subject
    · simp
    · simp only [map_bind, map_pure]
      rfl

/-- A decision on a scope does not look at the methods. -/
theorem requireScope_withoutMethods (tenant : Option String) (ctx : FullAuthContext) (scope : String) :
    requireScope ⟨tenant, some ctx.withoutMethods.toAuthContext⟩ scope =
      requireScope ⟨tenant, some ctx.toAuthContext⟩ scope := rfl

/-- Without its methods, a request passes no `require_amr`. -/
theorem requireAmr_withoutMethods (ctx : FullAuthContext) (method : String) :
    requireAmr (some ctx.withoutMethods) method =
      .error (.permissionDenied ("missing required authentication method: " ++ method)) := by
  simp [requireAmr, FullAuthContext.withoutMethods]

/-! ## The row of an answer -/

/-- The row that is written for Hydra's answer. -/
def TokenIntrospectionRow.ofAnswer (tokenHash : String) (v : Value) (cachedAt : ℤ) :
    TokenIntrospectionRow :=
  let r := TimedIntrospection.fromHydra v
  ⟨tokenHash, r.active, r.sub, cachedScope r.scope, r.exp, cachedAt⟩

/-- Splitting at spaces never gives an empty list. -/
theorem splitAt_ne_nil (s : String) (sep : Char) : splitAt s sep ≠ [] := by
  simp [splitAt, List.splitOn_ne_nil]

/-- Joined with spaces again, the pieces are the text, however its spaces stand. -/
theorem joinSpace_splitAt (s : String) : joinSpace (splitAt s ' ') = s := by
  apply String.toList_injective
  have hpieces : (splitAt s ' ').map String.toList = s.toList.splitOn ' ' := by
    simp [splitAt, Function.comp_def]
  rw [joinSpace, String.toList_intercalate, hpieces]
  exact List.intercalate_splitOn ' '

/-- The scopes of a row are those of the answer. -/
theorem scopes_cachedScope (scope : Option String) :
    (((cachedScope ((scope.map fun s => splitAt s ' ').getD [])).map fun s =>
      splitAt s ' ').getD []) = (scope.map fun s => splitAt s ' ').getD [] := by
  cases scope with
  | none => rfl
  | some s => simp [cachedScope, splitAt_ne_nil, joinSpace_splitAt]

theorem fromHydra_scope (v : Value) : (IntrospectionResult.fromHydra v).scope =
    ((v.index "scope").asStr.map fun s => splitAt s ' ').getD [] := by
  simp only [IntrospectionResult.fromHydra]
  split <;> simp_all

/-- **The row gives the answer back**, but for its methods. -/
theorem result_ofAnswer (tokenHash : String) (v : Value) (cachedAt : ℤ) :
    (TokenIntrospectionRow.ofAnswer tokenHash v cachedAt).result =
      ⟨(IntrospectionResult.fromHydra v).withoutMethods, introspectionExpiry v⟩ := by
  simp only [TokenIntrospectionRow.result, TokenIntrospectionRow.ofAnswer, TimedIntrospection.fromHydra,
    IntrospectionResult.withoutMethods, fromHydra_scope, scopes_cachedScope]

/-! ## Runs -/

/-- What a program of a run does. -/
inductive TokenTask where
  | introspect (token : String)
  | revoke (req : FormRequest)

/-- Any number of introspections and revocations of any tokens, on an empty cache. -/
def introspectionPool {ι : Type} (env : TokenEnv) (tasks : ι → TokenTask) (base : World)
    (revoked : List String) : Pool TokenSig ι TokenReply TokenWorld where
  world := ⟨base, .empty, revoked⟩
  threads i :=
    match tasks i with
    | .introspect token =>
        TokenReply.introspection <$> (CachedTokenIntrospector.introspect env.hashToken token).run
    | .revoke req => TokenReply.response <$> revoke env.lib env.hashToken env.oauth2 req

/-- Hydra has answered `v` for the token. -/
def HydraAnswered {ι : Type} (env : TokenEnv) (token : String) (v : Value) (past : TokenHistory ι) :
    Prop :=
  ∃ c w, ⟨.introspectToken token, c, w⟩ ∈ past ∧
    (sharedTokens ι env (.introspectToken token) c w).1 = .ok v

/-- Program `i` has asked Hydra, and Hydra has answered `v`. -/
def AnsweredDirectly {ι : Type} (env : TokenEnv) (token : String) (i : ι) (v : Value)
    (past : TokenHistory ι) : Prop :=
  ∃ c w, ⟨.introspectToken token, c, w⟩ ∈ past ∧ c.1 = i ∧
    (sharedTokens ι env (.introspectToken token) c w).1 = .ok v

/-- Program `i` has read a row of the cache that was written, no longer than `maxAge` before, of an
answer `v` of Hydra for the token; and not after the expiry `v` gives the token. -/
def AnsweredFromCache {ι : Type} (env : TokenEnv) (token : String) (i : ι) (v : Value)
    (past : TokenHistory ι) : Prop :=
  ∃ later get earlier, past = later ++ get :: earlier ∧ get.choice.1 = i ∧
    get.op = .cacheGet (env.hashToken token) ∧
    (∀ exp ∈ introspectionExpiry v, get.choice.2.now ≤ exp) ∧ HydraAnswered env token v earlier ∧
    ∃ put ∈ earlier, get.choice.2.now ≤ put.choice.2.now + env.maxAge ∧
      Event.Writes put (.ofAnswer (env.hashToken token) v put.choice.2.now)

section ledger

variable {ι : Type} {env : TokenEnv} {tokens : Set String} {token : String} {v : Value}

theorem HydraAnswered.mono {past past' : TokenHistory ι} (h : HydraAnswered env token v past)
    (hpast : past <:+ past') : HydraAnswered env token v past' := by
  obtain ⟨c, w, hev, hanswer⟩ := h
  exact ⟨c, w, hpast.subset hev, hanswer⟩

theorem AnsweredDirectly.mono {i : ι} {past past' : TokenHistory ι}
    (h : AnsweredDirectly env token i v past) (hpast : past <:+ past') :
    AnsweredDirectly env token i v past' := by
  obtain ⟨c, w, hev, hi, hanswer⟩ := h
  exact ⟨c, w, hpast.subset hev, hi, hanswer⟩

theorem AnsweredFromCache.mono {i : ι} {past past' : TokenHistory ι}
    (h : AnsweredFromCache env token i v past) (hpast : past <:+ past') :
    AnsweredFromCache env token i v past' := by
  obtain ⟨later, get, earlier, rfl, hrest⟩ := h
  obtain ⟨new, rfl⟩ := hpast
  exact ⟨new ++ later, get, earlier, by simp, hrest⟩

/-- The row is one written for an answer of Hydra, for one of the tokens. -/
def RowAnswered (env : TokenEnv) (tokens : Set String) (row : TokenIntrospectionRow)
    (past : TokenHistory ι) : Prop :=
  ∃ token ∈ tokens, ∃ v, row = .ofAnswer (env.hashToken token) v row.cachedAt ∧
    HydraAnswered env token v past

/-- Every row of the cache was written for an answer of Hydra. -/
def CacheAnswered (env : TokenEnv) (tokens : Set String) (s : Past TokenSig ι Choice TokenWorld) :
    Prop :=
  ∀ row ∈ s.1.cache.rows, RowAnswered env tokens row s.2 ∧ ∃ put ∈ s.2, Event.Writes put row

/-- What is written to the cache is the row of an answer. -/
def answerLedger (ι : Type) (env : TokenEnv) (tokens : Set String) :
    Ledger TokenSig ι Choice TokenWorld where
  inv := CacheAnswered env tokens
  promise op c s := ∀ row, Event.Writes ⟨op, c, s.1⟩ row → RowAnswered env tokens row s.2

theorem RowAnswered.mono {row : TokenIntrospectionRow} {past past' : TokenHistory ι}
    (h : RowAnswered env tokens row past) (hpast : past <:+ past') :
    RowAnswered env tokens row past' := by
  obtain ⟨token, htoken, v, hrow, hanswered⟩ := h
  exact ⟨token, htoken, v, hrow, hanswered.mono hpast⟩

theorem answerLedger_sound : (answerLedger ι env tokens).Sound (sharedTokens ι env) := by
  intro op c s hs hpromise row hrow
  rcases cache_step hrow with hold | hwrites
  · obtain ⟨hanswered, put, hput, hwrites⟩ := hs row hold
    exact ⟨hanswered.mono (List.suffix_cons _ _), put, List.mem_cons_of_mem _ hput, hwrites⟩
  · exact ⟨(hpromise row hwrites).mono (List.suffix_cons _ _), _, List.mem_cons_self, hwrites⟩

/-- A call that is no write of the cache. -/
def TokenOp.SparesCache (op : TokenOp) : Prop :=
  ∀ th active sub scope exp, op ≠ .cachePut th active sub scope exp

/-- Only a write of the cache has anything to promise. -/
theorem promise_of_sparesCache {op : TokenOp} (hop : op.SparesCache) (c : ι × Choice)
    (s : Past TokenSig ι Choice TokenWorld) : (answerLedger ι env tokens).promise op c s := by
  intro row hwrites
  exact absurd hwrites.1 (hop _ _ _ _ _)

/-- A revocation writes nothing to the cache. -/
theorem calls_revoke (lib : Libraries) (hashToken : String → String) (st : Oauth2Wiring)
    (req : FormRequest) : (revoke lib hashToken st req).Calls TokenOp.SparesCache := by
  have hclear : ∀ token, (clearCache hashToken st token).Calls TokenOp.SparesCache := by
    intro token
    simp only [clearCache]
    split
    · split
      · exact Prog.calls_bind (Prog.calls_perform (by simp [TokenOp.SparesCache])) fun _ => trivial
      · trivial
    · trivial
  unfold revoke
  refine Prog.calls_bind ((calls_resolveRevocation _ _ _).mono ?_) fun r => ?_
  · rintro _ ⟨g, rfl⟩
    simp [TokenOp.SparesCache]
  · split
    · trivial
    · refine Prog.calls_bind (Prog.calls_perform (by simp [TokenOp.SparesCache])) fun answer => ?_
      split
      · exact Prog.calls_bind (hclear _) fun _ => trivial
      · trivial

/-- What an introspection that has returned was answered from. -/
def IntrospectionSource (env : TokenEnv) (token : String) (i : ι)
    (r : Except AuthError TimedIntrospection) (s : Past TokenSig ι Choice TokenWorld) : Prop :=
  ∀ result, r = .ok result →
    (∃ v, AnsweredDirectly env token i v s.2 ∧ result = .fromHydra v) ∨
    ∃ v, AnsweredFromCache env token i v s.2 ∧
      result = ⟨(IntrospectionResult.fromHydra v).withoutMethods, introspectionExpiry v⟩

/-- A row that is read has not expired. -/
theorem cacheGet_exp {th : String} {c : ι × Choice} {w : TokenWorld} {row : TokenIntrospectionRow}
    (h : (sharedTokens ι env (.cacheGet th) c w).1 = .ok (some row)) :
    ∀ exp ∈ row.exp, c.2.now ≤ exp := by
  obtain ⟨-, hrow⟩ := Fault.answer_ok h
  have husable : row.Usable env.maxAge c.2.now := by
    simpa using (Option.filter_eq_some_iff.mp (Except.ok.inj hrow)).2
  exact husable.2

/-- An introspection answers what Hydra says to it, or what Hydra said when the row it reads was
written. -/
theorem sat_introspect_source (hhash : Set.InjOn env.hashToken tokens) (htoken : token ∈ tokens) {i : ι}
    {s : Past TokenSig ι Choice TokenWorld} (hs : CacheAnswered env tokens s) :
    (CachedTokenIntrospector.introspect env.hashToken token).run.Sat (sharedTokens ι env).traced
      ((answerLedger ι env tokens).contract i) (IntrospectionSource env token i) s := by
  unfold CachedTokenIntrospector.introspect
  rw [Prog.sat_run_bind, Prog.sat_run_orThrow]
  refine Ledger.sat_perform answerLedger_sound hs fun c s₁ hc hsuf hs₁ =>
    ⟨promise_of_sparesCache (by simp [TokenOp.SparesCache]) c s₁, fun hs₁' => ?_⟩
  rcases hget : (sharedTokens ι env (.cacheGet (env.hashToken token)) c s₁.1).1 with e | _ | row
  · intro result hresult
    simp at hresult
  · -- a miss: the answer is Hydra's, and so is what is written
    refine Prog.sat_run_bind.mpr (Prog.sat_run_orThrow.mpr ?_)
    refine Ledger.sat_perform answerLedger_sound hs₁' fun c₂ s₂ hc₂ hsuf₂ hs₂ =>
      ⟨promise_of_sparesCache (by simp [TokenOp.SparesCache]) c₂ s₂, fun hs₂' => ?_⟩
    rcases hanswer : (sharedTokens ι env (.introspectToken token) c₂ s₂.1).1 with e | v
    · intro result hresult
      simp at hresult
    · dsimp only [Except.mapError]
      have hdirect : AnsweredDirectly env token i v
          ((sharedTokens ι env).traced (.introspectToken token) c₂ s₂).2.2 :=
        ⟨c₂, s₂.1, List.mem_cons_self, hc₂, hanswer⟩
      split
      · intro result hresult
        exact .inl ⟨v, hdirect, (Except.ok.inj hresult).symm⟩
      · rw [Prog.sat_run_bind, Prog.sat_run_attempt]
        refine Ledger.sat_perform answerLedger_sound hs₂' fun c₃ s₃ hc₃ hsuf₃ hs₃ => ?_
        refine ⟨fun row hwrites => ?_, fun _ result hresult => ?_⟩
        · refine ⟨token, htoken, v, ?_, c₂, s₂.1, hsuf₃.subset List.mem_cons_self, hanswer⟩
          obtain ⟨hop, -⟩ := hwrites
          simp only [TokenOp.cachePut.injEq] at hop
          obtain ⟨hhash', hactive, hsub, hscope, hexp⟩ := hop
          simp only [TokenIntrospectionRow.ofAnswer, hhash', hactive, hsub, hscope, hexp]
        · refine .inl ⟨v, hdirect.mono (hsuf₃.trans (List.suffix_cons _ _)), ?_⟩
          exact (Except.ok.inj hresult).symm
  · -- a hit: the row was written for an answer, and of this token
    intro result hresult
    obtain rfl := Except.ok.inj hresult
    obtain ⟨hmem, hth, hage⟩ := cacheGet_eq_some hget
    obtain ⟨⟨token', htoken', v, hrow, hanswered⟩, put, hput, hwrites⟩ := hs₁ row hmem
    have heq : token' = token := by
      apply hhash htoken' htoken
      rw [← hth, hrow]
      rfl
    subst heq
    refine .inr ⟨v, ⟨[], _, s₁.2, rfl, hc, rfl, ?_, hanswered, put, hput, ?_, ?_⟩, ?_⟩
    · intro exp hexp
      refine cacheGet_exp hget exp ?_
      rw [hrow]
      exact hexp
    · rw [hwrites.2]
      exact hage
    · rw [hwrites.2, ← hrow]
      exact hwrites
    · rw [← result_ofAnswer (env.hashToken token') v row.cachedAt, ← hrow]

/-- The tokens a run introspects. -/
def introspected (tasks : ι → TokenTask) : Set String := {token | ∃ i, tasks i = .introspect token}

/-- What a program that has returned ends in. -/
def SourcePost (env : TokenEnv) (tasks : ι → TokenTask) (i : ι) (reply : TokenReply)
    (s : Past TokenSig ι Choice TokenWorld) : Prop :=
  ∀ token r, tasks i = .introspect token → reply = .introspection r →
    IntrospectionSource env token i r s

theorem SourcePost.mono {tasks : ι → TokenTask} {i : ι} {reply : TokenReply}
    {s s' : Past TokenSig ι Choice TokenWorld} (h : SourcePost env tasks i reply s)
    (hpast : s.2 <:+ s'.2) : SourcePost env tasks i reply s' := by
  intro token r htask hreply result hresult
  rcases h token r htask hreply result hresult with ⟨v, hdirect, heq⟩ | ⟨v, hcache, heq⟩
  · exact .inl ⟨v, hdirect.mono hpast, heq⟩
  · exact .inr ⟨v, hcache.mono hpast, heq⟩

theorem sat_introspectionPool {tasks : ι → TokenTask}
    (hhash : Set.InjOn env.hashToken (introspected tasks)) (base : World) (revoked : List String)
    (i : ι) :
    ((introspectionPool env tasks base revoked).threads i).Sat (sharedTokens ι env).traced
      ((answerLedger ι env (introspected tasks)).contract i) (SourcePost env tasks i)
      ((introspectionPool env tasks base revoked).world, []) := by
  have hstart : (answerLedger ι env (introspected tasks)).inv
      ((introspectionPool env tasks base revoked).world, []) := by
    intro row hrow
    exact absurd hrow List.not_mem_nil
  simp only [introspectionPool]
  split
  · rename_i token htask
    refine Prog.sat_map.mpr ((sat_introspect_source hhash ⟨i, htask⟩ hstart).post fun r s h => ?_)
    intro token' r' htask' hreply
    obtain rfl : token = token' := by simpa [htask] using htask'
    obtain rfl : r = r' := by simpa using hreply
    exact h
  · rename_i req htask
    refine Prog.sat_map.mpr ((Ledger.sat_calls answerLedger_sound ((calls_revoke _ _ _ _).mono
      fun op hop => promise_of_sparesCache hop) hstart).post fun r s _ => ?_)
    intro token' r' htask'
    simp [htask] at htask'

end ledger

section runs

variable {ι : Type} [DecidableEq ι]

/-- **A hit decides as a miss, but for the methods.** An introspection that has returned was answered by
Hydra, or from the cache; from the cache, a request is authenticated as on the answer of Hydra the row
was written for, with the same failures, only that its context has no authentication methods. Decisions
on scopes are then the same, and every decision on a method is a refusal. -/
theorem cache_hit_as_miss (env : TokenEnv) (agents : AgentEnv) (tasks : ι → TokenTask)
    (hhash : Set.InjOn env.hashToken (introspected tasks)) (base : World) (revoked : List String)
    (sched : List (ι × Choice)) (i : ι) (token : String) (htask : tasks i = .introspect token)
    (result : TimedIntrospection)
    (hret : ((introspectionPool env tasks base revoked).run (sharedTokens ι env) sched).Returned i
      (.introspection (.ok result))) :
    ((∃ v, AnsweredDirectly env token i v
          ((introspectionPool env tasks base revoked).events (sharedTokens ι env) sched).reverse ∧
        result = .fromHydra v) ∨
      ∃ v, AnsweredFromCache env token i v
          ((introspectionPool env tasks base revoked).events (sharedTokens ι env) sched).reverse ∧
        authenticateFrom agents token result.toIntrospectionResult =
          FullAuthContext.withoutMethods <$> authenticateFrom agents token (.fromHydra v)) ∧
    (∀ tenant (ctx : FullAuthContext) scope,
      requireScope ⟨tenant, some ctx.withoutMethods.toAuthContext⟩ scope =
        requireScope ⟨tenant, some ctx.toAuthContext⟩ scope) ∧
    ∀ (ctx : FullAuthContext) method, requireAmr (some ctx.withoutMethods) method =
      .error (.permissionDenied ("missing required authentication method: " ++ method)) := by
  refine ⟨?_, requireScope_withoutMethods, requireAmr_withoutMethods⟩
  have hpost : SourcePost env tasks i (.introspection (.ok result))
      (((introspectionPool env tasks base revoked).run (sharedTokens ι env) sched).world,
        ((introspectionPool env tasks base revoked).events (sharedTokens ι env) sched).reverse) :=
    Ledger.run_returned answerLedger_sound (fun _ _ _ _ hpast _ h => h.mono hpast)
      (sat_introspectionPool hhash base revoked) sched hret
  rcases hpost token _ htask rfl result rfl with hdirect | ⟨v, hcache, rfl⟩
  · exact .inl hdirect
  · exact .inr ⟨v, hcache, authenticateFrom_withoutMethods agents token _⟩

end runs

/-! ## A second factor that is forgotten -/

/-- Hydra's answer for a session with a second factor. -/
def secondFactorSession : Value :=
  .obj [("active", .bool true), ("sub", .str "kratos-1"),
    ("ext", .obj [("authentication_methods", .arr [.str "password", .str "totp"])])]

/-- Two requests with one token, half a minute apart; Hydra's answer would be the same. -/
def twoRequests : List (Fin 2 × Choice) :=
  let answer (now : ℤ) : Choice := { Choice.plain "" now with doc := secondFactorSession }
  [(0, answer 10), (0, answer 10), (0, answer 10), (1, answer 40)]

/-- The pool of the two. -/
abbrev sameToken : Pool TokenSig (Fin 2) TokenReply TokenWorld :=
  introspectionPool wiredEnv (fun _ => .introspect "token") (World.empty []) []

/-- The second of the two has returned. -/
theorem sameToken_second : (sameToken.run (sharedTokens (Fin 2) wiredEnv) twoRequests).Returned 1
    (.introspection (.ok ⟨⟨true, some "kratos-1", [], []⟩, none⟩)) := rfl

/-- The second of the two requests is answered by Hydra or from the cache. -/
theorem cache_hit_as_miss_second :
    (∃ v, AnsweredDirectly wiredEnv "token" 1 v
          (sameToken.events (sharedTokens (Fin 2) wiredEnv) twoRequests).reverse ∧
        (⟨⟨true, some "kratos-1", [], []⟩, none⟩ : TimedIntrospection) = .fromHydra v) ∨
      ∃ v, AnsweredFromCache wiredEnv "token" 1 v
          (sameToken.events (sharedTokens (Fin 2) wiredEnv) twoRequests).reverse ∧
        authenticateFrom plainAgentEnv "token" ⟨true, some "kratos-1", [], []⟩ =
          FullAuthContext.withoutMethods <$> authenticateFrom plainAgentEnv "token" (.fromHydra v) :=
  (cache_hit_as_miss wiredEnv plainAgentEnv (fun _ => .introspect "token") (fun _ _ _ _ h => h)
    (World.empty []) [] twoRequests 1 "token" rfl _ sameToken_second).1

theorem aliceMapping_keys : ([⟨"acme", .kratos, "alice", "kratos-1", 0⟩] : List IdMappingRow).Pairwise
    fun m m' => ¬ m.Conflicts m' := by simp

theorem aliceMapping_tenant : ∀ m ∈ ([⟨"acme", .kratos, "alice", "kratos-1", 0⟩] : List IdMappingRow),
    ∃ t ∈ ([⟨"acme"⟩] : List TenantRow), t.id = m.tenantId := by decide

theorem aliceMapping_applications : ∀ a ∈ ([] : List ApplicationRow),
    ∃ m ∈ ([⟨"acme", .kratos, "alice", "kratos-1", 0⟩] : List IdMappingRow), m.publicId = a.publicId := by
  simp

/-- The user of the session, with her mapping. -/
def aliceWorld : AgentWorld :=
  .start { World.empty [⟨"acme"⟩] with
    db := { Db.empty [⟨"acme"⟩] with
      idMappings := [⟨"acme", .kratos, "alice", "kratos-1", 0⟩]
      mappingKeys := aliceMapping_keys
      mappingTenant := aliceMapping_tenant
      applicationMapping := aliceMapping_applications } } []

/-- What a request is authenticated as, after its introspection. -/
def aliceRequest (r : IntrospectionResult) : Except ℕ FullAuthContext :=
  ((authenticateFrom plainAgentEnv "token" r).run.run (agentGateway plainAgentEnv)
    (fun _ => .plain "" 10) aliceWorld).1

/-- The context of the user, with these methods. -/
def authenticatedAlice (methods : List String) : FullAuthContext :=
  ⟨⟨"acme", "alice", .user, []⟩, none, plainAgentEnv.hashToken "token", methods⟩

/-- **The second factor is forgotten**: Hydra's answer is the same for both requests, and only the first
passes `require_amr`. -/
theorem second_factor_forgotten :
    ∃ first second : TimedIntrospection,
      (sameToken.run (sharedTokens (Fin 2) wiredEnv) twoRequests).Returned 0
        (.introspection (.ok first)) ∧
      (sameToken.run (sharedTokens (Fin 2) wiredEnv) twoRequests).Returned 1
        (.introspection (.ok second)) ∧
      aliceRequest first.toIntrospectionResult = .ok (authenticatedAlice ["password", "totp"]) ∧
      aliceRequest second.toIntrospectionResult = .ok (authenticatedAlice []) ∧
      requireAmr (some (authenticatedAlice ["password", "totp"])) "totp" = .ok () ∧
      requireAmr (some (authenticatedAlice [])) "totp" ≠ .ok () :=
  ⟨.fromHydra secondFactorSession, ⟨⟨true, some "kratos-1", [], []⟩, none⟩, rfl, rfl, rfl, rfl,
    by decide, by decide⟩

end SsoGateway
