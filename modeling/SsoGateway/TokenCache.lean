import SsoGateway.AgentTokens
import SsoGateway.PublicOauth2
import SsoGateway.Lib.Ledger
import SsoGateway.Lib.Table
import SsoGateway.Lib.Translate

/-!
# Introspection through the cache, and revocation

A token is introspected by a read of the cache, a call to Hydra where the cache has nothing usable,
and a write of the cache where the token is active. Revoking it is a call to Hydra; the cache entry
goes only where the handler was given the cache, which the application does not do.

* `CachedTokenIntrospector.introspect`, `revoke` — the two programs.
* `tokenPool` — any number of introspections of one token and one revocation of it, interleaved.
* `introspect_after_revoke` — what an introspection after the revocation may still answer from.
* `active_after_revoke` — a run without any overlap in which it does.

Source: `auth.rs`, `db/token_cache.rs`, `services/handlers/oauth2.rs`, `app.rs`.
-/

namespace SsoGateway

open Lib

/-! ## The cache and Hydra's tokens -/

/-- Source: `db/token_cache.rs` `TokenIntrospectionRow`. Instants are seconds. -/
structure TokenIntrospectionRow where
  tokenHash : String
  active : Bool
  sub : Option String
  scope : Option String
  exp : Option ℤ
  cachedAt : ℤ
deriving DecidableEq, Repr

/-- `token_introspection_cache.token_hash PRIMARY KEY`. -/
def TokenIntrospectionRow.SameToken (r r' : TokenIntrospectionRow) : Prop := r.tokenHash = r'.tokenHash

instance : DecidableRel TokenIntrospectionRow.SameToken := fun r r' =>
  inferInstanceAs (Decidable (r.tokenHash = r'.tokenHash))

/-- The cache. -/
abbrev TokenIntrospectionCache := Table TokenIntrospectionRow TokenIntrospectionRow.SameToken

/-- Source: `auth.rs` `IntrospectionResult`, with its expiry. -/
structure TimedIntrospection extends IntrospectionResult where
  exp : Option ℤ
deriving DecidableEq, Repr

/-- An expiry Hydra reports, if it is a date: from the year -9999 to the end of 9999. -/
def introspectionExpiry (v : Value) : Option ℤ :=
  match v.index "exp" with
  | .number text => text.toInt?.filter fun ts => -377705116800 ≤ ts ∧ ts ≤ 253402300799
  | _ => none

/-- Source: `from_hydra`. -/
def TimedIntrospection.fromHydra (v : Value) : TimedIntrospection :=
  ⟨.fromHydra v, introspectionExpiry v⟩

/-- The gateway's world with the cache, and the tokens Hydra has revoked. -/
structure TokenWorld where
  base : World
  cache : TokenIntrospectionCache
  revoked : List String

/-- Every call of the two programs. -/
inductive TokenOp where
  | gateway (op : GatewayOp)
  | cacheGet (tokenHash : String)
  | cachePut (tokenHash : String) (active : Bool) (sub scope : Option String) (exp : Option ℤ)
  | cacheRemove (tokenHash : String)
  /-- `HydraClient::introspect_token`. -/
  | introspectToken (token : String)
  /-- `HydraClient::revoke`. -/
  | revokeToken (form : Params)

/-- The answers. -/
@[reducible] def TokenOp.Res : TokenOp → Type
  | .gateway op => op.Res
  | .cacheGet _ => Except DbError (Option TokenIntrospectionRow)
  | .cachePut _ _ _ _ _ => Except DbError Unit
  | .cacheRemove _ => Except DbError Unit
  | .introspectToken _ => Except OryClientError Value
  | .revokeToken _ => Except OryClientError Unit

/-- The signature of the two programs. -/
@[reducible] def TokenSig : Sig := ⟨TokenOp, TokenOp.Res⟩

/-- An entry is usable: it is not older than `maxAge`, and the token has not expired. -/
def TokenIntrospectionRow.Usable (maxAge now : ℤ) (row : TokenIntrospectionRow) : Prop :=
  now ≤ row.cachedAt + maxAge ∧ ∀ exp ∈ row.exp, now ≤ exp

instance (maxAge now : ℤ) (row : TokenIntrospectionRow) : Decidable (row.Usable maxAge now) :=
  inferInstanceAs (Decidable (_ ∧ _))

/-- Hydra's answer for a token it has revoked. -/
def inactiveToken : Value := .obj [("active", .bool false)]

/-- What every call does. A revoked token is inactive at Hydra from then on; what else Hydra says of a
token is left to the environment. -/
def tokenGateway (env : Env) (maxAge : ℤ) : Handler TokenSig Choice TokenWorld
  | .gateway op, c, w =>
      let r := gateway env op c w.base
      (r.1, { w with base := r.2 })
  | .cacheGet h, c, w =>
      Fault.answer Fault.sqlx w
        (.ok ((w.cache.find? fun r => r.tokenHash = h).filter fun r => r.Usable maxAge c.now), w)
        (c.fault 0)
  | .cachePut h active sub scope exp, c, w =>
      let cache := (w.cache.deleteWhere fun r => r.tokenHash = h).insertNew
        ⟨h, active, sub, scope, exp, c.now⟩
      Fault.answer Fault.sqlx w (.ok (), { w with cache := cache.1 }) (c.fault 0)
  | .cacheRemove h, c, w =>
      Fault.answer Fault.sqlx w
        (.ok (), { w with cache := w.cache.deleteWhere fun r => r.tokenHash = h }) (c.fault 0)
  | .introspectToken token, c, w =>
      oryAnswer w c (.ok (if token ∈ w.revoked then inactiveToken else c.doc), w)
  | .revokeToken form, c, w =>
      oryAnswer w c (.ok (), { w with revoked := (form "token").toList ++ w.revoked })

/-- One call. -/
abbrev tokenCall (op : TokenOp) : Prog TokenSig op.Res := Prog.perform (S := TokenSig) op

/-! ## Introspection -/

/-- What a cache hit answers. Methods are not stored. -/
def TokenIntrospectionRow.result (row : TokenIntrospectionRow) : TimedIntrospection :=
  ⟨⟨row.active, row.sub, (row.scope.map fun s => splitAt s ' ').getD [], []⟩, row.exp⟩

/-- The scopes as they are cached. -/
def cachedScope (scope : List String) : Option String :=
  if scope = [] then none else some (joinSpace scope)

/-- Source: `CachedTokenIntrospector::introspect`. A write that fails is passed over. -/
def CachedTokenIntrospector.introspect (hashToken : String → String) (token : String) :
    ExceptT AuthError (Prog TokenSig) TimedIntrospection := do
  let cached ← Prog.orThrow (fun _ => AuthError.database) (tokenCall (.cacheGet (hashToken token)))
  match cached with
  | some row => return row.result
  | none =>
      let value ← Prog.orThrow (fun _ => AuthError.introspectionFailed)
        (tokenCall (.introspectToken token))
      let result := TimedIntrospection.fromHydra value
      if result.active = false then
        return result
      else
        let _ ← Prog.attempt (tokenCall (.cachePut (hashToken token) result.active result.sub
          (cachedScope result.scope) result.exp))
        return result

/-! ## Revocation -/

/-- The handlers' configuration, with whether they were given the cache. Source: `Oauth2State`. -/
structure Oauth2Wiring extends Oauth2State where
  tokenCache : Bool
deriving DecidableEq, Repr

/-- Source: the `Oauth2State` of `build_app_with_upstream`, without `with_token_cache`. -/
def Oauth2State.wired (st : Oauth2State) : Oauth2Wiring := { st with tokenCache := false }

/-- The form sent to Hydra for the resolved client; a secret of a Basic header joins it. -/
def revocationForm (lib : Libraries) (req : FormRequest) (oryId : String) : Params :=
  let form := Function.update (req.fields lib) "client_id" (some oryId)
  match basicAuthCredentials lib req.authorization with
  | some (_, secret) => Function.update form "client_secret" (some secret)
  | none => form

/-- The form of a revocation: with the client it names resolved, or as it is if it names none. -/
def resolveRevocation (lib : Libraries) (st : Oauth2State) (req : FormRequest) :
    ExceptT Response (Prog TokenSig) Params :=
  if req.clientId lib = "" then
    return req.fields lib
  else do
    let oryId ← Prog.translateT (S := Gateway) (fun op => tokenCall (.gateway op))
      (resolvePublicClient st (req.clientId lib))
    return revocationForm lib req oryId

/-- The entry of a revoked token goes, if the handler has the cache. -/
def clearCache (hashToken : String → String) (st : Oauth2Wiring) (token : Option String) :
    Prog TokenSig Unit :=
  match token with
  | some token =>
      if st.tokenCache then do
        let _ ← tokenCall (.cacheRemove (hashToken token))
      else return ()
  | none => return ()

/-- Source: `revoke`. -/
def revoke (lib : Libraries) (hashToken : String → String) (st : Oauth2Wiring) (req : FormRequest) :
    Prog TokenSig Response := do
  match ← (resolveRevocation lib st.toOauth2State req).run with
  | .error response => return response
  | .ok form =>
      match ← tokenCall (.revokeToken form) with
      | .ok () =>
          clearCache hashToken st (req.form "token")
          return ⟨200, .empty, none, []⟩
      | .error err => return oryErrorResponse lib err

/-! ## Interleavings -/

/-- What the two programs answer with. -/
inductive TokenReply where
  | introspection (result : Except AuthError TimedIntrospection)
  | response (response : Response)

/-- Parameters of a run. -/
structure TokenEnv where
  gateway : Env
  lib : Libraries
  hashToken : String → String
  /-- `TOKEN_INTROSPECTION_CACHE_TTL_SECONDS`. -/
  maxAge : ℤ
  oauth2 : Oauth2Wiring

/-- The handler in a pool: the choice says which program calls. -/
def sharedTokens (ι : Type) (env : TokenEnv) : Handler TokenSig (ι × Choice) TokenWorld :=
  fun op c w => tokenGateway env.gateway env.maxAge op c.2 w

/-- Introspections of `token`, and the revocation `req` as the program `r`. -/
def tokenPool {ι : Type} [DecidableEq ι] (env : TokenEnv) (token : String) (r : ι) (req : FormRequest)
    (w : TokenWorld) : Pool TokenSig ι TokenReply TokenWorld where
  world := w
  threads i :=
    if i = r then TokenReply.response <$> revoke env.lib env.hashToken env.oauth2 req
    else TokenReply.introspection <$> (CachedTokenIntrospector.introspect env.hashToken token).run

/-- What has happened in a run of the pool. -/
abbrev TokenHistory (ι : Type) := List (Event TokenSig (ι × Choice) TokenWorld)

/-- Program `i` had begun before the token was revoked. -/
def BegunBefore {ι : Type} (token : String) (i : ι) (past : TokenHistory ι) : Prop :=
  ∃ ev ∈ past, ev.choice.1 = i ∧ token ∉ ev.before.revoked

/-- The write of a cache row. -/
def Event.Writes {ι : Type} (ev : Event TokenSig (ι × Choice) TokenWorld)
    (row : TokenIntrospectionRow) : Prop :=
  ev.op = .cachePut row.tokenHash row.active row.sub row.scope row.exp ∧
    ev.choice.2.now = row.cachedAt

/-- Program `j` has read an entry of the cache that is not older than `maxAge`, and that a program begun
before the revocation had written. -/
def ReadFromCache {ι : Type} (maxAge : ℤ) (token : String) (j : ι) (past : TokenHistory ι) : Prop :=
  ∃ later get earlier, past = later ++ get :: earlier ∧ get.choice.1 = j ∧
    ∃ put ∈ earlier, ∃ row, Event.Writes put row ∧ get.op = .cacheGet row.tokenHash ∧
      get.choice.2.now ≤ put.choice.2.now + maxAge ∧ BegunBefore token put.choice.1 past

section ledger

variable {ι : Type} {env : TokenEnv} {token : String}

theorem BegunBefore.mono {i : ι} {past past' : TokenHistory ι} (h : BegunBefore token i past)
    (hpast : past <:+ past') : BegunBefore token i past' := by
  obtain ⟨ev, hev, hi⟩ := h
  exact ⟨ev, hpast.subset hev, hi⟩

theorem ReadFromCache.mono {j : ι} {past past' : TokenHistory ι} {maxAge : ℤ}
    (h : ReadFromCache maxAge token j past) (hpast : past <:+ past') :
    ReadFromCache maxAge token j past' := by
  obtain ⟨later, get, earlier, rfl, hj, put, hput, row, hwrites, hget, hage, hbegun⟩ := h
  obtain ⟨new, rfl⟩ := hpast
  refine ⟨new ++ later, get, earlier, by simp, hj, put, hput, row, hwrites, hget, hage, ?_⟩
  exact hbegun.mono (List.suffix_append new _)

/-- The entries for the token were written by programs begun before its revocation, and a revocation
without a fault has revoked it. -/
structure TokenRecorded (env : TokenEnv) (token : String) (s : Past TokenSig ι Choice TokenWorld) :
    Prop where
  cached : ∀ row ∈ s.1.cache.rows, ∃ put ∈ s.2, Event.Writes put row ∧
    BegunBefore token put.choice.1 s.2
  revoked : ∀ ev ∈ s.2, ∀ form, ev.op = .revokeToken form → form "token" = some token →
    ev.choice.2.fault 0 = none → token ∈ s.1.revoked

/-- Writes of the cache are made by programs begun before the revocation. -/
def TokenPromise (token : String) : TokenOp → ι × Choice → Past TokenSig ι Choice TokenWorld → Prop
  | .cachePut _ _ _ _ _, c, s => BegunBefore token c.1 s.2
  | _, _, _ => True

/-- The ledger of a pool. -/
def tokenLedger (ι : Type) (env : TokenEnv) (token : String) : Ledger TokenSig ι Choice TokenWorld where
  inv := TokenRecorded env token
  promise := TokenPromise token

/-- What a call makes of the revoked tokens. -/
theorem revoked_step (op : TokenOp) (c : ι × Choice) (w : TokenWorld) :
    (sharedTokens ι env op c w).2.revoked = w.revoked ∨ ∃ form, op = .revokeToken form ∧
      (sharedTokens ι env op c w).2.revoked = (form "token").toList ++ w.revoked := by
  have hfault : ∀ (α : Type) (r : Except DbError α × TokenWorld), r.2.revoked = w.revoked →
      (Fault.answer Fault.sqlx w r (c.2.fault 0)).2.revoked = w.revoked := by
    intro α r hr
    rcases Fault.answer_snd (c.2.fault 0) with heq | heq
    · rw [heq]
    · rw [heq, hr]
  cases op with
  | gateway op => exact .inl rfl
  | cacheGet th => exact .inl (hfault _ _ rfl)
  | cachePut th active sub scope exp => exact .inl (hfault _ _ rfl)
  | cacheRemove th => exact .inl (hfault _ _ rfl)
  | introspectToken t =>
      refine .inl ?_
      show (Fault.answer id w _ (c.2.fault 0)).2.revoked = w.revoked
      rcases Fault.answer_snd (c.2.fault 0) with heq | heq <;> rw [heq]
  | revokeToken form =>
      show (Fault.answer id w _ (c.2.fault 0)).2.revoked = w.revoked ∨ _
      rcases Fault.answer_snd (c.2.fault 0) with heq | heq
      · exact .inl (by rw [heq])
      · refine .inr ⟨form, rfl, ?_⟩
        show (Fault.answer id w _ (c.2.fault 0)).2.revoked = _
        rw [heq]

/-- Tokens stay revoked. -/
theorem revoked_onward (op : TokenOp) (c : ι × Choice) (w : TokenWorld) (h : token ∈ w.revoked) :
    token ∈ (sharedTokens ι env op c w).2.revoked := by
  have hstep : (sharedTokens ι env op c w).2.revoked = w.revoked ∨ _ := revoked_step op c w
  rcases hstep with heq | ⟨form, -, heq⟩
  · rwa [heq]
  · rw [heq]
    exact List.mem_append_right _ h

/-- A revocation without a fault revokes the token of its form. -/
theorem revoked_of_revokeToken {form : Params} {c : ι × Choice} {w : TokenWorld}
    (hform : form "token" = some token) (hc : c.2.fault 0 = none) :
    token ∈ (sharedTokens ι env (.revokeToken form) c w).2.revoked := by
  show token ∈ (Fault.answer id w _ (c.2.fault 0)).2.revoked
  rw [hc]
  simp [hform]

/-- A row of the cache was there before, or has just been written. -/
theorem cache_step {op : TokenOp} {c : ι × Choice} {w : TokenWorld} {row : TokenIntrospectionRow}
    (h : row ∈ (sharedTokens ι env op c w).2.cache.rows) :
    row ∈ w.cache.rows ∨ Event.Writes ⟨op, c, w⟩ row := by
  have hfault : ∀ {ε α : Type} (report : OryClientError → ε) (r : Except ε α × TokenWorld),
      row ∈ (Fault.answer report w r (c.2.fault 0)).2.cache.rows →
        row ∈ w.cache.rows ∨ row ∈ r.2.cache.rows := by
    intro ε α report r hrow
    have hsnd : (Fault.answer report w r (c.2.fault 0)).2 = w ∨ _ := Fault.answer_snd (c.2.fault 0)
    rcases hsnd with heq | heq
    · exact .inl (heq ▸ hrow)
    · exact .inr (heq ▸ hrow)
  cases op with
  | gateway op => exact .inl h
  | cacheGet th => exact .inl ((hfault _ _ h).elim id id)
  | cachePut th active sub scope exp =>
      rcases hfault _ _ h with hold | hnew
      · exact .inl hold
      have hkept : ∀ {row}, row ∈ (w.cache.deleteWhere fun r => r.tokenHash = th).rows →
          row ∈ w.cache.rows := fun hrow => (Table.mem_deleteWhere.mp hrow).1
      rcases Table.insertNew_cases (w.cache.deleteWhere fun r => r.tokenHash = th)
        ⟨th, active, sub, scope, exp, c.2.now⟩ with ⟨-, hrows, -⟩ | ⟨-, hsame, -⟩
      · rw [hrows] at hnew
        rcases List.mem_cons.mp hnew with rfl | hold
        · exact .inr ⟨rfl, rfl⟩
        · exact .inl (hkept hold)
      · rw [hsame] at hnew
        exact .inl (hkept hnew)
  | cacheRemove th =>
      rcases hfault _ _ h with hold | hkept
      · exact .inl hold
      · exact .inl (Table.mem_deleteWhere.mp hkept).1
  | introspectToken t => exact .inl ((hfault _ _ h).elim id id)
  | revokeToken form => exact .inl ((hfault _ _ h).elim id id)

theorem tokenLedger_sound : (tokenLedger ι env token).Sound (sharedTokens ι env) := by
  intro op c s hs hpromise
  refine ⟨fun row hrow => ?_, fun ev hev form hop hform hc => ?_⟩
  · rcases cache_step hrow with hold | hwrites
    · obtain ⟨put, hput, hrest, hbegun⟩ := hs.cached row hold
      exact ⟨put, List.mem_cons_of_mem _ hput, hrest, hbegun.mono (List.suffix_cons _ _)⟩
    · obtain rfl : op = _ := hwrites.1
      have hbegun : BegunBefore token c.1 s.2 := hpromise
      exact ⟨_, List.mem_cons_self, hwrites, hbegun.mono (List.suffix_cons _ _)⟩
  · rcases List.mem_cons.mp hev with rfl | hev
    · obtain rfl : op = _ := hop
      exact revoked_of_revokeToken hform hc
    · exact revoked_onward op c s.1 (hs.revoked ev hev form hop hform hc)

/-- What an introspection that has returned was answered from. -/
def IntrospectionPost (maxAge : ℤ) (token : String) (i : ι) (r : Except AuthError TimedIntrospection)
    (s : Past TokenSig ι Choice TokenWorld) : Prop :=
  ∀ result, r = .ok result → result.active = true →
    BegunBefore token i s.2 ∨ ReadFromCache maxAge token i s.2

/-- A hit is a row of the token that is not too old. -/
theorem cacheGet_eq_some {th : String} {c : ι × Choice} {w : TokenWorld} {row : TokenIntrospectionRow}
    (h : (sharedTokens ι env (.cacheGet th) c w).1 = .ok (some row)) :
    row ∈ w.cache.rows ∧ row.tokenHash = th ∧ c.2.now ≤ row.cachedAt + env.maxAge := by
  obtain ⟨-, hrow⟩ := Fault.answer_ok h
  obtain ⟨hfound, husable⟩ := Option.filter_eq_some_iff.mp (Except.ok.inj hrow)
  obtain ⟨hmem, hhash⟩ := Table.find?_eq_some hfound
  have husable : row.Usable env.maxAge c.2.now := by simpa using husable
  exact ⟨hmem, hhash, husable.1⟩

/-- Hydra calls a token active only until it is revoked. -/
theorem introspectToken_active {c : ι × Choice} {w : TokenWorld} {v : Value}
    (h : (sharedTokens ι env (.introspectToken token) c w).1 = .ok v)
    (hactive : (TimedIntrospection.fromHydra v).active = true) : token ∉ w.revoked := by
  obtain ⟨-, hanswer⟩ := Fault.answer_ok h
  intro hrevoked
  have hv : v = inactiveToken := by simpa [hrevoked] using (Except.ok.inj hanswer).symm
  subst hv
  exact absurd hactive (by decide)

/-- An introspection writes the cache only if it had begun before the revocation, and is active only
on an answer from then or from the cache. -/
theorem sat_introspect {i : ι} {s : Past TokenSig ι Choice TokenWorld} (hs : TokenRecorded env token s) :
    (CachedTokenIntrospector.introspect env.hashToken token).run.Sat (sharedTokens ι env).traced
      ((tokenLedger ι env token).contract i) (IntrospectionPost env.maxAge token i) s := by
  unfold CachedTokenIntrospector.introspect
  rw [Prog.sat_run_bind, Prog.sat_run_orThrow]
  refine Ledger.sat_perform tokenLedger_sound hs fun c s₁ hc hsuf hs₁ => ⟨trivial, fun hs₁' => ?_⟩
  rcases hget : (sharedTokens ι env (.cacheGet (env.hashToken token)) c s₁.1).1 with e | _ | row
  · intro result hresult
    simp at hresult
  · -- a miss: Hydra decides, and an active answer makes the program one begun before the revocation
    refine Prog.sat_run_bind.mpr (Prog.sat_run_orThrow.mpr ?_)
    refine Ledger.sat_perform tokenLedger_sound hs₁' fun c₂ s₂ hc₂ hsuf₂ hs₂ => ⟨trivial, fun hs₂' => ?_⟩
    rcases hanswer : (sharedTokens ι env (.introspectToken token) c₂ s₂.1).1 with e | v
    · intro result hresult
      simp at hresult
    · dsimp only [Except.mapError]
      by_cases hactive : (TimedIntrospection.fromHydra v).active = true
      · have hbegun : BegunBefore token i ((sharedTokens ι env).traced (.introspectToken token) c₂ s₂).2.2 :=
          ⟨_, List.mem_cons_self, hc₂, introspectToken_active hanswer hactive⟩
        rw [if_neg (by simp [hactive]), Prog.sat_run_bind, Prog.sat_run_attempt]
        refine Ledger.sat_perform tokenLedger_sound hs₂' fun c₃ s₃ hc₃ hsuf₃ hs₃ => ?_
        have hlater := hbegun.mono hsuf₃
        refine ⟨?_, fun _ result _ _ => .inl (hlater.mono (List.suffix_cons _ _))⟩
        show BegunBefore token c₃.1 s₃.2
        rw [hc₃]
        exact hlater
      · rw [if_pos (by simpa using hactive)]
        intro result hresult hres
        obtain rfl := Except.ok.inj hresult
        exact absurd hres hactive
  · intro result hresult hactive
    obtain rfl := Except.ok.inj hresult
    obtain ⟨hmem, hhash, hage⟩ := cacheGet_eq_some hget
    obtain ⟨put, hput, hwrites, hbegun⟩ := hs₁.cached row hmem
    refine .inr ⟨[], _, s₁.2, rfl, hc, put, hput, row, hwrites, ?_, ?_, ?_⟩
    · rw [hhash]
    · rw [hwrites.2]
      exact hage
    · exact hbegun.mono (List.suffix_cons _ _)

/-- A revocation of the token at Hydra, without a fault. -/
def Revoked (token : String) (past : TokenHistory ι) : Prop :=
  ∃ ev ∈ past, ∃ form, ev.op = .revokeToken form ∧ form "token" = some token ∧
    ev.choice.2.fault 0 = none

theorem Revoked.mono {past past' : TokenHistory ι} (h : Revoked token past) (hpast : past <:+ past') :
    Revoked token past' := by
  obtain ⟨ev, hev, hrest⟩ := h
  exact ⟨ev, hpast.subset hev, hrest⟩

theorem fields_token (lib : Libraries) (req : FormRequest) : req.fields lib "token" = req.form "token" := by
  unfold FormRequest.fields
  split
  · simp [withoutCredentials]
  · rfl

theorem revocationForm_token (lib : Libraries) (req : FormRequest) (oryId : String) :
    revocationForm lib req oryId "token" = req.form "token" := by
  unfold revocationForm
  rcases basicAuthCredentials lib req.authorization with _ | ⟨id, secret⟩
  · simp [Function.update, fields_token]
  · simp [Function.update, fields_token]

theorem oryErrorResponse_status (lib : Libraries) (err : OryClientError) :
    (oryErrorResponse lib err).status ≠ 200 := by
  cases err with
  | ory status message =>
      simp only [oryErrorResponse]
      split
      · rename_i hstatus
        rintro rfl
        simp at hstatus
      · simp
  | _ => simp [oryErrorResponse, internalError]

/-- A result that is not a response 200 in place of a client. -/
def NoSuccess {α : Type} (r : Except Response α) : Prop :=
  ∀ response, r = .error response → response.status ≠ 200

theorem noSuccess_error {α : Type} {response : Response} (h : response.status ≠ 200) :
    NoSuccess (.error response : Except Response α) := by
  intro response' heq
  obtain rfl := Except.error.inj heq
  exact h

theorem noSuccess_ok {α : Type} (a : α) : NoSuccess (.ok a) := by
  intro response heq
  simp at heq

/-- Nothing but a failure answers for a client that cannot be resolved. -/
theorem results_resolvePublicClient (st : Oauth2State) (clientId : String) :
    (resolvePublicClient st clientId).run.Before (fun _ _ => False) (fun _ => False) NoSuccess := by
  have hread : ∀ {α : Type} (op : GatewayOp), (Prog.attempt (Prog.perform (S := Gateway) op) :
      Handled _).run.Before (fun _ _ => False) (fun _ => False) fun r => (∀ a, r = .ok a → True) ∧
        ∀ e, r = .error e → NoSuccess (.error e : Except Response α) := by
    intro α op
    refine ⟨id, fun r _ => ⟨fun _ _ => trivial, fun e heq => ?_⟩⟩
    simp at heq
  unfold resolvePublicClient
  split
  · exact noSuccess_error (by simp [badRequest, errorWith])
  refine Prog.before_run_bind (hread _) fun r _ => ?_
  split
  · exact noSuccess_ok _
  · unfold healClientMapping
    refine Prog.before_run_bind (hread _) fun r _ => ?_
    split
    · exact noSuccess_error (by simp)
    · exact noSuccess_error (by simp [internalError])
    · exact Prog.before_run_bind (hread _) fun _ _ => noSuccess_ok _
  · exact noSuccess_error (by simp [internalError])

/-- The calls of resolving a client. -/
theorem calls_resolveRevocation (lib : Libraries) (st : Oauth2State) (req : FormRequest) :
    (resolveRevocation lib st req).run.Calls fun op : TokenOp => ∃ g, op = .gateway g := by
  unfold resolveRevocation
  split
  · trivial
  · refine Prog.calls_run_bind ?_ fun _ => trivial
    exact Prog.calls_translate (Prog.calls_true _) fun op _ => Prog.calls_perform ⟨op, rfl⟩

/-- The form of a revocation names its token, and no failure to resolve the client is a success. -/
theorem results_resolveRevocation (lib : Libraries) (st : Oauth2State) (req : FormRequest) :
    (resolveRevocation lib st req).run.Before (fun _ _ => False) (fun _ => False)
      fun r => NoSuccess r ∧ ∀ form, r = .ok form → form "token" = req.form "token" := by
  unfold resolveRevocation
  split
  · refine ⟨noSuccess_ok _, fun form heq => ?_⟩
    obtain rfl := Except.ok.inj heq
    exact fields_token lib req
  · refine Prog.before_run_bind (P := fun _ => True) ?_ fun oryId _ => ?_
    · refine (Prog.results_translate (results_resolvePublicClient _ _)).post fun r hr => ?_
      refine ⟨fun _ _ => trivial, fun e heq => ⟨noSuccess_error (hr e heq), fun form h => ?_⟩⟩
      simp at h
    · refine ⟨noSuccess_ok _, fun form heq => ?_⟩
      obtain rfl := Except.ok.inj heq
      exact revocationForm_token lib req oryId

/-- A revocation that answers 200 has revoked the token at Hydra. -/
theorem sat_revoke {req : FormRequest} (htoken : req.form "token" = some token) {i : ι}
    {s : Past TokenSig ι Choice TokenWorld} (hs : TokenRecorded env token s) :
    (revoke env.lib env.hashToken env.oauth2 req).Sat (sharedTokens ι env).traced
      ((tokenLedger ι env token).contract i)
      (fun response s' => response.status = 200 → Revoked token s'.2) s := by
  unfold revoke
  have hcalls : (resolveRevocation env.lib env.oauth2.toOauth2State req).run.Calls fun op =>
      ∀ (c : ι × Choice) s, (tokenLedger ι env token).promise op c s := by
    refine (calls_resolveRevocation _ _ _).mono ?_
    rintro _ ⟨g, rfl⟩ c s
    trivial
  refine Prog.sat_bind.mpr (((results_resolveRevocation _ _ _).sat
    (Ledger.sat_calls tokenLedger_sound hcalls hs)).post fun r s₁ h => ?_)
  obtain ⟨⟨hfail, hform⟩, hs₁, -⟩ := h
  rcases r with response | form
  · intro hstatus
    exact absurd hstatus (hfail response rfl)
  refine Prog.sat_bind.mpr (Ledger.sat_perform tokenLedger_sound hs₁ fun c s₂ hc hsuf hs₂ =>
    ⟨trivial, fun hs₂' => ?_⟩)
  rcases hanswer : (sharedTokens ι env (.revokeToken form) c s₂.1).1 with e | u
  · intro hstatus
    exact absurd hstatus (oryErrorResponse_status env.lib e)
  · obtain ⟨hfault, -⟩ := Fault.answer_ok hanswer
    have hrevoked : Revoked token ((sharedTokens ι env).traced (.revokeToken form) c s₂).2.2 :=
      ⟨_, List.mem_cons_self, form, rfl, (hform form rfl).trans htoken, hfault⟩
    have hclear : (clearCache env.hashToken env.oauth2 (req.form "token")).Calls fun op =>
        ∀ (c : ι × Choice) s, (tokenLedger ι env token).promise op c s := by
      rw [htoken]
      simp only [clearCache]
      split
      · exact Prog.calls_bind (Prog.calls_perform fun _ _ => trivial) fun _ => trivial
      · trivial
    refine Prog.sat_bind.mpr ((Ledger.sat_calls tokenLedger_sound hclear hs₂').post ?_)
    intro _ s₃ h _
    exact hrevoked.mono h.2

/-- What a program that has returned ends in. -/
def TokenPost (env : TokenEnv) (token : String) (i : ι) :
    TokenReply → Past TokenSig ι Choice TokenWorld → Prop
  | .introspection r, s => IntrospectionPost env.maxAge token i r s
  | .response response, s => response.status = 200 → Revoked token s.2

theorem TokenPost.mono {i : ι} {reply : TokenReply} {s s' : Past TokenSig ι Choice TokenWorld}
    (h : TokenPost env token i reply s) (hpast : s.2 <:+ s'.2) : TokenPost env token i reply s' := by
  cases reply with
  | introspection r =>
      intro result hresult hactive
      rcases h result hresult hactive with hbegun | hread
      · exact .inl (hbegun.mono hpast)
      · exact .inr (hread.mono hpast)
  | response response => exact fun hstatus => (h hstatus).mono hpast

end ledger

/-! ## Runs of the pool -/

section runs

variable {ι : Type} [DecidableEq ι] {env : TokenEnv} {token : String} {r : ι} {req : FormRequest}

/-- The pool on an empty cache. -/
abbrev tokenStart (env : TokenEnv) (token : String) (r : ι) (req : FormRequest) (base : World)
    (revoked : List String) : Pool TokenSig ι TokenReply TokenWorld :=
  tokenPool env token r req ⟨base, .empty, revoked⟩

variable {base : World} {revoked : List String}

omit [DecidableEq ι] in
theorem tokenRecorded_start :
    TokenRecorded env token ((⟨base, .empty, revoked⟩, []) : Past TokenSig ι Choice TokenWorld) where
  cached := fun _ hrow => absurd hrow List.not_mem_nil
  revoked := fun _ hev => absurd hev List.not_mem_nil

theorem sat_tokenPool (htoken : req.form "token" = some token) (i : ι) :
    ((tokenStart env token r req base revoked).threads i).Sat (sharedTokens ι env).traced
      ((tokenLedger ι env token).contract i) (TokenPost env token i)
      ((tokenStart env token r req base revoked).world, []) := by
  simp only [tokenPool]
  split
  · exact Prog.sat_map.mpr (sat_revoke htoken tokenRecorded_start)
  · exact Prog.sat_map.mpr (sat_introspect tokenRecorded_start)

/-- A program of the pool that has returned ends as it should. -/
theorem returned_tokenPool (htoken : req.form "token" = some token) (sched : List (ι × Choice))
    {i : ι} {reply : TokenReply}
    (hret : ((tokenStart env token r req base revoked).run (sharedTokens ι env) sched).Returned i reply) :
    TokenPost env token i reply (((tokenStart env token r req base revoked).run
      (sharedTokens ι env) sched).world, ((tokenStart env token r req base revoked).events
        (sharedTokens ι env) sched).reverse) :=
  Ledger.run_returned (L := tokenLedger ι env token) tokenLedger_sound
    (fun _ _ _ _ hpast _ h => h.mono hpast) (sat_tokenPool htoken) sched hret

/-- Along a schedule, tokens stay revoked. -/
theorem revoked_events {P : Pool TokenSig ι TokenReply TokenWorld} (sched : List (ι × Choice))
    (h : token ∈ P.world.revoked) :
    token ∈ (P.run (sharedTokens ι env) sched).world.revoked ∧
      ∀ ev ∈ P.events (sharedTokens ι env) sched, token ∈ ev.before.revoked :=
  (P.chained_events (sharedTokens ι env) sched).invariant (I := fun w => token ∈ w.revoked) h
    fun ev _ hrevoked => revoked_onward ev.op ev.choice ev.before hrevoked

/-- An event of a revocation without a fault is one after which the token is revoked. -/
theorem revoked_of_history {P : Pool TokenSig ι TokenReply TokenWorld} {sched : List (ι × Choice)}
    (h : Revoked token (P.events (sharedTokens ι env) sched).reverse) :
    token ∈ (P.run (sharedTokens ι env) sched).world.revoked := by
  obtain ⟨ev, hev, form, hop, hform, hfault⟩ := h
  obtain ⟨pre, post, hsplit⟩ := List.append_of_mem (List.mem_reverse.mp hev)
  have hchain := P.chained_events (sharedTokens ι env) sched
  rw [hsplit] at hchain
  obtain ⟨v, -, rfl, hpost⟩ := Chained.append.mp hchain
  refine (hpost.invariant (I := fun w => token ∈ w.revoked) ?_ ?_).1
  · obtain ⟨op, c, before⟩ := ev
    obtain rfl : op = _ := hop
    exact revoked_of_revokeToken hform hfault
  · exact fun ev _ hrevoked => revoked_onward ev.op ev.choice ev.before hrevoked

/-- **After a revocation.** Once a revocation has returned 200, the token is revoked at Hydra. From
then on an introspection that begins reports the token active only from an entry of the cache, not
older than `maxAge`, which a program begun before the revocation had written; and none that begins
later than `maxAge` after the last such write does. -/
theorem introspect_after_revoke (env : TokenEnv) (token : String) (r : ι) (req : FormRequest)
    (htoken : req.form "token" = some token) (base : World) (revoked : List String)
    (sched sched' : List (ι × Choice)) (j : ι) :
    (∀ response, ((tokenStart env token r req base revoked).run (sharedTokens ι env) sched).Returned r
        (.response response) → response.status = 200 →
      token ∈ ((tokenStart env token r req base revoked).run (sharedTokens ι env) sched).world.revoked) ∧
    (token ∈ ((tokenStart env token r req base revoked).run (sharedTokens ι env) sched).world.revoked →
      (∀ ev ∈ (tokenStart env token r req base revoked).events (sharedTokens ι env) sched,
        ev.choice.1 ≠ j) →
      ∀ result, ((tokenStart env token r req base revoked).run (sharedTokens ι env)
          (sched ++ sched')).Returned j (.introspection (.ok result)) → result.active = true →
        ReadFromCache env.maxAge token j ((tokenStart env token r req base revoked).events
            (sharedTokens ι env) (sched ++ sched')).reverse ∧
        ¬ ∀ put ∈ (tokenStart env token r req base revoked).events (sharedTokens ι env)
            (sched ++ sched'), ∀ row, Event.Writes put row →
          BegunBefore token put.choice.1 ((tokenStart env token r req base revoked).events
            (sharedTokens ι env) (sched ++ sched')).reverse →
          ∀ get ∈ (tokenStart env token r req base revoked).events (sharedTokens ι env)
              (sched ++ sched'), get.choice.1 = j →
            put.choice.2.now + env.maxAge < get.choice.2.now) := by
  refine ⟨fun response hret hstatus => ?_, fun hrevoked hnew result hret hactive => ?_⟩
  · exact revoked_of_history (returned_tokenPool htoken sched hret hstatus)
  · have hread : ReadFromCache env.maxAge token j ((tokenStart env token r req base revoked).events
        (sharedTokens ι env) (sched ++ sched')).reverse := by
      rcases returned_tokenPool htoken (sched ++ sched') hret result rfl hactive with hbegun | hread
      · -- a call of its own before the revocation would be one before it began
        obtain ⟨ev, hev, hj, hactive⟩ := hbegun
        rw [List.mem_reverse, Pool.events_append] at hev
        rcases List.mem_append.mp hev with hev | hev
        · exact absurd hj (hnew ev hev)
        · exact absurd ((revoked_events sched' hrevoked).2 ev hev) hactive
      · exact hread
    refine ⟨hread, fun hlate => ?_⟩
    obtain ⟨later, get, earlier, hsplit, hj, put, hput, row, hwrites, -, hage, hbegun⟩ := hread
    have hmem : ∀ ev, ev ∈ later ++ get :: earlier → ev ∈ (tokenStart env token r req base revoked).events
        (sharedTokens ι env) (sched ++ sched') := by
      intro ev hev
      rw [← hsplit, List.mem_reverse] at hev
      exact hev
    have hget := hmem get (List.mem_append_right _ List.mem_cons_self)
    have hwrite := hmem put (List.mem_append_right _ (List.mem_cons_of_mem _ hput))
    have := hlate put hwrite row hwrites hbegun get hget hj
    omega

end runs

/-! ## A token that stays active -/

/-- The application as it is wired, with a cache of a minute. -/
def wiredEnv : TokenEnv where
  gateway := .firstRow
  lib := ⟨fun _ => .error "", fun _ => none, fun _ => none, fun _ => ""⟩
  hashToken := id
  maxAge := 60
  oauth2 := Oauth2State.wired ⟨"system", true, false, 0⟩

/-- The revocation of a token. -/
def revocationOfToken : FormRequest := ⟨none, fun k => if k = "token" then some "token" else none⟩

/-- Program 0 introspects the token, then program 1 revokes it. -/
def introspectThenRevoke : List (Fin 3 × Choice) :=
  let active : Choice := { Choice.plain "" 10 with doc := .obj [("active", .bool true)] }
  [(0, active), (0, active), (0, active), (1, active)]

/-- Program 2 introspects the token, half a minute later. -/
def introspectAgain : List (Fin 3 × Choice) := [(2, .plain "" 40)]

/-- The pool of the three. -/
abbrev revokedPool : Pool TokenSig (Fin 3) TokenReply TokenWorld :=
  tokenStart wiredEnv "token" 1 revocationOfToken (World.empty []) []

/-- Program 2 has not begun before the revocation has ended. -/
theorem introspectAgain_new : ∀ ev ∈ revokedPool.events (sharedTokens (Fin 3) wiredEnv)
    introspectThenRevoke, ev.choice.1 ≠ 2 := by
  have hothers : ∀ c ∈ introspectThenRevoke, c.1 ≠ 2 := by
    intro c hc
    simp only [introspectThenRevoke, List.mem_cons, List.not_mem_nil, or_false] at hc
    rcases hc with rfl | rfl | rfl | rfl <;> decide
  intro ev hev
  exact hothers _ (Pool.choice_of_mem_events _ hev)

/-- After the revocation has returned 200, and without any overlap, the token is reported active. -/
theorem active_after_revoke :
    ((revokedPool.run (sharedTokens (Fin 3) wiredEnv) introspectThenRevoke).Returned 1
      (.response ⟨200, .empty, none, []⟩)) ∧
    (∀ ev ∈ revokedPool.events (sharedTokens (Fin 3) wiredEnv) introspectThenRevoke,
      ev.choice.1 ≠ 2) ∧
    (revokedPool.run (sharedTokens (Fin 3) wiredEnv) (introspectThenRevoke ++ introspectAgain)).Returned 2
      (.introspection (.ok ⟨⟨true, none, [], []⟩, none⟩)) :=
  ⟨rfl, introspectAgain_new, rfl⟩

/-- In that run, the answer comes from the entry written before the revocation. -/
theorem introspect_after_revoke_stale :
    ReadFromCache 60 "token" 2 (revokedPool.events (sharedTokens (Fin 3) wiredEnv)
      (introspectThenRevoke ++ introspectAgain)).reverse := by
  obtain ⟨hrevoked, hanswers⟩ := introspect_after_revoke wiredEnv "token" 1 revocationOfToken rfl
    (World.empty []) [] introspectThenRevoke introspectAgain 2
  exact (hanswers (hrevoked _ rfl rfl) introspectAgain_new _ rfl rfl).1

end SsoGateway
