import SsoGateway.FlowNames

/-!
# The answer to a failed submission

Kratos answers a failed submission with the document of the flow, which has the flow's id in it, and again in
its URLs. The document is passed on with the name of the flow, or without any of them.

* `DocumentNamed`, `DocumentHidden` — the document with the name, and the one without.
* `ErrorNamed` — the error that is passed on.
* `sat_scrubFlowIdInErrorBody` — it comes out of the step.

A URL that could not be renamed stays as it was. Source: `services/identity_self_service.rs`.
-/

namespace SsoGateway

open Lib

/-! ## Documents -/

/-- A name could not be made. -/
def NamingFailed (past : List (Reply FlowSig)) : Prop :=
  ∃ K e err, FlowOp.reply (.transient (.create K e)) (.error err) ∈ past

/-- A field of a document: the names of its URL, unless one could not be made. Other values stay. -/
structure TextNamed (urls : UrlLibrary) (past : List (Reply FlowSig)) (t : String) (v v' : Option Value) :
    Prop where
  url : ∀ url, v = some (.str url) → ∃ url', v' = some (.str url') ∧
    (UrlNamed urls past t url url' ∨ url' = url ∧ NamingFailed past)
  other : (∀ url, v ≠ some (.str url)) → v' = v

theorem NamingFailed.mono {past past' : List (Reply FlowSig)} (hsub : past ⊆ past') (h : NamingFailed past) :
    NamingFailed past' := by
  obtain ⟨K, e, err, hmem⟩ := h
  exact ⟨K, e, err, hsub hmem⟩

theorem TextNamed.mono {urls : UrlLibrary} {past past' : List (Reply FlowSig)} {t : String} {v v' : Option Value}
    (hsub : past ⊆ past') (h : TextNamed urls past t v v') : TextNamed urls past' t v v' where
  url url hurl := by
    obtain ⟨url', hv', hnamed | ⟨hsame, hfailed⟩⟩ := h.url url hurl
    · exact ⟨url', hv', .inl (hnamed.mono hsub)⟩
    · exact ⟨url', hv', .inr ⟨hsame, hfailed.mono hsub⟩⟩
  other := h.other

/-- A field that is neither the id nor a URL of the flow. -/
def OtherField (doc : Value) (key : String) : Prop :=
  key ≠ "id" ∧ key ≠ "request_url" ∧ (key = "ui" → ∀ fields, doc.get "ui" ≠ some (.obj fields))

/-- The document of a flow, with the name of the flow. -/
structure DocumentNamed (urls : UrlLibrary) (past : List (Reply FlowSig)) (t p : String) (doc doc' : Value) :
    Prop where
  id : doc'.get "id" = some (.str p)
  requestUrl : TextNamed urls past t (doc.get "request_url") (doc'.get "request_url")
  action : ∀ fields, doc.get "ui" = some (.obj fields) → ∃ ui', doc'.get "ui" = some ui' ∧
    TextNamed urls past t (fields.lookup "action") (ui'.get "action") ∧
    ∀ key ≠ "action", ui'.get key = fields.lookup key
  others : ∀ key, OtherField doc key → doc'.get key = doc.get key

/-- The document of a flow, without anything that names the flow. -/
structure DocumentHidden (doc doc' : Value) : Prop where
  id : doc'.get "id" = some (.str "")
  requestUrl : doc'.get "request_url" = none
  action : ∀ fields, doc.get "ui" = some (.obj fields) → ∃ ui', doc'.get "ui" = some ui' ∧
    ui'.get "action" = none ∧ ∀ key ≠ "action", ui'.get key = fields.lookup key
  others : ∀ key, OtherField doc key → doc'.get key = doc.get key

theorem get_insert_self {doc v : Value} {key : String} (h : doc.get key = some v) (x : Value) :
    (doc.insert key x).get key = some x := by
  cases doc with
  | obj fields => exact Value.lookup_upsert_self key _ fields
  | _ => cases h

theorem lookup_removeKey_self (key : String) (fields : List (String × Value)) :
    (fields.filter fun field => field.1 ≠ key).lookup key = none := by
  refine List.lookup_eq_none_iff.mpr fun field hfield => ?_
  have hne := (List.mem_filter.mp hfield).2
  simp only [ne_eq, decide_eq_true_eq] at hne
  exact bne_iff_ne.mpr (Ne.symm hne)

theorem lookup_removeKey_of_ne {key key' : String} (hne : key' ≠ key) (fields : List (String × Value)) :
    (fields.filter fun field => field.1 ≠ key).lookup key' = fields.lookup key' := by
  induction fields with
  | nil => rfl
  | cons field fields ih =>
      obtain ⟨k, v⟩ := field
      by_cases hkey : k = key
      · have hbeq : (key' == k) = false := beq_false_of_ne (hkey ▸ hne)
        rw [List.filter_cons_of_neg (by simp [hkey]), ih, List.lookup_cons, hbeq]
      · rw [List.filter_cons_of_pos (by simp [hkey]), List.lookup_cons, List.lookup_cons, ih]

/-- What is left of a document without a key. -/
theorem get_removeKey (key key' : String) (doc : Value) :
    (removeKey key doc).get key' = if key' = key then none else doc.get key' := by
  cases doc with
  | obj fields =>
      split
      · subst key'
        exact lookup_removeKey_self _ _
      · exact lookup_removeKey_of_ne ‹_› _
  | _ => split <;> rfl

/-- The document without id and URLs. -/
theorem documentHidden_of_id {doc v : Value} (hid : doc.get "id" = some v) :
    DocumentHidden doc (dropAction (removeKey "request_url" (doc.insert "id" (.str "")))) := by
  have hget : ∀ key, key ≠ "id" → key ≠ "request_url" →
      (removeKey "request_url" (doc.insert "id" (.str ""))).get key = doc.get key := by
    intro key hkey hurl
    rw [get_removeKey, if_neg hurl, Value.get_insert_of_ne hkey]
  have hui := hget "ui" (by decide) (by decide)
  have hempty : (removeKey "request_url" (doc.insert "id" (.str ""))).get "id" = some (.str "") := by
    rw [get_removeKey, if_neg (by decide), get_insert_self hid]
  have hnone : (removeKey "request_url" (doc.insert "id" (.str ""))).get "request_url" = none := by
    rw [get_removeKey, if_pos rfl]
  generalize removeKey "request_url" (doc.insert "id" (.str "")) = left at hget hui hempty hnone ⊢
  unfold dropAction
  split
  · rename_i fields hfields
    have hsome := hui.symm.trans hfields
    refine ⟨?_, ?_, fun fields' hfields' => ?_, fun key hkey => ?_⟩
    · rw [Value.get_insert_of_ne (by decide), hempty]
    · rw [Value.get_insert_of_ne (by decide), hnone]
    · obtain rfl := Value.obj.inj (Option.some.inj (hsome.symm.trans hfields'))
      refine ⟨_, get_insert_self hfields _, ?_, fun key hkey => ?_⟩
      · rw [get_removeKey, if_pos rfl]
      · rw [get_removeKey, if_neg hkey]
        rfl
    · have hne : key ≠ "ui" := fun h => hkey.2.2 h fields hsome
      rw [Value.get_insert_of_ne hne, hget key hkey.1 hkey.2.1]
  · rename_i hother
    refine ⟨hempty, hnone, fun fields hfields => ?_, fun key hkey => hget key hkey.1 hkey.2.1⟩
    exact absurd (hui.trans hfields) (hother fields)

/-! ## The step -/

section step

variable {state : IdentitySelfService} {request : FlowRequest} {past past' : List (Reply FlowSig)} {t : String}

theorem fails_publicToken (K : TransientKey) : (publicToken K).run.Sat (scripted FlowSig)
    (Answering (FlowPromise request)) (fun r past' => ∀ e, r = .error e → NamingFailed past') past := by
  unfold publicToken transientExpiry
  refine Prog.sat_run_bind.mpr (Prog.sat_run_attempt.mpr (Prog.sat_bind.mpr ?_))
  refine Prog.answering_perform trivial fun now => ?_
  refine Prog.sat_run_orThrow.mpr (Prog.answering_perform trivial fun r e he => ?_)
  cases r with
  | ok p => cases he
  | error err => exact ⟨K, _, err, List.mem_cons_self⟩

theorem fails_scrubPairs (pairs : List (String × String)) : (scrubPairs t pairs).run.Sat (scripted FlowSig)
    (Answering (FlowPromise request)) (fun r past' => ∀ e, r = .error e → NamingFailed past') past := by
  induction pairs generalizing past with
  | nil =>
      intro e he
      cases he
  | cons pair pairs ih =>
      have hpair : (scrubPair t pair).run.Sat (scripted FlowSig) (Answering (FlowPromise request))
          (fun r past' => ∀ e, r = .error e → NamingFailed past') past := by
        unfold scrubPair
        split
        · refine Prog.sat_run_bind.mpr ((fails_publicToken _).post fun r past' hr => ?_)
          cases r with
          | ok p => intro e he; cases he
          | error err => exact fun e _ => hr err rfl
        · intro e he
          cases he
      refine Prog.sat_run_bind.mpr (hpair.post fun r past₁ hr => ?_)
      cases r with
      | error err => exact fun e _ => hr err rfl
      | ok pair' =>
      refine Prog.sat_run_bind.mpr (ih.post fun r past₂ hr => ?_)
      cases r with
      | error err => exact fun e _ => hr err rfl
      | ok pairs' =>
      intro e he
      cases he

/-- A URL that need not be one is only refused if a name could not be made. -/
theorem fails_scrubFlowIdInUrl (urls : UrlLibrary) (value : String) :
    (scrubFlowIdInUrl urls t value false).run.Sat (scripted FlowSig) (Answering (FlowPromise request))
      (fun r past' => ∀ e, r = .error e → NamingFailed past') past := by
  unfold scrubFlowIdInUrl
  split
  · intro e he
    cases he
  · split
    · refine Prog.sat_run_bind.mpr ((fails_scrubPairs _).post fun r past' hr => ?_)
      cases r with
      | ok pairs => intro e he; cases he
      | error err => exact fun e _ => hr err rfl
    · intro e he
      cases he

/-- A field of a document. -/
theorem sat_scrubField (key : String) (doc : Value) : (scrubField state t key doc).Sat (scripted FlowSig)
    (Answering (FlowPromise request)) (fun doc' past' => past ⊆ past' ∧
      TextNamed state.urls past' t (doc.get key) (doc'.get key) ∧ ∀ key' ≠ key, doc'.get key' = doc.get key')
    past := by
  refine Prog.answering_grows ?_
  unfold scrubField
  cases hget : doc.get key with
  | none => exact ⟨⟨fun url h => (by cases h), fun _ => hget⟩, fun _ _ => rfl⟩
  | some v =>
  cases v with
  | str url =>
      refine Prog.sat_bind.mpr ((Prog.Sat.and (adds_scrubFlowIdInUrl state.urls url false)
        (fails_scrubFlowIdInUrl state.urls url)).post fun r past' hr => ?_)
      obtain ⟨hadds, hfails⟩ := hr
      cases r with
      | ok url' =>
          refine ⟨⟨fun u hu => ?_, fun h => absurd rfl (h url)⟩, fun key' hne =>
            Value.get_insert_of_ne hne _ _⟩
          obtain rfl := Value.str.inj (Option.some.inj hu)
          exact ⟨url', get_insert_self hget _, .inl hadds.2⟩
      | error e =>
          refine ⟨⟨fun u hu => ?_, fun _ => hget⟩, fun _ _ => rfl⟩
          obtain rfl := Value.str.inj (Option.some.inj hu)
          exact ⟨url, hget, .inr ⟨rfl, hfails e rfl⟩⟩
  | _ => exact ⟨⟨fun url h => (by cases h), fun _ => hget⟩, fun _ _ => rfl⟩

/-- The form of a document. -/
theorem sat_scrubAction (doc : Value) : (scrubAction state t doc).Sat (scripted FlowSig)
    (Answering (FlowPromise request)) (fun doc' past' => past ⊆ past' ∧
      (∀ fields, doc.get "ui" = some (.obj fields) → ∃ ui', doc'.get "ui" = some ui' ∧
        TextNamed state.urls past' t (fields.lookup "action") (ui'.get "action") ∧
        ∀ key ≠ "action", ui'.get key = fields.lookup key) ∧
      ∀ key, (key = "ui" → ∀ fields, doc.get "ui" ≠ some (.obj fields)) → doc'.get key = doc.get key)
    past := by
  refine Prog.answering_grows ?_
  unfold scrubAction
  split
  · rename_i fields hfields
    refine Prog.sat_bind.mpr ((sat_scrubField "action" (.obj fields)).post fun ui' past' hr => ?_)
    obtain ⟨-, htext, hothers⟩ := hr
    refine ⟨fun fields' hfields' => ?_, fun key hkey => ?_⟩
    · obtain rfl := Value.obj.inj (Option.some.inj (hfields.symm.trans hfields'))
      exact ⟨ui', get_insert_self hfields _, htext, hothers⟩
    · exact Value.get_insert_of_ne (fun h => hkey h fields hfields) _ _
  · rename_i hother
    exact ⟨fun fields hfields => absurd hfields (hother fields), fun _ _ => rfl⟩

/-- What becomes of the document of a flow: the flow has a name, and is called by it, or it is left out. -/
def DocumentScrubbed (urls : UrlLibrary) (past : List (Reply FlowSig)) (t rawId : String) (doc doc' : Value) :
    Prop :=
  (∃ p, FlowOp.reply (.transient (.getPublicToken (flowKeyOf t rawId))) (.ok p) ∈ past ∧
    DocumentNamed urls past t p doc doc') ∨
  (∃ err, FlowOp.reply (.transient (.getPublicToken (flowKeyOf t rawId))) (.error err) ∈ past) ∧
    DocumentHidden doc doc'

theorem flowDocument_eq_some {doc : Value} {rawId : String} (h : flowDocument doc = some rawId) :
    doc.get "id" = some (.str rawId) := by
  unfold flowDocument at h
  obtain ⟨fields, -, h⟩ := Option.bind_eq_some_iff.mp h
  obtain ⟨id, hid, h⟩ := Option.bind_eq_some_iff.mp h
  obtain ⟨raw, hraw, h⟩ := Option.bind_eq_some_iff.mp h
  obtain ⟨ui, -, rfl⟩ := Option.map_eq_some_iff.mp h
  rw [hid]
  cases id with
  | str s => exact congrArg (fun s => some (Value.str s)) (Option.some.inj hraw)
  | _ => cases hraw

theorem sat_scrubFlowDocument {rawId : String} {doc : Value} (hdoc : flowDocument doc = some rawId) :
    (scrubFlowDocument state t rawId doc).Sat (scripted FlowSig) (Answering (FlowPromise request))
      (fun doc' past' => DocumentScrubbed state.urls past' t rawId doc doc') past := by
  have hid := flowDocument_eq_some hdoc
  unfold scrubFlowDocument
  refine Prog.sat_bind.mpr (Prog.answering_perform trivial fun r => ?_)
  cases r with
  | error err => exact .inr ⟨⟨err, List.mem_cons_self⟩, documentHidden_of_id hid⟩
  | ok p =>
  refine Prog.sat_bind.mpr ((sat_scrubField "request_url" (doc.insert "id" (.str p))).post
    fun doc₁ past₁ hr => ?_)
  obtain ⟨hsub₁, hrequest, hothers₁⟩ := hr
  refine (sat_scrubAction doc₁).post fun doc₂ past₂ hr => ?_
  obtain ⟨hsub₂, haction, hothers₂⟩ := hr
  have hui : doc₁.get "ui" = doc.get "ui" := by
    rw [hothers₁ "ui" (by decide), Value.get_insert_of_ne (by decide)]
  have hknown := hsub₂ (hsub₁ List.mem_cons_self)
  refine .inl ⟨p, hknown, ⟨?_, ?_, fun fields hfields => ?_, fun key hkey => ?_⟩⟩
  · rw [hothers₂ "id" (fun h => absurd h (by decide)), hothers₁ "id" (by decide), get_insert_self hid]
  · rw [hothers₂ "request_url" (fun h => absurd h (by decide))]
    rw [Value.get_insert_of_ne (by decide)] at hrequest
    exact hrequest.mono hsub₂
  · exact haction fields (hui.trans hfields)
  · rw [hothers₂ key fun h fields hfields => hkey.2.2 h fields (hui.symm.trans hfields),
      hothers₁ key hkey.2.1, Value.get_insert_of_ne hkey.1]

/-- What is passed on of an error: that of a flow with its document scrubbed, any other as it came. -/
structure ErrorNamed (state : IdentitySelfService) (past : List (Reply FlowSig)) (t : String)
    (err err' : OryClientError) : Prop where
  document : ∀ status message body rawId, err = .ory status message → state.parseJson message = some body →
    flowDocument body = some rawId → ∃ body', err' = .ory status (state.jsonText body') ∧
      DocumentScrubbed state.urls past t rawId body body'
  other : (∀ status message body, err = .ory status message → state.parseJson message = some body →
    flowDocument body = none) → err' = err

/-- **The error that is passed on.** -/
theorem sat_scrubFlowIdInErrorBody (err : OryClientError) : (scrubFlowIdInErrorBody state t err).Sat
    (scripted FlowSig) (Answering (FlowPromise request)) (fun err' past' => ErrorNamed state past' t err err')
    past := by
  unfold scrubFlowIdInErrorBody
  split
  · rename_i status message
    split
    · rename_i hparse
      refine ⟨fun _ _ body _ herr hbody => ?_, fun _ => rfl⟩
      obtain ⟨rfl, rfl⟩ := OryClientError.ory.inj herr
      rw [hparse] at hbody
      cases hbody
    · rename_i body hparse
      split
      · rename_i hdoc
        refine ⟨fun _ _ body' rawId herr hbody hdoc' => ?_, fun _ => rfl⟩
        obtain ⟨rfl, rfl⟩ := OryClientError.ory.inj herr
        obtain rfl := Option.some.inj (hparse.symm.trans hbody)
        rw [hdoc] at hdoc'
        cases hdoc'
      · rename_i rawId hdoc
        refine Prog.sat_bind.mpr ((sat_scrubFlowDocument hdoc).post fun body' past' hscrubbed => ?_)
        refine ⟨fun _ _ body₀ rawId₀ herr hbody hdoc' => ?_, fun hother => ?_⟩
        · obtain ⟨rfl, rfl⟩ := OryClientError.ory.inj herr
          obtain rfl := Option.some.inj (hparse.symm.trans hbody)
          obtain rfl := Option.some.inj (hdoc.symm.trans hdoc')
          exact ⟨body', rfl, hscrubbed⟩
        · have hnone := hother status message body rfl hparse
          rw [hdoc] at hnone
          cases hnone
  · rename_i hother
    exact ⟨fun status message _ _ herr => absurd herr (hother status message), fun _ => rfl⟩

end step

end SsoGateway
