import Mathlib.Data.Nat.Notation

/-!
# Errors

The error types of the stores, of the Ory clients, of the permission backend and of the services,
with the conversions between them. A failure the environment injects into a call is a `Fault`:
the call reports an error, and its effect may nevertheless have taken place (the answer was lost)
or not.
-/

namespace SsoGateway

/-- The errors of the stores. Source: `db/error.rs` `DbError` (the variants of the stores modelled
here). -/
inductive DbError where
  /-- Whatever the driver reports: a refused constraint, a lost connection. -/
  | sqlx (message : String)
  | missingSystemTenant
  | tenantNotFound
  | mappingNotFound
  | schemaNotFound
  | membershipNotFound
  | tupleNotFound
  | samlProviderNotFound
  | samlRequestNotFound
  | samlRequestReplay
  | samlIdentityMappingNotFound
  | samlNameIdMappingNotFound
  | encryptionKeyMissing
  | samlIdpKeyNotFound
  | samlSpClientNotFound
  | connectionNotFound
  | domainNotFound
  | domainNotVerified
  | loginStateNotFound
  | namespaceTypeConflict (type : String)
  | agentNotFound
  | agentDelegationNotFound
  | applicationNotFound
deriving DecidableEq, Repr

/-- The display text of a store error. Source: `db/error.rs` (`#[error(…)]`). -/
def DbError.toText : DbError → String
  | .sqlx message => "sqlx error: " ++ message
  | .missingSystemTenant => "missing system tenant"
  | .tenantNotFound => "tenant not found"
  | .mappingNotFound => "id mapping not found"
  | .schemaNotFound => "identity schema not found"
  | .membershipNotFound => "tenant membership not found"
  | .tupleNotFound => "permission tuple not found"
  | .samlProviderNotFound => "saml provider not found"
  | .samlRequestNotFound => "saml request not found"
  | .samlRequestReplay => "saml request replay detected"
  | .samlIdentityMappingNotFound => "saml identity mapping not found"
  | .samlNameIdMappingNotFound => "saml nameid mapping not found"
  | .encryptionKeyMissing => "encryption key missing or invalid"
  | .samlIdpKeyNotFound => "saml idp key not found"
  | .samlSpClientNotFound => "saml service provider client not found"
  | .connectionNotFound => "connection not found"
  | .domainNotFound => "domain not found"
  | .domainNotVerified => "domain not verified"
  | .loginStateNotFound => "login state not found or expired"
  | .namespaceTypeConflict type => "permission namespace type already registered: " ++ type
  | .agentNotFound => "agent not found"
  | .agentDelegationNotFound => "agent delegation not found"
  | .applicationNotFound => "application not found"

/-- The errors of the Hydra and Kratos clients. Source: `ory-client` `OryClientError`. -/
inductive OryClientError where
  | http (message : String)
  | serialization (message : String)
  | url (message : String)
  | ory (status : ℕ) (message : String)
  /-- The authorization endpoint answered with a redirect. -/
  | redirect (location : String) (setCookies : List String)
  | missingTenant
  | invalidResponse (message : String)
deriving DecidableEq, Repr

/-- The display text of an Ory client error. -/
def OryClientError.toText : OryClientError → String
  | .http message => "http request failed: " ++ message
  | .serialization message => "serialization failed: " ++ message
  | .url message => "url construction failed: " ++ message
  | .ory status message => "ory returned error: " ++ toString status ++ " " ++ message
  | .redirect location _ => "ory returned redirect: " ++ location
  | .missingTenant => "missing tenant context"
  | .invalidResponse message => "invalid response from ory: " ++ message

/-- The errors of a service call. Source: `sunbeam_g2v::error::ServiceError`. -/
inductive ServiceError where
  | invalidArgument (message : String)
  | unauthenticated (message : String)
  | permissionDenied (message : String)
  | notFound (message : String)
  | alreadyExists (message : String)
  | unavailable (message : String)
  | internal (message : String)
  | database (message : String)
  | serialization (message : String)
  | configuration (message : String)
deriving DecidableEq, Repr

/-- Source: `db/error.rs` `From<DbError> for ServiceError`. -/
def ServiceError.ofDbError : DbError → ServiceError
  | .sqlx message => .database message
  | .missingSystemTenant => .internal "missing system tenant"
  | .tenantNotFound => .notFound "tenant not found"
  | .mappingNotFound => .notFound "id mapping not found"
  | .schemaNotFound => .notFound "identity schema not found"
  | .membershipNotFound => .notFound "tenant membership not found"
  | .tupleNotFound => .notFound "permission tuple not found"
  | .samlProviderNotFound => .notFound "saml provider not found"
  | .samlRequestNotFound => .notFound "saml request not found"
  | .samlRequestReplay => .invalidArgument "saml request replay detected"
  | .samlIdentityMappingNotFound => .notFound "saml identity mapping not found"
  | .samlNameIdMappingNotFound => .notFound "saml nameid mapping not found"
  | .encryptionKeyMissing => .configuration "encryption key missing or invalid"
  | .samlIdpKeyNotFound => .notFound "saml idp key not found"
  | .samlSpClientNotFound => .notFound "saml service provider client not found"
  | .connectionNotFound => .notFound "connection not found"
  | .domainNotFound => .notFound "domain not found"
  | .domainNotVerified => .notFound "domain not verified"
  | .loginStateNotFound => .notFound "login state not found or expired"
  | .namespaceTypeConflict type =>
      .alreadyExists ("permission namespace type already registered: " ++ type)
  | .agentNotFound => .notFound "agent not found"
  | .agentDelegationNotFound => .notFound "agent delegation not found"
  | .applicationNotFound => .notFound "application not found"

/-- The service error of an HTTP status of an Ory backend; every `map_ory_error` begins so. -/
def ServiceError.ofStatus (status : ℕ) (message : String) : ServiceError :=
  match status with
  | 400 => .invalidArgument message
  | 401 => .unauthenticated message
  | 403 => .permissionDenied message
  | 404 => .notFound message
  | 409 => .alreadyExists message
  | 503 => .unavailable message
  | _ => .internal message

/-- Source: `map_ory_error` of `services/application.rs`, `identity.rs`, `agent.rs`,
`client_credential.rs`, `scim.rs` and `identity_provisioner.rs`. -/
def mapOryError : OryClientError → ServiceError
  | .ory status message => .ofStatus status message
  | .http message => .unavailable message
  | .serialization message => .serialization message
  | .url message => .configuration message
  | .invalidResponse message => .internal message
  | .missingTenant => .unauthenticated "missing tenant context"
  | .redirect _ _ => .internal "unexpected redirect"

/-- The conversion of the services that do not show what went wrong on the way to the backend. -/
def mapUpstreamError (unreachable : String) : OryClientError → ServiceError
  | .ory status message => .ofStatus status message
  | .http _ => .unavailable unreachable
  | .url _ => .unavailable unreachable
  | .serialization _ => .internal "invalid upstream response"
  | .invalidResponse _ => .internal "invalid upstream response"
  | .missingTenant => .unauthenticated "missing tenant"
  | .redirect _ _ => .internal "unexpected redirect"

/-- Source: `map_ory_error` of `services/identity_self_service.rs`. -/
def mapSelfServiceOryError : OryClientError → ServiceError :=
  mapUpstreamError "upstream identity service unreachable"

/-- The errors of a permission backend, by their display text.
Source: `services/permission.rs` `PermissionBackendError`. -/
structure PermissionBackendError where
  text : String
deriving DecidableEq, Repr

/-- Source: `services/permission.rs` `From<OryClientError> for PermissionBackendError`. -/
def PermissionBackendError.ofOryClientError : OryClientError → PermissionBackendError
  | .ory status message => ⟨"ory backend error: " ++ toString status ++ " " ++ message⟩
  | .http message => ⟨"backend unavailable: " ++ message⟩
  | .serialization message => ⟨"serialization: " ++ message⟩
  | .url message => ⟨"configuration: " ++ message⟩
  | .invalidResponse message => ⟨"backend unavailable: " ++ message⟩
  | .missingTenant => ⟨"configuration: missing tenant context"⟩
  | .redirect _ _ => ⟨"backend unavailable: unexpected redirect"⟩

/-! ## Faults -/

/-- A failure of one request to a store or a backend. -/
structure Fault where
  /-- The effect took place although the answer is an error. -/
  applied : Bool
  /-- What the client library reports. -/
  error : OryClientError
deriving DecidableEq, Repr

/-- The outcome of a request under a possible fault: without one, what the request does; with one,
the reported error, and the effect only where it was applied. -/
def Fault.answer {ε α W : Type} (report : OryClientError → ε) (w : W) (r : Except ε α × W) :
    Option Fault → Except ε α × W
  | none => r
  | some f => (.error (report f.error), if f.applied then r.2 else w)

section fault

variable {ε α W : Type} {report : OryClientError → ε} {w : W} {r : Except ε α × W}

@[simp] theorem Fault.answer_none : Fault.answer report w r none = r := rfl

/-- A faulty request has the effect of the request or none. -/
theorem Fault.answer_snd (f : Option Fault) :
    (Fault.answer report w r f).2 = w ∨ (Fault.answer report w r f).2 = r.2 := by
  cases f with
  | none => exact .inr rfl
  | some f =>
      unfold Fault.answer
      by_cases h : f.applied
      · exact .inr (by simp [h])
      · exact .inl (by simp [h])

/-- A request that changes nothing answers as it should, or with the reported error. -/
theorem Fault.answer_read (f : Option Fault) {a : Except ε α} :
    Fault.answer report w (a, w) f = (a, w) ∨
      ∃ e, f.isSome ∧ Fault.answer report w (a, w) f = (.error (report e), w) := by
  cases f with
  | none => exact .inl rfl
  | some f => exact .inr ⟨f.error, rfl, by simp [Fault.answer]⟩

/-- Only a request without a fault succeeds. -/
theorem Fault.answer_ok {f : Option Fault} {a : α}
    (h : (Fault.answer report w r f).1 = .ok a) : f = none ∧ r.1 = .ok a := by
  cases f with
  | none => exact ⟨rfl, h⟩
  | some f => exact absurd h (by simp [Fault.answer])

end fault

/-- The error a store reports for a fault. -/
def Fault.sqlx (e : OryClientError) : DbError := .sqlx e.toText

end SsoGateway
