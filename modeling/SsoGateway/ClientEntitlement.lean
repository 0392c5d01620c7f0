import SsoGateway.Gateway

/-!
# Whose client is it?

The shared resolution of an OAuth2 client to its ownership state, seen from a tenant. The login
gate and the consent gate both decide on its result.

* `ClientEntitlement` — the four states.
* `resolveClientEntitlement` — the resolution, as the sequence of lookups the source makes.

Source: `services/client_entitlement.rs`.
-/

namespace SsoGateway

open Lib

/-- Ownership of an OAuth2 client relative to a tenant. Source: `ClientEntitlement`. -/
inductive ClientEntitlement where
  /-- Resolved in the caller's tenant with an `applications` row. Source: `Local`. -/
  | localClient (publicId : String) (source : RegistrationSource)
  /-- Owned by another tenant, where its `applications` row is. -/
  | crossTenantOwned (publicId ownerTenant : String) (crossTenant : Bool)
  /-- Mapped, but with no `applications` row anywhere. -/
  | provisional (publicId ownerTenant : String)
  /-- No mapping anywhere. -/
  | unmapped
deriving DecidableEq, Repr

/-- Source: `ClientEntitlement::public_id`. -/
def ClientEntitlement.publicId : ClientEntitlement → Option String
  | .localClient publicId _ => some publicId
  | .crossTenantOwned publicId _ _ => some publicId
  | .provisional publicId _ => some publicId
  | .unmapped => none

/-- Source: `ClientEntitlement::is_first_use_eligible`. -/
def ClientEntitlement.isFirstUseEligible : ClientEntitlement → Bool
  | .localClient _ source => source = .dcr
  | .provisional _ _ => true
  | .crossTenantOwned _ _ _ => false
  | .unmapped => false

/-- Source: `classify_owned`. -/
def classifyOwned (tenantId ownerTenant publicId : String) :
    Prog Gateway (Except DbError ClientEntitlement) := do
  match ← ApplicationStore.getByPublicId publicId with
  | .ok row =>
      if row.tenantId = tenantId then
        return .ok (.localClient publicId row.registrationSource)
      else
        return .ok (.crossTenantOwned publicId row.tenantId row.crossTenant)
  | .error .applicationNotFound => return .ok (.provisional publicId ownerTenant)
  | .error err => return .error err

/-- Source: `resolve_client_entitlement`. -/
def resolveClientEntitlement (tenantId oryClientId : String) :
    Prog Gateway (Except DbError ClientEntitlement) := do
  match ← IdMappingStore.getPublicId tenantId .hydra oryClientId with
  | .ok publicId => classifyOwned tenantId tenantId publicId
  | .error .mappingNotFound =>
      match ← IdMappingStore.getTenantIdByOryId .hydra oryClientId with
      | .error err => return .error err
      | .ok none => return .ok .unmapped
      | .ok (some ownerTenant) =>
          match ← IdMappingStore.getPublicIdByOryId .hydra oryClientId with
          | .ok publicId => classifyOwned tenantId ownerTenant publicId
          -- an owner without a public id; the gates treat it as unmapped
          | .error .mappingNotFound => return .ok .unmapped
          | .error err => return .error err
  | .error err => return .error err

end SsoGateway
