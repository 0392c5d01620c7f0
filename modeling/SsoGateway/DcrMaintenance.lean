import SsoGateway.Gateway

/-!
# Maintenance of dynamically registered clients

The pass that runs at every boot over the clients mapped to Hydra, and the daily collector of
registrations that were never used.

* `backfillClient`, `backfillLegacyDcrClients` — every mapped client without a row gets the default
  group links, unless it has tuples, and a row.
* `reapRegistration`, `reapUnusedRegistrations` — old mapped clients without a row and without
  tuples are deleted from Hydra and from `id_mappings`.

Source: `services/dcr_maintenance.rs`.
-/

namespace SsoGateway

open Lib

/-- The configuration of the maintenance. Source: `DcrMaintenance` (`default_groups`, `ttl`, in
seconds). -/
structure DcrMaintenance where
  defaultGroups : List String
  ttl : ℕ
deriving DecidableEq, Repr

/-- Why one client failed: the request, and its error. Source: the `format!` of each `map_err`. -/
inductive MaintenanceError where
  | applicationRowLookup (err : DbError)
  | applicationRowCreate (err : DbError)
  | agentLookup (err : DbError)
  | entitlementTupleRead (err : ServiceError)
  | entitlementSeed (err : ServiceError)
  | hydraClientDelete (err : OryClientError)
  | mappingDelete (err : DbError)
deriving DecidableEq, Repr

/-- A step of the maintenance on one client. -/
abbrev Maintenance (α : Type) := ExceptT MaintenanceError (Prog Gateway) α

/-! ## What both passes ask -/

/-- Source: `application_row_exists`. -/
def applicationRowExists (tenantId publicId : String) : Maintenance Bool := do
  match ← Prog.attempt (ApplicationStore.get tenantId publicId) with
  | .ok _ => return true
  | .error .applicationNotFound => return false
  | .error err => throw (.applicationRowLookup err)

/-- Source: `is_agent`. -/
def isAgent (publicId : String) : Maintenance Bool := do
  match ← Prog.attempt (Prog.perform (S := Gateway) (.agent (.getStatus publicId))) with
  | .ok _ => return true
  | .error .agentNotFound => return false
  | .error err => throw (.agentLookup err)

/-! ## The backfill -/

/-- Source: `BackfillStats`. -/
structure BackfillStats where
  checked : ℕ := 0
  seeded : ℕ := 0
  rowsCreated : ℕ := 0
  skippedExistingRows : ℕ := 0
  skippedAgents : ℕ := 0
  errors : ℕ := 0
deriving DecidableEq, Repr

/-- Source: `BackfillOutcome`. -/
inductive BackfillOutcome where
  | existingRow
  | agent
  | seeded
  | rowOnly
deriving DecidableEq, Repr

/-- Source: `ensure_dcr_row` of `DcrMaintenance`. -/
def ensureBackfilledRow (tenantId publicId : String) : Maintenance Unit := do
  match ← Prog.attempt (ApplicationStore.create tenantId publicId false .dcr) with
  | .ok _ => return ()
  | .error err =>
      if ← applicationRowExists tenantId publicId then return ()
      else throw (.applicationRowCreate err)

/-- The seeding of a client without tuples; says whether it seeded. -/
def seedTupleless (cfg : DcrMaintenance) (tenantId publicId : String) : Maintenance Bool := do
  if ← Prog.orThrow .entitlementTupleRead (EntitlementService.hasAnyTuples tenantId publicId) then
    return false
  else
    Prog.orThrow .entitlementSeed
      (EntitlementService.seedApplication tenantId publicId cfg.defaultGroups)
    return true

/-- Source: `backfill_client`. -/
def backfillClient (cfg : DcrMaintenance) (tenantId publicId : String) :
    Maintenance BackfillOutcome := do
  if ← applicationRowExists tenantId publicId then
    return .existingRow
  else if ← isAgent publicId then
    return .agent
  else
    let seeded ← seedTupleless cfg tenantId publicId
    ensureBackfilledRow tenantId publicId
    return if seeded then .seeded else .rowOnly

/-- One more client in the statistics. -/
def BackfillStats.record (stats : BackfillStats) :
    Except MaintenanceError BackfillOutcome → BackfillStats
  | .ok .existingRow =>
      { stats with checked := stats.checked + 1
                   skippedExistingRows := stats.skippedExistingRows + 1 }
  | .ok .agent =>
      { stats with checked := stats.checked + 1, skippedAgents := stats.skippedAgents + 1 }
  | .ok .seeded =>
      { stats with checked := stats.checked + 1
                   seeded := stats.seeded + 1
                   rowsCreated := stats.rowsCreated + 1 }
  | .ok .rowOnly =>
      { stats with checked := stats.checked + 1, rowsCreated := stats.rowsCreated + 1 }
  | .error _ => { stats with checked := stats.checked + 1, errors := stats.errors + 1 }

/-- The pass over one tenant. -/
def backfillTenant (cfg : DcrMaintenance) (stats : BackfillStats) (tenant : TenantRow) :
    Prog Gateway BackfillStats := do
  match ← IdMappingStore.listPublicIds tenant.id .hydra with
  | .error _ => return { stats with errors := stats.errors + 1 }
  | .ok publicIds =>
      publicIds.foldlM
        (fun stats publicId => stats.record <$> (backfillClient cfg tenant.id publicId).run) stats

/-- Source: `backfill_legacy_dcr_clients`. -/
def backfillLegacyDcrClients (cfg : DcrMaintenance) : Prog Gateway BackfillStats := do
  match ← listTenants with
  | .error _ => return { errors := 1 }
  | .ok tenants => tenants.foldlM (backfillTenant cfg) {}

/-! ## The collector -/

/-- Source: `ReapStats`. -/
structure ReapStats where
  checked : ℕ := 0
  reaped : ℕ := 0
  skippedYoung : ℕ := 0
  skippedExistingRows : ℕ := 0
  skippedAgents : ℕ := 0
  skippedNowInUse : ℕ := 0
  errors : ℕ := 0
deriving DecidableEq, Repr

/-- Source: `ReapOutcome`. -/
inductive ReapOutcome where
  | reaped
  | young
  | existingRow
  | agent
  | nowInUse
deriving DecidableEq, Repr

/-- The second check before the delete: tuples, or a row. -/
def nowInUse (tenantId publicId : String) : Maintenance Bool := do
  if ← Prog.orThrow .entitlementTupleRead (EntitlementService.hasAnyTuples tenantId publicId) then
    return true
  else
    applicationRowExists tenantId publicId

/-- The delete at Hydra; a client that is gone already is no error. -/
def deleteHydraClient (oryId : String) : Maintenance Unit := do
  match ← Prog.attempt (callHydra (.deleteOauth2Client oryId)) with
  | .ok () => return ()
  | .error (.ory 404 _) => return ()
  | .error err => throw (.hydraClientDelete err)

/-- The delete of the mapping; one that is gone already is no error. -/
def deleteClientMapping (tenantId publicId : String) : Maintenance Unit := do
  match ← Prog.attempt (IdMappingStore.delete tenantId .hydra publicId) with
  | .ok () => return ()
  | .error .mappingNotFound => return ()
  | .error err => throw (.mappingDelete err)

/-- Source: `reap_registration`. -/
def reapRegistration (cfg : DcrMaintenance) (tenantId : String) (row : IdMappingRow) :
    Maintenance ReapOutcome := do
  let now ← Prog.attempt nowUtc
  if now - row.createdAt < cfg.ttl then
    return .young
  else if ← applicationRowExists tenantId row.publicId then
    return .existingRow
  else if ← isAgent row.publicId then
    return .agent
  else if ← nowInUse tenantId row.publicId then
    return .nowInUse
  else
    deleteHydraClient row.oryGlobalId
    deleteClientMapping tenantId row.publicId
    return .reaped

/-- One more registration in the statistics. -/
def ReapStats.record (stats : ReapStats) : Except MaintenanceError ReapOutcome → ReapStats
  | .ok .reaped => { stats with checked := stats.checked + 1, reaped := stats.reaped + 1 }
  | .ok .young => { stats with checked := stats.checked + 1, skippedYoung := stats.skippedYoung + 1 }
  | .ok .existingRow =>
      { stats with checked := stats.checked + 1
                   skippedExistingRows := stats.skippedExistingRows + 1 }
  | .ok .agent =>
      { stats with checked := stats.checked + 1, skippedAgents := stats.skippedAgents + 1 }
  | .ok .nowInUse =>
      { stats with checked := stats.checked + 1, skippedNowInUse := stats.skippedNowInUse + 1 }
  | .error _ => { stats with checked := stats.checked + 1, errors := stats.errors + 1 }

/-- The pass over one tenant. -/
def reapTenant (cfg : DcrMaintenance) (stats : ReapStats) (tenant : TenantRow) :
    Prog Gateway ReapStats := do
  match ← IdMappingStore.listMappings tenant.id .hydra with
  | .error _ => return { stats with errors := stats.errors + 1 }
  | .ok rows =>
      rows.foldlM
        (fun stats row => stats.record <$> (reapRegistration cfg tenant.id row).run) stats

/-- Source: `reap_unused_registrations`. A TTL beyond the seconds of a `time::Duration` stops the
run. -/
def reapUnusedRegistrations (cfg : DcrMaintenance) : Prog Gateway ReapStats := do
  if 2 ^ 63 ≤ cfg.ttl then
    return { errors := 1 }
  else
    match ← listTenants with
    | .error _ => return { errors := 1 }
    | .ok tenants => tenants.foldlM (reapTenant cfg) {}

end SsoGateway
