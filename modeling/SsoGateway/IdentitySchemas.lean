import SsoGateway.Identities
import SsoGateway.Lib.Table

/-!
# Identity schemas

The store of a tenant's identity schemas, statement by statement, and the four calls that write it.
A call with `is_default` unmarks the schema that is the default by a statement of its own.

* `Schemas`, `SchemaOp`, `schemaHandler` — the table and its statements.
* `PgIdentitySchemaStore.create`, `update`, `setDefault`, `delete` — the methods of the store.
* `SchemaRequest.method` — the calls.

Source: `db/identity_schema.rs`, `services/identity.rs`.
-/

namespace SsoGateway

open Lib

/-! ## The table -/

namespace IdentitySchemaRow

/-- `UNIQUE (tenant_id, schema_id)`. -/
def SameSchema (r r' : IdentitySchemaRow) : Prop := r.tenantId = r'.tenantId ∧ r.schemaId = r'.schemaId

instance : DecidableRel SameSchema := fun r r' =>
  inferInstanceAs (Decidable (r.tenantId = r'.tenantId ∧ r.schemaId = r'.schemaId))

/-- `tenant_id = t AND schema_id = i`. -/
def Named (tenantId schemaId : String) (r : IdentitySchemaRow) : Prop :=
  r.tenantId = tenantId ∧ r.schemaId = schemaId

instance (tenantId schemaId : String) : DecidablePred (Named tenantId schemaId) := fun r =>
  inferInstanceAs (Decidable (r.tenantId = tenantId ∧ r.schemaId = schemaId))

/-- `tenant_id = t AND is_default = TRUE`. -/
def DefaultOf (tenantId : String) (r : IdentitySchemaRow) : Prop :=
  r.tenantId = tenantId ∧ r.isDefault = true

instance (tenantId : String) : DecidablePred (DefaultOf tenantId) := fun r =>
  inferInstanceAs (Decidable (r.tenantId = tenantId ∧ r.isDefault = true))

/-- A change of columns that the key does not contain. -/
def KeepsKey (f : IdentitySchemaRow → IdentitySchemaRow) : Prop :=
  ∀ r, (f r).tenantId = r.tenantId ∧ (f r).schemaId = r.schemaId

/-- `SET schema_json = j, is_default = b, version = version + 1`. -/
def rewritten (schemaJson : Value) (isDefault : Bool) (r : IdentitySchemaRow) : IdentitySchemaRow :=
  { r with schemaJson := schemaJson, isDefault := isDefault, version := r.version + 1 }

/-- `SET is_default = b`. -/
def flagged (isDefault : Bool) (r : IdentitySchemaRow) : IdentitySchemaRow :=
  { r with isDefault := isDefault }

theorem rewritten_keepsKey (j : Value) (b : Bool) : KeepsKey (rewritten j b) := fun _ => ⟨rfl, rfl⟩

theorem flagged_keepsKey (b : Bool) : KeepsKey (flagged b) := fun _ => ⟨rfl, rfl⟩

end IdentitySchemaRow

/-- Source: `tenant_identity_schemas`. -/
abbrev Schemas := Table IdentitySchemaRow IdentitySchemaRow.SameSchema

namespace Schemas

/-- `UPDATE tenant_identity_schemas SET f WHERE p`. -/
def updateWhere (s : Schemas) (p : IdentitySchemaRow → Prop) [DecidablePred p]
    (f : IdentitySchemaRow → IdentitySchemaRow) (hf : IdentitySchemaRow.KeepsKey f) : Schemas :=
  s.modify (fun r => if p r then f r else r) fun r r' => by
    have hkeep : ∀ r : IdentitySchemaRow, (if p r then f r else r).tenantId = r.tenantId ∧
        (if p r then f r else r).schemaId = r.schemaId := by
      intro r
      split
      · exact hf r
      · exact ⟨rfl, rfl⟩
    simp only [IdentitySchemaRow.SameSchema, hkeep]

/-- The statement for one schema, with `RETURNING`. -/
def updateReturning (s : Schemas) (tenantId schemaId : String)
    (f : IdentitySchemaRow → IdentitySchemaRow) (hf : IdentitySchemaRow.KeepsKey f) :
    Except DbError IdentitySchemaRow × Schemas :=
  match s.find? (IdentitySchemaRow.Named tenantId schemaId) with
  | some r => (.ok (f r), s.updateWhere (IdentitySchemaRow.Named tenantId schemaId) f hf)
  | none => (.error .schemaNotFound, s)

/-- `INSERT INTO tenant_identity_schemas`. -/
def insertRow (s : Schemas) (row : IdentitySchemaRow) : Except DbError IdentitySchemaRow × Schemas :=
  match s.insert? row with
  | some s' => (.ok row, s')
  | none => (.error Db.duplicateKey, s)

/-- `DELETE FROM tenant_identity_schemas`, with the row count. -/
def deleteRow (s : Schemas) (tenantId schemaId : String) : Except DbError Unit × Schemas :=
  if s.Affects (IdentitySchemaRow.Named tenantId schemaId) then
    (.ok (), s.deleteWhere (IdentitySchemaRow.Named tenantId schemaId))
  else (.error .schemaNotFound, s)

end Schemas

/-! ## The statements -/

/-- The writing statements of the store. -/
inductive SchemaOp where
  | insert (tenantId schemaId : String) (schemaJson : Value) (isDefault : Bool)
  | rewrite (tenantId schemaId : String) (schemaJson : Value) (isDefault : Bool)
  | markDefault (tenantId schemaId : String)
  | unsetDefault (tenantId : String)
  | delete (tenantId schemaId : String)

/-- The answers. -/
@[reducible] def SchemaOp.Res : SchemaOp → Type
  | .insert _ _ _ _ => Except DbError IdentitySchemaRow
  | .rewrite _ _ _ _ => Except DbError IdentitySchemaRow
  | .markDefault _ _ => Except DbError IdentitySchemaRow
  | .unsetDefault _ => Except DbError Unit
  | .delete _ _ => Except DbError Unit

/-- The signature of the store. -/
@[reducible] def SchemaSig : Sig := ⟨SchemaOp, SchemaOp.Res⟩

/-- What every statement does. The version begins at `1`. -/
def schemaHandler : Handler SchemaSig Choice Schemas
  | .insert t i json b, c, s => Fault.answer Fault.sqlx s (s.insertRow ⟨t, i, 1, json, b⟩) (c.fault 0)
  | .rewrite t i json b, c, s =>
      Fault.answer Fault.sqlx s
        (s.updateReturning t i (.rewritten json b) (IdentitySchemaRow.rewritten_keepsKey json b)) (c.fault 0)
  | .markDefault t i, c, s =>
      Fault.answer Fault.sqlx s
        (s.updateReturning t i (.flagged true) (IdentitySchemaRow.flagged_keepsKey true)) (c.fault 0)
  | .unsetDefault t, c, s =>
      Fault.answer Fault.sqlx s
        (.ok (), s.updateWhere (IdentitySchemaRow.DefaultOf t) (.flagged false)
          (IdentitySchemaRow.flagged_keepsKey false)) (c.fault 0)
  | .delete t i, c, s => Fault.answer Fault.sqlx s (s.deleteRow t i) (c.fault 0)

/-! ## The store -/

/-- A method of the store. -/
abbrev SchemaStore (α : Type) := ExceptT DbError (Prog SchemaSig) α

/-- One statement. -/
abbrev schemaStatement (op : SchemaOp) : Prog SchemaSig op.Res := Prog.perform (S := SchemaSig) op

namespace PgIdentitySchemaStore

/-- Source: `create`. A default is not unset. -/
def create (tenantId schemaId : String) (schemaJson : Value) (isDefault : Bool) :
    SchemaStore IdentitySchemaRow :=
  Prog.orThrow id (schemaStatement (.insert tenantId schemaId schemaJson isDefault))

/-- Source: `unset_default`. -/
def unsetDefault (tenantId : String) : SchemaStore Unit :=
  Prog.orThrow id (schemaStatement (.unsetDefault tenantId))

/-- Source: `update`. -/
def update (tenantId schemaId : String) (schemaJson : Value) (isDefault : Bool) :
    SchemaStore IdentitySchemaRow := do
  if isDefault then unsetDefault tenantId
  Prog.orThrow id (schemaStatement (.rewrite tenantId schemaId schemaJson isDefault))

/-- Source: `set_default`. -/
def setDefault (tenantId schemaId : String) : SchemaStore IdentitySchemaRow := do
  unsetDefault tenantId
  Prog.orThrow id (schemaStatement (.markDefault tenantId schemaId))

/-- Source: `delete`. -/
def delete (tenantId schemaId : String) : SchemaStore Unit :=
  Prog.orThrow id (schemaStatement (.delete tenantId schemaId))

end PgIdentitySchemaStore

/-! ## The calls -/

/-- The writing calls on schemas. A document is as converted to JSON, or the text of the error of
that conversion. Source: `CreateIdentitySchemaRequest`, `UpdateIdentitySchemaRequest`,
`SetDefaultIdentitySchemaRequest`, `DeleteIdentitySchemaRequest`. -/
inductive SchemaRequest where
  | create (schemaId : String) (schemaJson : Option (Except String Value)) (isDefault : Bool)
  | update (schemaId : String) (schemaJson : Option (Except String Value)) (isDefault : Bool)
  | setDefault (schemaId : String)
  | delete (schemaId : String)

/-- Source: `require_email_string_schema`. -/
def requireEmailStringSchema (schemaJson : Value) : Except ServiceError Unit :=
  if ((((traitsSubschema schemaJson).get "properties").bind fun p => p.get "email").bind
      fun e => e.get "type").bind Value.asStr = some "string" then .ok ()
  else .error (.invalidArgument "identity schema must declare traits.email as a string")

/-- The document of a request. -/
def requestSchema (schemaJson : Option (Except String Value)) : Except ServiceError Value := do
  let document ← match schemaJson with
    | some (.ok document) => .ok document
    | some (.error e) => .error (.invalidArgument ("invalid schema: " ++ e))
    | none => .ok (.obj [])
  requireEmailStringSchema document
  return document

/-- Lift a pure check into a method of the service. -/
def schemaCheck {α : Type} (r : Except ServiceError α) : ExceptT ServiceError (Prog SchemaSig) α :=
  ExceptT.mk (pure r)

/-- Source: `create_identity_schema`, `update_identity_schema`, `set_default_identity_schema`,
`delete_identity_schema`; yields the row, where there is one. -/
def SchemaRequest.method (ctx : RequestContext) :
    SchemaRequest → ExceptT ServiceError (Prog SchemaSig) (Option IdentitySchemaRow)
  | .create schemaId schemaJson isDefault => do
      let tenantId ← schemaCheck (requireTenantScope ctx scopeIdentityAdmin)
      let document ← schemaCheck (requestSchema schemaJson)
      let row ← Prog.orThrow ServiceError.ofDbError
        (PgIdentitySchemaStore.create tenantId schemaId document isDefault).run
      return some row
  | .update schemaId schemaJson isDefault => do
      let tenantId ← schemaCheck (requireTenantScope ctx scopeIdentityAdmin)
      let document ← schemaCheck (requestSchema schemaJson)
      let row ← Prog.orThrow ServiceError.ofDbError
        (PgIdentitySchemaStore.update tenantId schemaId document isDefault).run
      return some row
  | .setDefault schemaId => do
      let tenantId ← schemaCheck (requireTenantScope ctx scopeIdentityAdmin)
      let row ← Prog.orThrow ServiceError.ofDbError
        (PgIdentitySchemaStore.setDefault tenantId schemaId).run
      return some row
  | .delete schemaId => do
      let tenantId ← schemaCheck (requireTenantScope ctx scopeIdentityAdmin)
      Prog.orThrow ServiceError.ofDbError (PgIdentitySchemaStore.delete tenantId schemaId).run
      return none

end SsoGateway
