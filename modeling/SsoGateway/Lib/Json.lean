import Mathlib.Logic.Basic
import Mathlib.Data.List.Basic

/-!
# JSON values

The documents a web service reads and writes, as an inductive type, with the access functions
that leave every other shape alone: `Value.get` finds a field of an object and nothing anywhere
else, `Value.entryOr` updates (or first inserts) a field of an object and is the identity on
every other value. Numbers are kept as their JSON text.

* `Value.get_entryOr_self`, `Value.get_entryOr_of_ne` — what a later read sees after an update.
* `Value.depth` — how deep a value is nested; `Value.same` — equality up to the order of fields;
  `Value.render` — its compact text.

Nothing here is about a particular service.
-/

namespace SsoGateway.Lib

/-- A JSON value. The fields of an object are listed once each, in the order of the document. -/
inductive Value : Type where
  | null
  | bool (b : Bool)
  | number (text : String)
  | str (s : String)
  | arr (items : List Value)
  | obj (fields : List (String × Value))
deriving Inhabited

namespace Value

/-! ## Reading -/

/-- The field `key` of an object; no field of any other value. -/
def get : Value → String → Option Value
  | .obj fields, key => fields.lookup key
  | _, _ => none

/-- Indexing: the field `key`, or `null` where there is none. -/
def index (v : Value) (key : String) : Value := (v.get key).getD .null

/-- The text of a string value. -/
def asStr : Value → Option String
  | .str s => some s
  | _ => none

/-- The truth value of a boolean value. -/
def asBool : Value → Option Bool
  | .bool b => some b
  | _ => none

/-- The items of an array. -/
def asArray : Value → Option (List Value)
  | .arr items => some items
  | _ => none

/-- The fields of an object. -/
def asObject : Value → Option (List (String × Value))
  | .obj fields => some fields
  | _ => none

@[simp] theorem get_obj (fields : List (String × Value)) (key : String) :
    (Value.obj fields).get key = fields.lookup key := rfl

/-! ## Updating -/

/-- Replace the field `key` by `f (some v)`, or append it as `f none`. -/
def upsert (key : String) (f : Option Value → Value) :
    List (String × Value) → List (String × Value)
  | [] => [(key, f none)]
  | (k, v) :: fields => if k = key then (k, f (some v)) :: fields else (k, v) :: upsert key f fields

@[simp] theorem lookup_upsert_self (key : String) (f : Option Value → Value)
    (fields : List (String × Value)) :
    (upsert key f fields).lookup key = some (f (fields.lookup key)) := by
  induction fields with
  | nil => simp [upsert]
  | cons kv fields ih =>
      obtain ⟨k, v⟩ := kv
      by_cases hk : k = key
      · simp [upsert, hk]
      · have hbeq : (key == k) = false := beq_false_of_ne (Ne.symm hk)
        simp [upsert, hk, List.lookup_cons, hbeq, ih]

theorem lookup_upsert_of_ne {key key' : String} (hne : key' ≠ key) (f : Option Value → Value)
    (fields : List (String × Value)) :
    (upsert key f fields).lookup key' = fields.lookup key' := by
  have hbeq : (key' == key) = false := beq_false_of_ne hne
  induction fields with
  | nil => simp [upsert, List.lookup_cons, hbeq]
  | cons kv fields ih =>
      obtain ⟨k, v⟩ := kv
      by_cases hk : k = key
      · subst hk
        simp [upsert, List.lookup_cons, hbeq]
      · simp [upsert, hk, List.lookup_cons, ih]

/-- Set a field of an object. -/
def insert (v : Value) (key : String) (x : Value) : Value :=
  match v with
  | .obj fields => .obj (upsert key (fun _ => x) fields)
  | v => v

/-- Assignment to an index: sets a field of an object, and makes `null` an object first. Other values
have no fields to assign to and are left alone. -/
def setIndex (v : Value) (key : String) (x : Value) : Value :=
  match v with
  | .null => .obj [(key, x)]
  | v => v.insert key x

/-- Take the entry `key` of an object, starting it as `default` when it is absent, and apply `f`
to it in place. -/
def entryOr (v : Value) (key : String) (default : Value) (f : Value → Value) : Value :=
  match v with
  | .obj fields => .obj (upsert key (fun old => f (old.getD default)) fields)
  | v => v

theorem get_insert_of_ne {key key' : String} (hne : key' ≠ key) (v x : Value) :
    (v.insert key x).get key' = v.get key' := by
  cases v with
  | obj fields => exact lookup_upsert_of_ne hne _ fields
  | _ => rfl

theorem get_setIndex_of_ne {key key' : String} (hne : key' ≠ key) (v x : Value) :
    (v.setIndex key x).get key' = v.get key' := by
  cases v with
  | null => simp [setIndex, get, List.lookup_cons, beq_false_of_ne hne]
  | obj fields => exact lookup_upsert_of_ne hne _ fields
  | _ => rfl

/-- An assigned field reads as assigned, unless the value has no fields. -/
theorem get_setIndex_self (v : Value) (key : String) (x : Value) :
    (v.setIndex key x).get key = some x ∨ (v.setIndex key x).get key = none := by
  cases v with
  | null => exact .inl (by simp [setIndex])
  | obj fields => exact .inl (lookup_upsert_self key _ fields)
  | _ => exact .inr rfl

/-- The entry that was updated reads as the update of what it was. -/
theorem get_entryOr_self (fields : List (String × Value)) (key : String) (default : Value)
    (f : Value → Value) :
    ((Value.obj fields).entryOr key default f).get key =
      some (f ((fields.lookup key).getD default)) :=
  lookup_upsert_self key _ fields

/-- The other entries read as before. -/
theorem get_entryOr_of_ne {key key' : String} (hne : key' ≠ key) (v default : Value)
    (f : Value → Value) : (v.entryOr key default f).get key' = v.get key' := by
  cases v with
  | obj fields => exact lookup_upsert_of_ne hne _ fields
  | _ => rfl

/-! ## The nesting of a value -/

mutual

/-- How deep values are nested below a value. -/
def depth : Value → ℕ
  | .arr items => depthItems items
  | .obj fields => depthFields fields
  | _ => 0

/-- How deep values are nested, the items of an array included. -/
def depthItems : List Value → ℕ
  | [] => 0
  | v :: items => max (v.depth + 1) (depthItems items)

/-- How deep values are nested, the fields of an object included. -/
def depthFields : List (String × Value) → ℕ
  | [] => 0
  | (_, v) :: fields => max (v.depth + 1) (depthFields fields)

end

/-! ## Equality -/

mutual

/-- Equality of documents: the order of the fields of an object does not matter. -/
def same : Value → Value → Bool
  | .null, .null => true
  | .bool b, .bool b' => b == b'
  | .number text, .number text' => text == text'
  | .str s, .str s' => s == s'
  | .arr items, .arr items' => sameItems items items'
  | .obj fields, .obj fields' => fields.length == fields'.length && sameFields fields fields'
  | _, _ => false

/-- Equal items, one by one. -/
def sameItems : List Value → List Value → Bool
  | [], [] => true
  | v :: items, v' :: items' => v.same v' && sameItems items items'
  | _, _ => false

/-- Every field is a field of the other object, with an equal value. -/
def sameFields : List (String × Value) → List (String × Value) → Bool
  | [], _ => true
  | (k, v) :: fields, fields' =>
      (match fields'.lookup k with
        | some v' => v.same v'
        | none => false) && sameFields fields fields'

end

/-! ## The text of a value -/

/-- One character of a string literal, escaped where JSON requires it. -/
def escapeChar (c : Char) : String :=
  if c = '"' then "\\\"" else if c = '\\' then "\\\\"
  else if c = '\n' then "\\n" else if c = '\r' then "\\r" else if c = '\t' then "\\t"
  else if c.toNat = 8 then "\\b" else if c.toNat = 12 then "\\f"
  else if c.toNat < 32 then
    "\\u00" ++ String.singleton (Nat.digitChar (c.toNat / 16)) ++
      String.singleton (Nat.digitChar (c.toNat % 16))
  else String.singleton c

/-- A string literal. -/
def quote (s : String) : String := "\"" ++ String.join (s.toList.map escapeChar) ++ "\""

mutual

/-- The compact text of a value. -/
def render : Value → String
  | .null => "null"
  | .bool b => if b then "true" else "false"
  | .number text => text
  | .str s => quote s
  | .arr items => "[" ++ String.intercalate "," (renderItems items) ++ "]"
  | .obj fields => "\x7b" ++ String.intercalate "," (renderFields fields) ++ "\x7d"

/-- The texts of the items of an array. -/
def renderItems : List Value → List String
  | [] => []
  | v :: items => v.render :: renderItems items

/-- The texts of the fields of an object. -/
def renderFields : List (String × Value) → List String
  | [] => []
  | (k, v) :: fields => (quote k ++ ":" ++ v.render) :: renderFields fields

end

end Value

end SsoGateway.Lib
