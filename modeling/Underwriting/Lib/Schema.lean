import Underwriting.Lib.Json
import Underwriting.Lib.Rfc3339

/-! # Schemas of JSON values

What an OpenAPI contract says of a JSON value, with its formats checked: texts,
date-times, and objects with fields they must have and fields of a known schema. An
object may have fields that its schema does not name.
-/

inductive Schema where
  | string
  /-- `type: string`, `format: date-time` -/
  | dateTime
  | object (required : List String) (properties : List (String × Schema))

namespace Schema

mutual

def accepts : Schema → Json → Bool
  | .string, .str _ => true
  | .dateTime, .str text => (Rfc3339.parse text).isSome
  | .object required properties, .obj fields =>
      required.all (fun key => (fields.lookup key).isSome) && acceptsFields properties fields
  | _, _ => false

def acceptsFields : List (String × Schema) → List (String × Json) → Bool
  | [], _ => true
  | (key, schema) :: rest, fields => (fields.lookup key).all (fun value => schema.accepts value) && acceptsFields rest fields

end

theorem acceptsFields_iff {properties : List (String × Schema)} {fields : List (String × Json)} :
    acceptsFields properties fields ↔
      ∀ property ∈ properties, ∀ value, fields.lookup property.1 = some value → property.2.accepts value := by
  induction properties with
  | nil => simp [acceptsFields]
  | cons property rest ih => simp [acceptsFields, Option.all_eq_true, ih]

/-- An object has the fields it must have, and each field of a known schema has a value of it. -/
theorem accepts_object_iff {required : List String} {properties : List (String × Schema)} {fields : List (String × Json)} :
    (object required properties).accepts (.obj fields) ↔
      (∀ key ∈ required, (fields.lookup key).isSome) ∧
        ∀ property ∈ properties, ∀ value, fields.lookup property.1 = some value → property.2.accepts value := by
  rw [accepts, Bool.and_eq_true, acceptsFields_iff, List.all_eq_true]

end Schema
