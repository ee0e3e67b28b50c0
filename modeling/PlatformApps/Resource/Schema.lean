/-
# Schemas of resources

What the API server is told about the fields of a resource: their types, which of them must
be there, and what stands for the others.
-/

import PlatformApps.Json.Basic

namespace PlatformApps

/-- May a field be left out? -/
inductive Presence where
  | required
  /-- It may also be `null`. -/
  | nullable
  /-- A default is filled in. -/
  | filled (default : Json)
  /-- It may be left out, but nothing is filled in. -/
  | optional

inductive Schema where
  | text
  | boolean
  /-- An integer of 32 bits. -/
  | integer
  | list (item : Schema)
  | record (fields : List (String × Presence × Schema))
  | described (description : String) (schema : Schema)

namespace Schema

/-- What a presence adds to the schema of a field. -/
def presenceFields : Presence → List (String × Json)
  | .required | .optional => []
  | .nullable => [("nullable", .bool true)]
  | .filled default => [("default", default)]

/-- Names of the fields that must be there. -/
def requiredNames (fields : List (String × Presence × Schema)) : List String :=
  fields.filterMap fun field =>
    match field.2.1 with
    | .required => some field.1
    | _ => none

mutual

/-- The parts of a schema document. -/
def parts : Schema → List (String × Json)
  | text => [("type", .str "string")]
  | boolean => [("type", .str "boolean")]
  | integer => [("type", .str "integer"), ("format", .str "int32")]
  | list item => [("type", .str "array"), ("items", .ofFields (parts item))]
  | record fields =>
    let required := Table.keys (Table.ofList ((requiredNames fields).map (·, ())))
    ("type", .str "object") :: ("properties", .ofFields (properties fields)) ::
      (if required.isEmpty then [] else [("required", .ofStrings required)])
  | described description schema => ("description", .str description) :: parts schema
  termination_by structural schema => schema

/-- Schemas of the fields of a record. -/
def properties : List (String × Presence × Schema) → List (String × Json)
  | [] => []
  | (name, presence, schema) :: rest =>
    (name, .ofFields (parts schema ++ presenceFields presence)) :: properties rest
  termination_by structural fields => fields

end

def toJson (schema : Schema) : Json := .ofFields schema.parts

end Schema

end PlatformApps
