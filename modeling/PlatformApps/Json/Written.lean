/-
# JSON as it is written

A written document still has the fields of an object in their order, with their
repetitions, and it may hold values that have no place in a `Json`: numbers beyond the
range of floating-point numbers, texts with half a character, brackets nested too deep.
Readers of records only look at the fields they know, so what else is written does not
matter to them; a document is a `Json` when all of it is usable.
-/

import PlatformApps.Json.Basic

namespace PlatformApps

inductive Written where
  | null
  | bool (value : Bool)
  | int (value : Int)
  | float (value : Binary64)
  | str (text : String)
  | arr (items : List Written)
  | obj (fields : List (String × Written))
  /-- A value that is well-formed and cannot be taken in. -/
  | unusable
  deriving Inhabited

namespace Written

mutual

/-- The document, of which every part must be usable; the last of the fields of one name
counts. -/
def toJson? : Written → Option Json
  | .null => some .null
  | .bool value => some (.bool value)
  | .int value => some (.int value)
  | .float value => some (.float value)
  | .str text => some (.str text)
  | .arr items => (itemsToJson? items).map .arr
  | .obj fields => (fieldsToJson? fields).map .ofFields
  | .unusable => none
  termination_by structural written => written

def itemsToJson? : List Written → Option (List Json)
  | [] => some []
  | item :: rest => (toJson? item).bind fun item => (itemsToJson? rest).map (item :: ·)
  termination_by structural items => items

def fieldsToJson? : List (String × Written) → Option (List (String × Json))
  | [] => some []
  | (name, value) :: rest =>
    (toJson? value).bind fun value => (fieldsToJson? rest).map ((name, value) :: ·)
  termination_by structural fields => fields

end

mutual

/-- A document as it would be written. -/
def ofJson : Json → Written
  | .null => .null
  | .bool value => .bool value
  | .int value => .int value
  | .float value => .float value
  | .str text => .str text
  | .arr items => .arr (ofItems items)
  | .obj fields => .obj (ofFields fields)
  termination_by structural document => document

def ofItems : List Json → List Written
  | [] => []
  | item :: rest => ofJson item :: ofItems rest
  termination_by structural items => items

def ofFields : List (String × Json) → List (String × Written)
  | [] => []
  | (name, value) :: rest => (name, ofJson value) :: ofFields rest
  termination_by structural fields => fields

end

instance : Coe Json Written := ⟨ofJson⟩

mutual

/-- Reading back what a document is written as yields it with its fields in order. -/
theorem toJson?_ofJson (document : Json) : toJson? (ofJson document) = some document.canonical := by
  cases document with
  | arr items => simp [ofJson, toJson?, itemsToJson?_ofItems items, Json.canonical]
  | obj fields => simp [ofJson, toJson?, fieldsToJson?_ofFields fields, Json.canonical]
  | _ => rfl
  termination_by structural document

theorem itemsToJson?_ofItems (items : List Json) :
    itemsToJson? (ofItems items) = some (Json.canonicalItems items) := by
  cases items with
  | nil => rfl
  | cons item rest =>
    simp [ofItems, itemsToJson?, toJson?_ofJson item, itemsToJson?_ofItems rest,
      Json.canonicalItems]
  termination_by structural items

theorem fieldsToJson?_ofFields (fields : List (String × Json)) :
    fieldsToJson? (ofFields fields) = some (Json.canonicalFields fields) := by
  cases fields with
  | nil => rfl
  | cons field rest =>
    obtain ⟨name, value⟩ := field
    simp [ofFields, fieldsToJson?, toJson?_ofJson value, fieldsToJson?_ofFields rest,
      Json.canonicalFields]
  termination_by structural fields

end

def text? : Written → Option String
  | .str text => some text
  | _ => none

def items? : Written → Option (List Written)
  | .arr items => some items
  | _ => none

def fields? : Written → Option (List (String × Written))
  | .obj fields => some fields
  | _ => none

def isNull : Written → Bool
  | .null => true
  | _ => false

end Written

end PlatformApps
