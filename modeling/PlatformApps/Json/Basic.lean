/-
# JSON documents

Provider objects, patches and everything the API server exchanges are JSON documents.
An object is a list of fields; documents made by this library keep the fields sorted by
name, each name once (`Canonical`). Integers and floating-point numbers are different
numbers even when their values agree.
-/

import PlatformApps.Binary64
import PlatformApps.Table

namespace PlatformApps

inductive Json where
  | null
  | bool (value : Bool)
  | int (value : Int)
  | float (value : Binary64)
  | str (text : String)
  | arr (items : List Json)
  | obj (fields : List (String × Json))
  deriving Inhabited

namespace Json

mutual

/-- Structural equality of documents. -/
def decEq : (first second : Json) → Decidable (first = second)
  | .null, .null => isTrue rfl
  | .bool a, .bool b => decidable_of_iff (a = b) (by simp)
  | .int a, .int b => decidable_of_iff (a = b) (by simp)
  | .float a, .float b => decidable_of_iff (a = b) (by simp)
  | .str a, .str b => decidable_of_iff (a = b) (by simp)
  | .arr a, .arr b => have := decEqItems a b; decidable_of_iff (a = b) (by simp)
  | .obj a, .obj b => have := decEqFields a b; decidable_of_iff (a = b) (by simp)
  | .null, .bool _ | .null, .int _ | .null, .float _ | .null, .str _ | .null, .arr _
  | .null, .obj _ => isFalse (by simp)
  | .bool _, .null | .bool _, .int _ | .bool _, .float _ | .bool _, .str _ | .bool _, .arr _
  | .bool _, .obj _ => isFalse (by simp)
  | .int _, .null | .int _, .bool _ | .int _, .float _ | .int _, .str _ | .int _, .arr _
  | .int _, .obj _ => isFalse (by simp)
  | .float _, .null | .float _, .bool _ | .float _, .int _ | .float _, .str _
  | .float _, .arr _ | .float _, .obj _ => isFalse (by simp)
  | .str _, .null | .str _, .bool _ | .str _, .int _ | .str _, .float _ | .str _, .arr _
  | .str _, .obj _ => isFalse (by simp)
  | .arr _, .null | .arr _, .bool _ | .arr _, .int _ | .arr _, .float _ | .arr _, .str _
  | .arr _, .obj _ => isFalse (by simp)
  | .obj _, .null | .obj _, .bool _ | .obj _, .int _ | .obj _, .float _ | .obj _, .str _
  | .obj _, .arr _ => isFalse (by simp)
  termination_by structural first => first

def decEqItems : (first second : List Json) → Decidable (first = second)
  | [], [] => isTrue rfl
  | [], _ :: _ => isFalse (by simp)
  | _ :: _, [] => isFalse (by simp)
  | a :: first, b :: second =>
    have := decEq a b
    have := decEqItems first second
    decidable_of_iff (a = b ∧ first = second) (by simp)
  termination_by structural first => first

def decEqFields : (first second : List (String × Json)) → Decidable (first = second)
  | [], [] => isTrue rfl
  | [], _ :: _ => isFalse (by simp)
  | _ :: _, [] => isFalse (by simp)
  | (name, a) :: first, (other, b) :: second =>
    have := decEq a b
    have := decEqFields first second
    decidable_of_iff ((name = other ∧ a = b) ∧ first = second) (by simp)
  termination_by structural first => first

end

instance : DecidableEq Json := decEq

mutual

/-- Equality of the values documents stand for: the two floating-point zeros are one
number, everything else is compared as written. -/
def same : Json → Json → Bool
  | .null, .null => true
  | .bool a, .bool b => a == b
  | .int a, .int b => a == b
  | .float a, .float b => a = b || (a.mantissa == 0 && b.mantissa == 0)
  | .str a, .str b => a == b
  | .arr a, .arr b => sameItems a b
  | .obj a, .obj b => sameFields a b
  | _, _ => false
  termination_by structural first => first

def sameItems : List Json → List Json → Bool
  | [], [] => true
  | a :: first, b :: second => same a b && sameItems first second
  | _, _ => false
  termination_by structural first => first

def sameFields : List (String × Json) → List (String × Json) → Bool
  | [], [] => true
  | (name, a) :: first, (other, b) :: second =>
    name == other && same a b && sameFields first second
  | _, _ => false
  termination_by structural first => first

end

mutual

/-- Every object of the document lists its fields by name, each name once. -/
def Canonical : Json → Prop
  | .arr items => CanonicalItems items
  | .obj fields => Entries.Sorted fields ∧ CanonicalFields fields
  | _ => True
  termination_by structural document => document

def CanonicalItems : List Json → Prop
  | [] => True
  | item :: rest => Canonical item ∧ CanonicalItems rest
  termination_by structural items => items

def CanonicalFields : List (String × Json) → Prop
  | [] => True
  | (_, value) :: rest => Canonical value ∧ CanonicalFields rest
  termination_by structural fields => fields

end

/-- An object from fields in any order; the last value of a repeated name stays. -/
def ofFields (fields : List (String × Json)) : Json :=
  .obj (fields.foldl (fun known field => Entries.insert field.1 field.2 known) [])

/-- An object that leaves out the fields without a value. -/
def ofPresent (fields : List (String × Option Json)) : Json :=
  ofFields (fields.filterMap fun field => field.2.map (field.1, ·))

/-- The object of a table of texts. -/
def ofTexts (table : Table String String) : Json :=
  .obj (table.toList.map fun entry => (entry.1, .str entry.2))

/-- An array of texts. -/
def ofStrings (texts : List String) : Json := .arr (texts.map .str)

mutual

/-- The same document with the fields of every object sorted by name. -/
def canonical : Json → Json
  | .arr items => .arr (canonicalItems items)
  | .obj fields => ofFields (canonicalFields fields)
  | other => other
  termination_by structural document => document

def canonicalItems : List Json → List Json
  | [] => []
  | item :: rest => canonical item :: canonicalItems rest
  termination_by structural items => items

def canonicalFields : List (String × Json) → List (String × Json)
  | [] => []
  | (name, value) :: rest => (name, canonical value) :: canonicalFields rest
  termination_by structural fields => fields

end

/-- The value of a field; nothing for a document that is not an object. -/
def field? (document : Json) (name : String) : Option Json :=
  match document with
  | .obj fields => Entries.find? name fields
  | _ => none

/-- Follows field names downwards. -/
def path? (document : Json) : List String → Option Json
  | [] => some document
  | name :: rest => (document.field? name).bind fun inner => inner.path? rest

def text? : Json → Option String
  | .str text => some text
  | _ => none

def items? : Json → Option (List Json)
  | .arr items => some items
  | _ => none

def fields? : Json → Option (List (String × Json))
  | .obj fields => some fields
  | _ => none

def isNull : Json → Bool
  | .null => true
  | _ => false

def isObject (document : Json) : Bool := document.fields?.isSome

instance : Coe String Json := ⟨.str⟩
instance : Coe Bool Json := ⟨.bool⟩
instance : Coe Int Json := ⟨.int⟩

end Json

end PlatformApps
