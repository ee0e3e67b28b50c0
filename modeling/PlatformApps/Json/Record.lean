/-
# Reading records from JSON

A record is an object whose fields are looked up by name; fields nobody asks for are
ignored. A field is required, optional (absent and `null` are the same) or has a default.
Of the fields of one name the last one counts, but each of them must be readable; a
record that is declared by its field names does not take a name twice, and may be written
as the list of its values.
-/

import PlatformApps.Json.Written

namespace PlatformApps.Written

/-- The fields of an object in which none of the given names is repeated. -/
def declared? (names : List String) : Written → Option (List (String × Written))
  | .obj fields =>
    if names.all fun name => fields.countP (fun field => field.1 == name) ≤ 1 then some fields
    else none
  | _ => none

/-- The fields of a record with the given field names in declared order. A list is taken
as the values of the first fields. -/
def record? (names : List String) : Written → Option (List (String × Written))
  | .arr items => if items.length ≤ names.length then some (names.zip items) else none
  | written => written.declared? names

/-- The same for a record whose list must have all values. -/
def wholeRecord? (names : List String) : Written → Option (List (String × Written))
  | .arr items => if items.length = names.length then some (names.zip items) else none
  | written => written.declared? names

/-- What the fields of a name hold. -/
def valuesOf (fields : List (String × Written)) (name : String) : List Written :=
  (fields.filter fun field => field.1 == name).map (·.2)

/-- A field that must be there. -/
def required? {α : Type} (fields : List (String × Written)) (name : String)
    (read : Written → Option α) : Option α :=
  ((valuesOf fields name).mapM read).bind List.getLast?

/-- Nothing for `null`, else what is read. -/
def nullable? {α : Type} (read : Written → Option α) (written : Written) : Option (Option α) :=
  if written.isNull then some none else (read written).map some

/-- A field that may be absent or `null`. -/
def optional? {α : Type} (fields : List (String × Written)) (name : String)
    (read : Written → Option α) : Option (Option α) :=
  ((valuesOf fields name).mapM (nullable? read)).map fun values => values.getLast?.join

/-- A field with a default for when it is absent. -/
def defaulted? {α : Type} (fields : List (String × Written)) (name : String) (default : α)
    (read : Written → Option α) : Option α :=
  ((valuesOf fields name).mapM read).map fun values => values.getLast?.getD default

def bool? : Written → Option Bool
  | .bool value => some value
  | _ => none

/-- An integer within bounds. -/
def intWithin? (low high : Int) : Written → Option Int
  | .int value => if low ≤ value ∧ value ≤ high then some value else none
  | _ => none

/-- A signed integer of 32 bits. -/
def int32? (written : Written) : Option Int32 :=
  (written.intWithin? (-2147483648) 2147483647).map Int32.ofInt

/-- A signed integer of 64 bits. -/
def int64? (written : Written) : Option Int64 :=
  (written.intWithin? (-9223372036854775808) 9223372036854775807).map Int64.ofInt

/-- A list whose items can all be read. -/
def list? {α : Type} (read : Written → Option α) : Written → Option (List α)
  | .arr items => items.mapM read
  | _ => none

/-- A list of texts. -/
def texts? : Written → Option (List String) := list? text?

/-- An object whose values can all be read, as a table. -/
def table? {α : Type} (read : Written → Option α) : Written → Option (Table String α)
  | .obj fields => (fields.mapM fun field => (read field.2).map (field.1, ·)).map Table.ofList
  | _ => none

/-- An object of texts. -/
def textTable? : Written → Option (Table String String) := table? text?

end PlatformApps.Written
