/-
# Shapes of documents

Many parts of the objects of the API server are of no concern here and are only passed
on. Their shape says what may be in them: what does not fit is refused, and of what fits
only the known fields are kept. A field that every such object has may still be left out
or `null`; it is then filled in with the blank value of its shape.
-/

import PlatformApps.Json.Record
import PlatformApps.Text.Base64
import PlatformApps.Timestamp

namespace PlatformApps

inductive Shape where
  | text
  | boolean
  /-- An integer of 32 bits. -/
  | int32
  /-- An integer of 64 bits. -/
  | int64
  /-- A text, or an integer of 32 bits. -/
  | textOrInteger
  /-- Bytes in base 64, of which `null` is none. -/
  | bytes
  /-- A timestamp at whole seconds. -/
  | time
  /-- Any document. -/
  | document
  | list (item : Shape)
  | table (value : Shape)
  /-- Fields that are filled in where they are missing, and fields that may be missing. -/
  | record (filled optional : List (String × Shape))

namespace Shape

/-- A list of texts. -/
def texts : Shape := .list .text

/-- A table of texts. -/
def textTable : Shape := .table .text

mutual

/-- What stands for a missing value. -/
def blank : Shape → Json
  | .text | .bytes => .str ""
  | .boolean => .bool false
  | .int32 | .int64 | .textOrInteger => .int 0
  | .time => .str Timestamp.epoch.render
  | .document => .null
  | .list _ => .arr []
  | .table _ => .obj []
  | .record filled _ => .ofFields (blankFields filled)
  termination_by structural shape => shape

def blankFields : List (String × Shape) → List (String × Json)
  | [] => []
  | (name, shape) :: rest => (name, blank shape) :: blankFields rest
  termination_by structural fields => fields

end

/-- The written form of a timestamp, at whole seconds. -/
def readTime? (written : Written) : Option Json :=
  (written.text?.bind Timestamp.parse?).map fun time => .str time.render

def readBytes? : Written → Option Json
  | .null => some (.str "")
  | .str digits => (Text.Base64.decode? digits.toList).map fun _ => .str digits
  | _ => none

mutual

/-- The document, with what is known of it. -/
def read? : Shape → Written → Option Json
  | .text, written => written.text?.map .str
  | .boolean, written => written.bool?.map .bool
  | .int32, written => written.int32?.map fun value => .int value.toInt
  | .int64, written => written.int64?.map fun value => .int value.toInt
  | .textOrInteger, written =>
    match written with
    | .str content => some (.str content)
    | other => other.int32?.map fun value => .int value.toInt
  | .bytes, written => readBytes? written
  | .time, written => readTime? written
  | .document, written => written.toJson?
  | .list item, written => (written.list? (read? item)).map .arr
  | .table value, written => (written.table? (read? value)).map fun table => .obj table.toList
  | .record filled optional, written =>
    written.fields?.bind fun given => do
      let always ← readFilled? filled given
      let present ← readOptional? optional given
      pure (.ofPresent (always ++ present))
  termination_by structural shape => shape

def readFilled? : List (String × Shape) → List (String × Written) →
    Option (List (String × Option Json))
  | [], _ => some []
  | (name, shape) :: rest, given => do
    let value ← Written.optional? given name (read? shape)
    let others ← readFilled? rest given
    pure ((name, some (value.getD (blank shape))) :: others)
  termination_by structural fields => fields

def readOptional? : List (String × Shape) → List (String × Written) →
    Option (List (String × Option Json))
  | [], _ => some []
  | (name, shape) :: rest, given => do
    let value ← Written.optional? given name (read? shape)
    let others ← readOptional? rest given
    pure ((name, value) :: others)
  termination_by structural fields => fields

end

end Shape

end PlatformApps
