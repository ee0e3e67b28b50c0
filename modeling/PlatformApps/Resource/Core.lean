/-
# Config maps, secrets and namespaces

The built-in objects that hold configuration values, and the namespace named after a
workload cluster. A document that states another version or kind is not one of them.
-/

import PlatformApps.Json.Shape
import PlatformApps.Resource.Metadata
import PlatformApps.Text.Base64
import PlatformApps.Text.Utf8

namespace PlatformApps

/-- A field that, wherever it is written, must hold a fixed text. -/
def statesOnly (fields : List (String × Written)) (name expected : String) : Option Unit :=
  if (Written.valuesOf fields name).all fun value => value.text? == some expected then some ()
  else none

/-- The fields of a built-in object, which may state its version and kind. -/
def builtIn? (type : ObjectType) (written : Written) : Option (List (String × Written)) := do
  let fields ← written.fields?
  statesOnly fields "apiVersion" type.apiVersion
  statesOnly fields "kind" type.kind
  pure fields

/-- Metadata, which built-in objects may leave out. -/
def metadataOrEmpty? (fields : List (String × Written)) : Option Metadata :=
  (Written.optional? fields "metadata" Metadata.read?).map (·.getD {})

structure ConfigMap where
  metadata : Metadata := {}
  data : Option (Table String String) := none
  /-- Bytes in base 64, beside the texts. -/
  binaryData : Option Json := none
  immutable : Option Bool := none
  deriving DecidableEq, Inhabited

namespace ConfigMap

def type : ObjectType := ⟨"v1", "ConfigMap"⟩

def toJson (configMap : ConfigMap) : Json :=
  type.document configMap.metadata [
    ("binaryData", configMap.binaryData),
    ("data", configMap.data.map .ofTexts),
    ("immutable", configMap.immutable.map .bool)]

def read? (written : Written) : Option ConfigMap := do
  let fields ← builtIn? type written
  pure {
    metadata := ← metadataOrEmpty? fields
    data := ← Written.optional? fields "data" Written.textTable?
    binaryData := ← Written.optional? fields "binaryData" (Shape.table .bytes).read?
    immutable := ← Written.optional? fields "immutable" Written.bool? }

end ConfigMap

/-- Named values of a secret. -/
abbrev SecretData := Table String (List UInt8)

structure Secret where
  metadata : Metadata := {}
  data : Option SecretData := none
  immutable : Option Bool := none
  /-- Values as texts, which the API server turns into bytes. -/
  stringData : Option (Table String String) := none
  /-- What the secret is for. -/
  purpose : Option String := none
  deriving DecidableEq, Inhabited

namespace Secret

def type : ObjectType := ⟨"v1", "Secret"⟩

/-- Bytes travel as base 64. -/
def bytesToJson (bytes : List UInt8) : Json := .str (String.ofList (Text.Base64.encode bytes))

/-- Bytes from base 64; `null` is none. -/
def bytes? : Written → Option (List UInt8)
  | .null => some []
  | .str text => Text.Base64.decode? text.toList
  | _ => none

def toJson (secret : Secret) : Json :=
  type.document secret.metadata [
    ("data", secret.data.map fun data =>
      .obj (data.toList.map fun entry => (entry.1, bytesToJson entry.2))),
    ("immutable", secret.immutable.map .bool),
    ("stringData", secret.stringData.map .ofTexts),
    ("type", secret.purpose.map .str)]

def read? (written : Written) : Option Secret := do
  let fields ← builtIn? type written
  pure {
    metadata := ← metadataOrEmpty? fields
    data := ← Written.optional? fields "data" (Written.table? bytes?)
    immutable := ← Written.optional? fields "immutable" Written.bool?
    stringData := ← Written.optional? fields "stringData" Written.textTable?
    purpose := ← Written.optional? fields "type" Written.text? }

end Secret

structure Namespace where
  metadata : Metadata := {}
  spec : Option Json := none
  status : Option Json := none
  deriving DecidableEq, Inhabited

namespace Namespace

def type : ObjectType := ⟨"v1", "Namespace"⟩

def specShape : Shape := .record [] [("finalizers", .texts)]

def conditionShape : Shape :=
  .record [("status", .text), ("type", .text)]
    [("lastTransitionTime", .time), ("message", .text), ("reason", .text)]

def statusShape : Shape := .record [] [("conditions", .list conditionShape), ("phase", .text)]

def toJson (space : Namespace) : Json :=
  type.document space.metadata [("spec", space.spec), ("status", space.status)]

def read? (written : Written) : Option Namespace := do
  let fields ← builtIn? type written
  pure {
    metadata := ← metadataOrEmpty? fields
    spec := ← Written.optional? fields "spec" specShape.read?
    status := ← Written.optional? fields "status" statusShape.read? }

end Namespace

end PlatformApps
