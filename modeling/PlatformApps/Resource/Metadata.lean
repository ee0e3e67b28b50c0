/-
# Metadata of objects

What every object of the API carries: names, labels, annotations, finalizers and the
mark of a requested deletion. A list or table may be absent or present but empty; both
are kept as they are. Owners and the record of who manages which field are passed on.
-/

import PlatformApps.Json.Record
import PlatformApps.Timestamp

namespace PlatformApps

/-- Labels or annotations. -/
abbrev Labels := Table String String

/-- A timestamp in its written form. -/
def Timestamp.read? (written : Written) : Option Timestamp := written.text?.bind Timestamp.parse?

/-- The object that an object belongs to. -/
structure OwnerReference where
  apiVersion : String := ""
  kind : String := ""
  name : String := ""
  uid : String := ""
  blockOwnerDeletion : Option Bool := none
  controller : Option Bool := none
  deriving DecidableEq, Inhabited

namespace OwnerReference

def toJson (owner : OwnerReference) : Json :=
  .ofPresent [
    ("apiVersion", some (.str owner.apiVersion)),
    ("blockOwnerDeletion", owner.blockOwnerDeletion.map .bool),
    ("controller", owner.controller.map .bool),
    ("kind", some (.str owner.kind)),
    ("name", some (.str owner.name)),
    ("uid", some (.str owner.uid))]

/-- Texts that are missing are empty. -/
def read? (written : Written) : Option OwnerReference := do
  let fields ← written.fields?
  let text (name : String) :=
    (Written.optional? fields name Written.text?).map fun given => given.getD ""
  pure {
    apiVersion := ← text "apiVersion"
    kind := ← text "kind"
    name := ← text "name"
    uid := ← text "uid"
    blockOwnerDeletion := ← Written.optional? fields "blockOwnerDeletion" Written.bool?
    controller := ← Written.optional? fields "controller" Written.bool? }

end OwnerReference

/-- Who last wrote which fields of an object. -/
structure FieldManager where
  apiVersion : Option String := none
  /-- How the fields are described. -/
  fieldsType : Option String := none
  fields : Option Json := none
  manager : Option String := none
  operation : Option String := none
  subresource : Option String := none
  time : Option Timestamp := none
  deriving DecidableEq, Inhabited

namespace FieldManager

def toJson (manager : FieldManager) : Json :=
  .ofPresent [
    ("apiVersion", manager.apiVersion.map .str),
    ("fieldsType", manager.fieldsType.map .str),
    ("fieldsV1", manager.fields),
    ("manager", manager.manager.map .str),
    ("operation", manager.operation.map .str),
    ("subresource", manager.subresource.map .str),
    ("time", manager.time.map fun time => .str time.render)]

def read? (written : Written) : Option FieldManager := do
  let fields ← written.fields?
  let text (name : String) := Written.optional? fields name Written.text?
  pure {
    apiVersion := ← text "apiVersion"
    fieldsType := ← text "fieldsType"
    fields := ← Written.optional? fields "fieldsV1" Written.toJson?
    manager := ← text "manager"
    operation := ← text "operation"
    subresource := ← text "subresource"
    time := ← Written.optional? fields "time" Timestamp.read? }

end FieldManager

structure Metadata where
  name : Option String := none
  generateName : Option String := none
  namespace_ : Option String := none
  labels : Option Labels := none
  annotations : Option Labels := none
  finalizers : Option (List String) := none
  deletionTimestamp : Option Timestamp := none
  resourceVersion : Option String := none
  uid : Option String := none
  generation : Option Int64 := none
  creationTimestamp : Option Timestamp := none
  /-- Seconds that are left to an object whose deletion has been requested. -/
  deletionGracePeriodSeconds : Option Int64 := none
  selfLink : Option String := none
  ownerReferences : Option (List OwnerReference) := none
  managedFields : Option (List FieldManager) := none
  deriving DecidableEq, Inhabited

namespace Metadata

/-- The name, else the stem that a name is generated from, else the empty text. -/
def anyName (metadata : Metadata) : String :=
  (metadata.name.orElse fun _ => metadata.generateName).getD ""

def labelTable (metadata : Metadata) : Labels := metadata.labels.getD ∅

def annotationTable (metadata : Metadata) : Labels := metadata.annotations.getD ∅

def finalizerList (metadata : Metadata) : List String := metadata.finalizers.getD []

/-- Has deletion been requested? -/
def isDeleting (metadata : Metadata) : Bool := metadata.deletionTimestamp.isSome

def toJson (metadata : Metadata) : Json :=
  .ofPresent [
    ("annotations", metadata.annotations.map .ofTexts),
    ("creationTimestamp", metadata.creationTimestamp.map fun time => .str time.render),
    ("deletionGracePeriodSeconds",
      metadata.deletionGracePeriodSeconds.map fun seconds => .int seconds.toInt),
    ("deletionTimestamp", metadata.deletionTimestamp.map fun time => .str time.render),
    ("finalizers", metadata.finalizers.map .ofStrings),
    ("generateName", metadata.generateName.map .str),
    ("generation", metadata.generation.map fun count => .int count.toInt),
    ("labels", metadata.labels.map .ofTexts),
    ("managedFields",
      metadata.managedFields.map fun managers => .arr (managers.map FieldManager.toJson)),
    ("name", metadata.name.map .str),
    ("namespace", metadata.namespace_.map .str),
    ("ownerReferences",
      metadata.ownerReferences.map fun owners => .arr (owners.map OwnerReference.toJson)),
    ("resourceVersion", metadata.resourceVersion.map .str),
    ("selfLink", metadata.selfLink.map .str),
    ("uid", metadata.uid.map .str)]

def read? (written : Written) : Option Metadata := do
  let fields ← written.fields?
  let text (name : String) := Written.optional? fields name Written.text?
  pure {
    name := ← text "name"
    generateName := ← text "generateName"
    namespace_ := ← text "namespace"
    labels := ← Written.optional? fields "labels" Written.textTable?
    annotations := ← Written.optional? fields "annotations" Written.textTable?
    finalizers := ← Written.optional? fields "finalizers" Written.texts?
    deletionTimestamp := ← Written.optional? fields "deletionTimestamp" Timestamp.read?
    resourceVersion := ← text "resourceVersion"
    uid := ← text "uid"
    generation := ← Written.optional? fields "generation" Written.int64?
    creationTimestamp := ← Written.optional? fields "creationTimestamp" Timestamp.read?
    deletionGracePeriodSeconds :=
      ← Written.optional? fields "deletionGracePeriodSeconds" Written.int64?
    selfLink := ← text "selfLink"
    ownerReferences :=
      ← Written.optional? fields "ownerReferences" (Written.list? OwnerReference.read?)
    managedFields :=
      ← Written.optional? fields "managedFields" (Written.list? FieldManager.read?) }

end Metadata

/-- Group, version and kind of a type of object. -/
structure ObjectType where
  apiVersion : String
  kind : String

/-- An object with metadata and further fields, under the type's own version and kind. -/
def ObjectType.document (type : ObjectType) (metadata : Metadata)
    (fields : List (String × Option Json)) : Json :=
  .ofPresent (("apiVersion", some (.str type.apiVersion)) :: ("kind", some (.str type.kind)) ::
    ("metadata", some metadata.toJson) :: fields)

end PlatformApps
