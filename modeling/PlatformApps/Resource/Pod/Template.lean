/-
# Shapes of metadata in templates

Templates of pods and of claims carry the metadata of the objects made from them.
-/

import PlatformApps.Json.Shape

namespace PlatformApps.Pod

/-- The shape of a reference to an owner. -/
def owner : Shape :=
  .record [("apiVersion", .text), ("kind", .text), ("name", .text), ("uid", .text)]
    [("blockOwnerDeletion", .boolean), ("controller", .boolean)]

/-- The shape of a note about who manages which fields. -/
def manager : Shape :=
  .record []
    [("apiVersion", .text), ("fieldsType", .text), ("fieldsV1", .document), ("manager", .text),
      ("operation", .text), ("subresource", .text), ("time", .time)]

/-- The shape of the metadata of what a template makes. -/
def metadata : Shape :=
  .record []
    [("annotations", .textTable), ("creationTimestamp", .time),
      ("deletionGracePeriodSeconds", .int64), ("deletionTimestamp", .time),
      ("finalizers", .texts), ("generateName", .text), ("generation", .int64),
      ("labels", .textTable), ("managedFields", .list manager), ("name", .text),
      ("namespace", .text), ("ownerReferences", .list owner), ("resourceVersion", .text),
      ("selfLink", .text), ("uid", .text)]

end PlatformApps.Pod
