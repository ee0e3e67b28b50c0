/-
# The finalizer of a cluster

A finalizer keeps a deleted cluster in place until this operator has cleaned up after it.
It is put on before anything is created for the cluster, and it comes off once the cleanup
has succeeded. Others may change the finalizers at the same time, so each change says
what it expects to find and is refused where that is not so.
-/

import PlatformApps.Naming

namespace PlatformApps

/-- What is to be done for a cluster, by its finalizers and its deletion mark. -/
inductive ClusterStage where
  /-- The finalizer goes on first. -/
  | adopt
  | apply
  /-- The finalizer is at this place among those of the cluster. -/
  | cleanUp (place : Nat)
  /-- A deleted cluster without the finalizer is nobody's business here. -/
  | leave
  deriving DecidableEq, Repr

def Cluster.stage (cluster : Cluster) : ClusterStage :=
  match cluster.finalizers.idxOf? clusterFinalizer, cluster.metadata.isDeleting with
  | some _, false => .apply
  | some place, true => .cleanUp place
  | none, false => .adopt
  | none, true => .leave

inductive FinalizerChange where
  /-- Puts the finalizer behind those that are known. -/
  | add (known : List String)
  /-- Takes the finalizer off, from the place where it is known to be. -/
  | remove (place : Nat)
  deriving DecidableEq, Repr

namespace FinalizerChange

/-- The finalizers after a change; nothing where they are not as expected. -/
def result? (finalizers : List String) : FinalizerChange → Option (List String)
  | add known => if finalizers = known then some (known ++ [clusterFinalizer]) else none
  | remove place =>
    if finalizers[place]? = some clusterFinalizer then some (finalizers.eraseIdx place) else none

/-- One operation on a document, at a path. -/
def operation (name path : String) (value : Option Json) : Json :=
  .ofPresent [("op", some (.str name)), ("path", some (.str path)), ("value", value)]

/-- The change as operations on the document of the cluster. -/
def toJson : FinalizerChange → Json
  | add [] => .arr [
    operation "test" "/metadata/finalizers" (some .null),
    operation "add" "/metadata/finalizers" (some (.ofStrings [clusterFinalizer]))]
  | add known => .arr [
    operation "test" "/metadata/finalizers" (some (.ofStrings known)),
    operation "add" "/metadata/finalizers/-" (some (.str clusterFinalizer))]
  | remove place =>
    let path := "/metadata/finalizers/" ++ toString place
    .arr [operation "test" path (some (.str clusterFinalizer)), operation "remove" path none]

/-- The failure of a pass whose change of the finalizers failed. -/
def failure (failure : Failure) (change : FinalizerChange) : Failure :=
  let detail :=
    match failure with
    | .api status => status.report
    | .exchange detail => detail
    | other => other.message
  match change with
  | add _ => .finalizer (.adding detail)
  | remove _ => .finalizer (.removing detail)

end FinalizerChange

end PlatformApps
