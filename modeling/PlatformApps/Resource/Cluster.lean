/-
# Clusters

A Cluster describes a workload cluster: its networks, the address of its control plane,
and the provider objects behind it. Only the fields that matter here are kept.
-/

import PlatformApps.Failure
import PlatformApps.Resource.Metadata

namespace PlatformApps

/-- Address blocks of a network. -/
structure NetworkRanges where
  cidrBlocks : List String := []
  deriving DecidableEq, Inhabited

namespace NetworkRanges

def toJson (ranges : NetworkRanges) : Json :=
  .ofFields [("cidrBlocks", .ofStrings ranges.cidrBlocks)]

def read? (written : Written) : Option NetworkRanges := do
  let fields ← written.record? ["cidrBlocks"]
  pure { cidrBlocks := ← Written.defaulted? fields "cidrBlocks" [] Written.texts? }

end NetworkRanges

structure ClusterNetwork where
  services : Option NetworkRanges := none
  pods : Option NetworkRanges := none
  serviceDomain : String := ""
  deriving DecidableEq, Inhabited

namespace ClusterNetwork

def toJson (network : ClusterNetwork) : Json :=
  .ofPresent [
    ("pods", network.pods.map NetworkRanges.toJson),
    ("serviceDomain",
      if network.serviceDomain.isEmpty then none else some (.str network.serviceDomain)),
    ("services", network.services.map NetworkRanges.toJson)]

def read? (written : Written) : Option ClusterNetwork := do
  let fields ← written.record? ["services", "pods", "serviceDomain"]
  pure {
    services := ← Written.optional? fields "services" NetworkRanges.read?
    pods := ← Written.optional? fields "pods" NetworkRanges.read?
    serviceDomain := ← Written.defaulted? fields "serviceDomain" "" Written.text? }

end ClusterNetwork

/-- Address of an API server. -/
structure ApiEndpoint where
  host : String := ""
  port : Int32 := 0
  deriving DecidableEq, Inhabited

namespace ApiEndpoint

def toJson (endpoint : ApiEndpoint) : Json :=
  .ofFields [("host", .str endpoint.host), ("port", .int endpoint.port.toInt)]

def read? (written : Written) : Option ApiEndpoint := do
  let fields ← written.record? ["host", "port"]
  pure {
    host := ← Written.defaulted? fields "host" "" Written.text?
    port := ← Written.defaulted? fields "port" 0 Written.int32? }

end ApiEndpoint

/-- A typed pointer to another object. -/
structure ObjectReference where
  apiVersion : String := ""
  kind : String
  name : String
  namespace_ : Option String := none
  deriving DecidableEq, Inhabited

namespace ObjectReference

/-- Namespace of the object that is meant; an absent or empty one is that of the referrer. -/
def namespaceOr (reference : ObjectReference) (fallback : String) : String :=
  match reference.namespace_ with
  | some namespace_ => if namespace_.isEmpty then fallback else namespace_
  | none => fallback

def toJson (reference : ObjectReference) : Json :=
  .ofPresent [
    ("apiVersion",
      if reference.apiVersion.isEmpty then none else some (.str reference.apiVersion)),
    ("kind", some (.str reference.kind)),
    ("name", some (.str reference.name)),
    ("namespace", reference.namespace_.map .str)]

def read? (written : Written) : Option ObjectReference := do
  let fields ← written.record? ["apiVersion", "kind", "name", "namespace"]
  pure {
    apiVersion := ← Written.defaulted? fields "apiVersion" "" Written.text?
    kind := ← Written.required? fields "kind" Written.text?
    name := ← Written.required? fields "name" Written.text?
    namespace_ := ← Written.optional? fields "namespace" Written.text? }

end ObjectReference

structure ClusterSpec where
  clusterNetwork : Option ClusterNetwork := none
  controlPlaneEndpoint : Option ApiEndpoint := none
  controlPlaneRef : Option ObjectReference := none
  infrastructureRef : Option ObjectReference := none
  paused : Option Bool := none
  deriving DecidableEq, Inhabited

namespace ClusterSpec

def toJson (spec : ClusterSpec) : Json :=
  .ofPresent [
    ("clusterNetwork", spec.clusterNetwork.map ClusterNetwork.toJson),
    ("controlPlaneEndpoint", spec.controlPlaneEndpoint.map ApiEndpoint.toJson),
    ("controlPlaneRef", spec.controlPlaneRef.map ObjectReference.toJson),
    ("infrastructureRef", spec.infrastructureRef.map ObjectReference.toJson),
    ("paused", spec.paused.map .bool)]

def read? (written : Written) : Option ClusterSpec := do
  let fields ← written.record? ["clusterNetwork", "controlPlaneEndpoint", "controlPlaneRef",
    "infrastructureRef", "paused"]
  pure {
    clusterNetwork := ← Written.optional? fields "clusterNetwork" ClusterNetwork.read?
    controlPlaneEndpoint := ← Written.optional? fields "controlPlaneEndpoint" ApiEndpoint.read?
    controlPlaneRef := ← Written.optional? fields "controlPlaneRef" ObjectReference.read?
    infrastructureRef := ← Written.optional? fields "infrastructureRef" ObjectReference.read?
    paused := ← Written.optional? fields "paused" Written.bool? }

def serviceCidrs (spec : ClusterSpec) : List String :=
  ((spec.clusterNetwork.bind ClusterNetwork.services).map NetworkRanges.cidrBlocks).getD []

def podCidrs (spec : ClusterSpec) : List String :=
  ((spec.clusterNetwork.bind ClusterNetwork.pods).map NetworkRanges.cidrBlocks).getD []

def serviceDomain (spec : ClusterSpec) : String :=
  (spec.clusterNetwork.map ClusterNetwork.serviceDomain).getD ""

def controlPlaneHost (spec : ClusterSpec) : String :=
  (spec.controlPlaneEndpoint.map ApiEndpoint.host).getD ""

/-- Does the cluster run on a control plane that AWS manages? Such a control plane brings
its own network plugin, name service and proxy. -/
def isManagedAws (spec : ClusterSpec) : Bool :=
  (spec.controlPlaneRef.any fun reference => reference.kind == "AWSManagedControlPlane") &&
    (spec.infrastructureRef.any fun reference => reference.kind == "AWSManagedCluster")

end ClusterSpec

structure ClusterStatus where
  phase : Option String := none
  infrastructureReady : Bool := false
  controlPlaneReady : Bool := false
  deriving DecidableEq, Inhabited

namespace ClusterStatus

def toJson (status : ClusterStatus) : Json :=
  .ofPresent [
    ("controlPlaneReady", some (.bool status.controlPlaneReady)),
    ("infrastructureReady", some (.bool status.infrastructureReady)),
    ("phase", status.phase.map .str)]

def read? (written : Written) : Option ClusterStatus := do
  let fields ← written.record? ["phase", "infrastructureReady", "controlPlaneReady"]
  pure {
    phase := ← Written.optional? fields "phase" Written.text?
    infrastructureReady := ← Written.defaulted? fields "infrastructureReady" false Written.bool?
    controlPlaneReady := ← Written.defaulted? fields "controlPlaneReady" false Written.bool? }

end ClusterStatus

structure Cluster where
  metadata : Metadata := {}
  spec : ClusterSpec := {}
  status : Option ClusterStatus := none
  deriving DecidableEq, Inhabited

namespace Cluster

def type : ObjectType := ⟨"cluster.x-k8s.io/v1beta1", "Cluster"⟩

def name (cluster : Cluster) : String := cluster.metadata.anyName

def labels (cluster : Cluster) : Labels := cluster.metadata.labelTable

def finalizers (cluster : Cluster) : List String := cluster.metadata.finalizerList

def isDeleting (cluster : Cluster) : Bool := cluster.metadata.isDeleting

/-- Pod addresses: the first block of the cluster, else the default where it is not empty. -/
def podCidr (cluster : Cluster) (default : String) : Outcome String :=
  match cluster.spec.podCidrs.head? with
  | some cidr => .ok cidr
  | none => if default = "" then .error (.notFound "pod CIDR" cluster.name) else .ok default

def toJson (cluster : Cluster) : Json :=
  type.document cluster.metadata
    [("spec", some cluster.spec.toJson), ("status", cluster.status.map ClusterStatus.toJson)]

def read? (written : Written) : Option Cluster := do
  let fields ← written.wholeRecord? ["metadata", "spec", "status"]
  pure {
    metadata := ← Written.required? fields "metadata" Metadata.read?
    spec := ← Written.required? fields "spec" ClusterSpec.read?
    status := ← Written.optional? fields "status" ClusterStatus.read? }

end Cluster

end PlatformApps
