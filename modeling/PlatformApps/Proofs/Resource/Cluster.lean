/-
# Clusters as documents

The specification and the status of a cluster are read as they were written: a block that is
there without content stays apart from one that is not there, and a text that is not written
because it is empty is empty again.
-/

import PlatformApps.Proofs.Resource.Metadata
import PlatformApps.Resource.Cluster

namespace PlatformApps

open Written

namespace NetworkRanges

theorem read?_toJson (ranges : NetworkRanges) : read? (.ofJson ranges.toJson) = some ranges := by
  obtain ⟨fields, same, sorted, found⟩ :=
    Json.eq_obj_of_ofFields (rfl : ranges.toJson = _) (by simp)
  have distinct := sorted.nodup_keys
  have blocks := defaulted?_of_written texts?_ofStrings distinct [] (found "cidrBlocks")
  rw [same, read?, record?_ofJson distinct, Option.bind_eq_bind, Option.bind_some, blocks]
  rfl

end NetworkRanges

namespace ClusterNetwork

theorem read?_toJson (network : ClusterNetwork) :
    read? (.ofJson network.toJson) = some network := by
  obtain ⟨fields, same, sorted, found⟩ :=
    Json.eq_obj_of_ofPresent (rfl : network.toJson = _) (by simp)
  have distinct := sorted.nodup_keys
  have services := optional?_of_written NetworkRanges.read?_toJson (fun _ => rfl) distinct
    (found "services")
  have pods := optional?_of_written NetworkRanges.read?_toJson (fun _ => rfl) distinct
    (found "pods")
  have domain := defaulted?_of_filled distinct (found "serviceDomain")
  rw [same, read?, record?_ofJson distinct, Option.bind_eq_bind, Option.bind_some, services, pods,
    domain]
  rfl

end ClusterNetwork

namespace ApiEndpoint

theorem read?_toJson (endpoint : ApiEndpoint) :
    read? (.ofJson endpoint.toJson) = some endpoint := by
  obtain ⟨fields, same, sorted, found⟩ :=
    Json.eq_obj_of_ofFields (rfl : endpoint.toJson = _) (by simp)
  have distinct := sorted.nodup_keys
  have host := defaulted?_of_written text?_str distinct "" (found "host")
  have port := defaulted?_of_written int32?_toInt distinct 0 (found "port")
  rw [same, read?, record?_ofJson distinct, Option.bind_eq_bind, Option.bind_some, host, port]
  rfl

end ApiEndpoint

namespace ObjectReference

theorem read?_toJson (reference : ObjectReference) :
    read? (.ofJson reference.toJson) = some reference := by
  obtain ⟨fields, same, sorted, found⟩ :=
    Json.eq_obj_of_ofPresent (rfl : reference.toJson = _) (by simp)
  have distinct := sorted.nodup_keys
  have version := defaulted?_of_filled distinct (found "apiVersion")
  have kind := required?_of_written text?_str distinct (found "kind")
  have name := required?_of_written text?_str distinct (found "name")
  have space := optional?_of_written text?_str (fun _ => rfl) distinct (found "namespace")
  rw [same, read?, record?_ofJson distinct, Option.bind_eq_bind, Option.bind_some, version, kind,
    name, space]
  rfl

end ObjectReference

namespace ClusterSpec

theorem read?_toJson (spec : ClusterSpec) : read? (.ofJson spec.toJson) = some spec := by
  obtain ⟨fields, same, sorted, found⟩ :=
    Json.eq_obj_of_ofPresent (rfl : spec.toJson = _) (by simp)
  have distinct := sorted.nodup_keys
  have network := optional?_of_written ClusterNetwork.read?_toJson (fun _ => rfl) distinct
    (found "clusterNetwork")
  have endpoint := optional?_of_written ApiEndpoint.read?_toJson (fun _ => rfl) distinct
    (found "controlPlaneEndpoint")
  have controlPlane := optional?_of_written ObjectReference.read?_toJson (fun _ => rfl) distinct
    (found "controlPlaneRef")
  have infrastructure := optional?_of_written ObjectReference.read?_toJson (fun _ => rfl) distinct
    (found "infrastructureRef")
  have paused := optional?_of_written bool?_bool (fun _ => rfl) distinct (found "paused")
  rw [same, read?, record?_ofJson distinct, Option.bind_eq_bind, Option.bind_some, network,
    endpoint, controlPlane, infrastructure, paused]
  rfl

end ClusterSpec

namespace ClusterStatus

theorem read?_toJson (status : ClusterStatus) : read? (.ofJson status.toJson) = some status := by
  obtain ⟨fields, same, sorted, found⟩ :=
    Json.eq_obj_of_ofPresent (rfl : status.toJson = _) (by simp)
  have distinct := sorted.nodup_keys
  have phase := optional?_of_written text?_str (fun _ => rfl) distinct (found "phase")
  have infrastructure := defaulted?_of_written bool?_bool distinct false
    (found "infrastructureReady")
  have controlPlane := defaulted?_of_written bool?_bool distinct false (found "controlPlaneReady")
  rw [same, read?, record?_ofJson distinct, Option.bind_eq_bind, Option.bind_some, phase,
    infrastructure, controlPlane]
  rfl

end ClusterStatus

namespace Cluster

/-- A cluster as it is read from its written form. -/
def asRead (cluster : Cluster) : Cluster := { cluster with metadata := cluster.metadata.asRead }

theorem read?_toJson (cluster : Cluster) :
    read? (.ofJson cluster.toJson) = some cluster.asRead := by
  obtain ⟨fields, same, sorted, found⟩ :=
    Json.eq_obj_of_ofPresent (rfl : cluster.toJson = _) (by simp)
  have distinct := sorted.nodup_keys
  have metadata := Metadata.required?_of_written distinct (found "metadata")
  have spec := required?_of_written ClusterSpec.read?_toJson distinct (found "spec")
  have status := optional?_of_written ClusterStatus.read?_toJson (fun _ => rfl) distinct
    (found "status")
  rw [same, read?, wholeRecord?_ofJson distinct, Option.bind_eq_bind, Option.bind_some, metadata,
    spec, status]
  rfl

end Cluster

end PlatformApps
