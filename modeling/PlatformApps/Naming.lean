/-
# Names and labels shared with other controllers

Which labels mark the objects of a cluster, which of them this operator manages, and how
the names of those objects follow from the id of the cluster.
-/

import PlatformApps.Resource.App
import PlatformApps.Resource.Cluster
import PlatformApps.Resource.Core
import PlatformApps.Text.Blank

namespace PlatformApps

/-- Name under which this operator marks and writes objects. -/
def projectName : String := "cluster-apps-operator"

namespace Label

def cluster : String := "giantswarm.io/cluster"
def clusterName : String := "cluster.x-k8s.io/cluster-name"
def managedBy : String := "giantswarm.io/managed-by"
def appName : String := "app.kubernetes.io/name"
def agentVersion : String := "app-operator.giantswarm.io/version"
def releaseVersion : String := "release.giantswarm.io/version"
def kustomizationName : String := "kustomize.toolkit.fluxcd.io/name"
def kustomizationNamespace : String := "kustomize.toolkit.fluxcd.io/namespace"

end Label

namespace Annotation

def forceUpgrade : String := "chart-operator.giantswarm.io/force-helm-upgrade"
def notes : String := "giantswarm.io/notes"

/-- Annotations that the platform agent writes back onto Apps. -/
def preserved : List String := [
  "app-operator.giantswarm.io/latest-configmap-version",
  "app-operator.giantswarm.io/latest-secret-version"]

end Annotation

/-- The operator of the first tier: it installs the Apps of a cluster. -/
def platformAgent : String := "app-operator"

/-- The operator of the second tier: it runs inside the workload cluster. -/
def secondTier : String := "chart-operator"

/-- Finalizer that the platform agent puts on every App it reconciles. -/
def agentFinalizer : String := "operatorkit.giantswarm.io/app-operator-app"

/-- Finalizer that keeps a deleted cluster until its Apps are gone. -/
def clusterFinalizer : String := "cluster-apps.giantswarm.io/finalizer"

/-- Version label of the platform agent's own App, which only the instance of the
management cluster reconciles. -/
def managementVersion : String := "0.0.0"

/-- Release entries that a control plane managed by AWS provides itself. -/
def providedByManagedAws : List String := ["aws-cni", "coredns", "kube-proxy"]

namespace Cluster

/-- Id of the cluster: the operator's own label when it is not empty, else the label of
the cluster API, else the empty text. -/
def id (cluster : Cluster) : String :=
  match cluster.labels.find? Label.cluster with
  | some own => if own.isEmpty then (cluster.labels.find? Label.clusterName).getD "" else own
  | none => (cluster.labels.find? Label.clusterName).getD ""

/-- Namespace of the cluster and of everything that belongs to it. -/
def space (cluster : Cluster) : String := cluster.metadata.namespace_.getD "default"

/-- Version of the release that the cluster selects. -/
def releaseVersion (cluster : Cluster) : Option String :=
  (cluster.labels.find? Label.releaseVersion).filter fun version => !version.isEmpty

def hasFinalizer (cluster : Cluster) : Bool := cluster.finalizers.contains clusterFinalizer

end Cluster

/-- Name of the release of a version. -/
def releaseName (version : String) : String := "v" ++ Text.trimStart 'v' version

def agentAppName (id : String) : String := id ++ "-" ++ platformAgent

def secondTierAppName (id : String) : String := id ++ "-" ++ secondTier

/-- Deployment that the chart of the platform agent creates. -/
def agentDeploymentName (id : String) : String := platformAgent ++ "-" ++ id

def agentValuesName (id : String) : String := id ++ "-app-operator-values"

def clusterValuesName (id : String) : String := id ++ "-cluster-values"

def clusterCaName (id : String) : String := id ++ "-ca"

def kubeconfigName (id : String) : String := id ++ "-kubeconfig"

def clusterDomain (id base : String) : String := id ++ "." ++ base

/-- Name of the App for an entry of the release manifest. -/
def manifestAppName (id app : String) : String := id ++ "-" ++ app

def userValuesName (appName : String) : String := appName ++ "-user-values"

def userSecretsName (appName : String) : String := appName ++ "-user-secrets"

/-- Labels of every object that this operator creates for a cluster. -/
def managedLabels (id : String) : Labels :=
  .ofList [(Label.cluster, id), (Label.managedBy, projectName)]

/-- Is the object one of this operator's? -/
def isManaged (labels : Labels) : Bool := labels.find? Label.managedBy == some projectName

/-- Does a GitOps controller own the object? It would recreate what is deleted here. -/
def isForeign (labels : Labels) : Bool :=
  labels.contains Label.kustomizationName && labels.contains Label.kustomizationNamespace

end PlatformApps
