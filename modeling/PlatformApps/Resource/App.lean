/-
# Apps

An App asks the platform agent of a cluster to install one chart. It names the chart,
where it goes, the kubeconfig to use, and the objects that hold configuration values.
-/

import PlatformApps.Resource.Metadata

namespace PlatformApps

/-- An object named together with its namespace. -/
structure NamespacedName where
  name : String
  namespace_ : String
  deriving DecidableEq, Inhabited

namespace NamespacedName

def toJson (reference : NamespacedName) : Json :=
  .ofFields [("name", .str reference.name), ("namespace", .str reference.namespace_)]

def read? (written : Written) : Option NamespacedName := do
  let fields ← written.record? ["name", "namespace"]
  pure {
    name := ← Written.required? fields "name" Written.text?
    namespace_ := ← Written.required? fields "namespace" Written.text? }

end NamespacedName

/-- Where configuration values come from. -/
structure ValuesSource where
  configMap : Option NamespacedName := none
  secret : Option NamespacedName := none
  deriving DecidableEq, Inhabited

namespace ValuesSource

def isEmpty (source : ValuesSource) : Bool := source.configMap.isNone && source.secret.isNone

def toJson (source : ValuesSource) : Json :=
  .ofPresent [
    ("configMap", source.configMap.map NamespacedName.toJson),
    ("secret", source.secret.map NamespacedName.toJson)]

def read? (written : Written) : Option ValuesSource := do
  let fields ← written.record? ["configMap", "secret"]
  pure {
    configMap := ← Written.optional? fields "configMap" NamespacedName.read?
    secret := ← Written.optional? fields "secret" NamespacedName.read? }

end ValuesSource

/-- How the cluster that an App is installed into is reached. -/
structure KubeConfig where
  inCluster : Bool := false
  /-- Name of the context. -/
  context : Option String := none
  secret : Option NamespacedName := none
  deriving DecidableEq, Inhabited

namespace KubeConfig

def contextToJson (name : String) : Json := .ofFields [("name", .str name)]

def contextName? (written : Written) : Option String := do
  let fields ← written.record? ["name"]
  Written.required? fields "name" Written.text?

def toJson (config : KubeConfig) : Json :=
  .ofPresent [
    ("context", config.context.map contextToJson),
    ("inCluster", some (.bool config.inCluster)),
    ("secret", config.secret.map NamespacedName.toJson)]

def read? (written : Written) : Option KubeConfig := do
  let fields ← written.record? ["inCluster", "context", "secret"]
  pure {
    inCluster := ← Written.defaulted? fields "inCluster" false Written.bool?
    context := ← Written.optional? fields "context" contextName?
    secret := ← Written.optional? fields "secret" NamespacedName.read? }

end KubeConfig

structure AppSpec where
  /-- Catalog that the chart is pulled from. -/
  catalog : String := ""
  /-- Name of the chart in the index of the catalog. -/
  name : String := ""
  /-- Namespace that the chart is installed into. -/
  namespace_ : String := ""
  version : String := ""
  config : Option ValuesSource := none
  kubeConfig : KubeConfig := {}
  userConfig : Option ValuesSource := none
  deriving DecidableEq, Inhabited

namespace AppSpec

def toJson (spec : AppSpec) : Json :=
  .ofPresent [
    ("catalog", some (.str spec.catalog)),
    ("config", spec.config.map ValuesSource.toJson),
    ("kubeConfig", some spec.kubeConfig.toJson),
    ("name", some (.str spec.name)),
    ("namespace", some (.str spec.namespace_)),
    ("userConfig", spec.userConfig.map ValuesSource.toJson),
    ("version", some (.str spec.version))]

def read? (written : Written) : Option AppSpec := do
  let fields ← written.record? ["catalog", "name", "namespace",
    "version", "config", "kubeConfig", "userConfig"]
  pure {
    catalog := ← Written.required? fields "catalog" Written.text?
    name := ← Written.required? fields "name" Written.text?
    namespace_ := ← Written.required? fields "namespace" Written.text?
    version := ← Written.required? fields "version" Written.text?
    config := ← Written.optional? fields "config" ValuesSource.read?
    kubeConfig := ← Written.defaulted? fields "kubeConfig" {} KubeConfig.read?
    userConfig := ← Written.optional? fields "userConfig" ValuesSource.read? }

end AppSpec

structure App where
  metadata : Metadata := {}
  spec : AppSpec := {}
  deriving DecidableEq, Inhabited

namespace App

def type : ObjectType := ⟨"application.giantswarm.io/v1alpha1", "App"⟩

def name (app : App) : String := app.metadata.anyName

def namespaceOr (app : App) (fallback : String) : String := app.metadata.namespace_.getD fallback

def labels (app : App) : Labels := app.metadata.labelTable

def annotations (app : App) : Labels := app.metadata.annotationTable

def finalizers (app : App) : List String := app.metadata.finalizerList

def isDeleting (app : App) : Bool := app.metadata.isDeleting

def toJson (app : App) : Json := type.document app.metadata [("spec", some app.spec.toJson)]

def read? (written : Written) : Option App := do
  let fields ← written.wholeRecord? ["metadata", "spec"]
  pure {
    metadata := ← Written.required? fields "metadata" Metadata.read?
    spec := ← Written.required? fields "spec" AppSpec.read? }

end App

end PlatformApps
