/-
# Definitions of the custom resources

How the API server is told about the resources that are not built into it: their names,
the columns in which they are listed, and the schemas of their fields.
-/

import PlatformApps.Resource.App
import PlatformApps.Resource.Catalog
import PlatformApps.Resource.Cluster
import PlatformApps.Resource.Release
import PlatformApps.Resource.Schema
import PlatformApps.Text.Blank

namespace PlatformApps

/-- A column of a listing. -/
structure ListingColumn where
  name : String
  type : String
  jsonPath : String

structure ResourceDefinition where
  type : ObjectType
  plural : String
  isNamespaced : Bool
  columns : List ListingColumn
  spec : Schema
  /-- Only some resources have a status of their own. -/
  status : Option Schema := none

namespace ResourceDefinition

def age : ListingColumn := ⟨"Age", "date", ".metadata.creationTimestamp"⟩

def ListingColumn.toJson (column : ListingColumn) : Json :=
  .ofFields [
    ("name", .str column.name),
    ("type", .str column.type),
    ("jsonPath", .str column.jsonPath)]

/-- Group and version of a type. -/
def groupAndVersion (type : ObjectType) : String × String :=
  match Text.cutAtLast? '/' type.apiVersion.toList with
  | some (group, version) => (String.ofList group, String.ofList version)
  | none => ("", type.apiVersion)

/-- The schema of a whole resource. -/
def schemaJson (definition : ResourceDefinition) : Json :=
  let kind := definition.type.kind
  let status := definition.status.map fun schema => ("status", Presence.nullable, schema)
  let fields := ("spec", Presence.required, definition.spec) :: status.toList
  let description := s!"Auto-generated derived type for {kind}Spec via `CustomResource`"
  .ofFields (("title", .str kind) :: (Schema.described description (.record fields)).parts)

def versionJson (definition : ResourceDefinition) (version : String) : Json :=
  .ofFields [
    ("additionalPrinterColumns", .arr (definition.columns.map ListingColumn.toJson)),
    ("name", .str version),
    ("schema", .ofFields [("openAPIV3Schema", definition.schemaJson)]),
    ("served", .bool true),
    ("storage", .bool true),
    ("subresources", .ofPresent [("status", definition.status.map fun _ => .obj [])])]

def toJson (definition : ResourceDefinition) : Json :=
  let (group, version) := groupAndVersion definition.type
  .ofFields [
    ("apiVersion", .str "apiextensions.k8s.io/v1"),
    ("kind", .str "CustomResourceDefinition"),
    ("metadata", .ofFields [("name", .str (definition.plural ++ "." ++ group))]),
    ("spec", .ofFields [
      ("group", .str group),
      ("names", .ofFields [
        ("categories", .arr []),
        ("kind", .str definition.type.kind),
        ("plural", .str definition.plural),
        ("shortNames", .arr []),
        ("singular", .str definition.type.kind.toLower)]),
      ("scope", .str (if definition.isNamespaced then "Namespaced" else "Cluster")),
      ("versions", .arr [definition.versionJson version])])]

/-- Name and namespace of an object that an App refers to. -/
def nameInSpace : Schema :=
  .record [("name", .required, .text), ("namespace", .required, .text)]

/-- A config map and a secret, each of which may be missing. -/
def valueSources : Schema :=
  .record [("configMap", .nullable, nameInSpace), ("secret", .nullable, nameInSpace)]

def app : ResourceDefinition where
  type := App.type
  plural := "apps"
  isNamespaced := true
  columns := [⟨"Chart", "string", ".spec.name"⟩, ⟨"Version", "string", ".spec.version"⟩, age]
  spec := .record [
    ("catalog", .required, .described "Catalog the chart is pulled from" .text),
    ("config", .nullable, .described "Operator-provided values" valueSources),
    ("kubeConfig", .filled (.ofFields [("inCluster", .bool false)]), .record [
      ("context", .nullable, .record [("name", .required, .text)]),
      ("inCluster", .filled (.bool false), .boolean),
      ("secret", .nullable, nameInSpace)]),
    ("name", .required, .described "Chart name as it appears in the catalog index" .text),
    ("namespace", .required, .described "Namespace the chart is installed into" .text),
    ("userConfig", .nullable,
      .described "Values supplied by cluster users next to the App" valueSources),
    ("version", .required, .text)]

def catalog : ResourceDefinition where
  type := AppCatalog.type
  plural := "appcatalogs"
  isNamespaced := false
  columns := [⟨"URL", "string", ".spec.storage.URL"⟩]
  spec := .record [
    ("storage", .required, .record [
      ("URL", .required, .text),
      ("type", .filled (.str ""), .text)]),
    ("title", .filled (.str ""), .text)]

def release : ResourceDefinition where
  type := Release.type
  plural := "releases"
  isNamespaced := false
  columns := [⟨"State", "string", ".spec.state"⟩, age]
  spec := .record [
    ("apps", .filled (.arr []), .list (.record [
      ("catalog", .nullable, .text),
      ("name", .required, .text),
      ("version", .required, .text)])),
    ("components", .filled (.arr []), .list (.record [
      ("catalog", .nullable, .text),
      ("name", .required, .text),
      ("reference", .nullable,
        .described "Overrides `version` when deploying, e.g. a test-catalog build" .text),
      ("version", .required, .text)])),
    ("state", .nullable, .text)]

/-- Blocks of addresses. -/
def networkRanges : Schema := .record [("cidrBlocks", .filled (.arr []), .list .text)]

def objectReference : Schema :=
  .described ("Reference to another object, as carried by `Cluster.spec.infrastructureRef` " ++
    "and `Cluster.spec.controlPlaneRef`.") (.record [
      ("apiVersion", .optional, .text),
      ("kind", .required, .text),
      ("name", .required, .text),
      ("namespace", .nullable, .text)])

def cluster : ResourceDefinition where
  type := Cluster.type
  plural := "clusters"
  isNamespaced := true
  columns := [⟨"Phase", "string", ".status.phase"⟩, age]
  spec := .record [
    ("clusterNetwork", .nullable, .record [
      ("pods", .nullable, networkRanges),
      ("serviceDomain", .optional, .text),
      ("services", .nullable, networkRanges)]),
    ("controlPlaneEndpoint", .nullable, .record [
      ("host", .filled (.str ""), .text),
      ("port", .filled (.int 0), .integer)]),
    ("controlPlaneRef", .nullable, objectReference),
    ("infrastructureRef", .nullable, objectReference),
    ("paused", .nullable, .boolean)]
  status := some (.record [
    ("controlPlaneReady", .filled (.bool false), .boolean),
    ("infrastructureReady", .filled (.bool false), .boolean),
    ("phase", .nullable, .text)])

def all : List ResourceDefinition := [app, catalog, cluster, release]

/-- The definition of a kind of resource. -/
def ofKind? (kind : String) : Option ResourceDefinition :=
  all.find? fun definition => definition.type.kind = kind

end ResourceDefinition

end PlatformApps
