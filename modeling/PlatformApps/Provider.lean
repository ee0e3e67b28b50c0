/-
# Infrastructure providers

The kind of a cluster's infrastructure object selects its provider. What is known about
the infrastructure is read from that object, each fact by a rule of its own, so that a
missing field fails only the fact that needs it. An unknown kind is no failure: it has
default facts.
-/

import PlatformApps.Naming
import PlatformApps.Store.Call

namespace PlatformApps

inductive Provider where
  | azure
  | aws
  | gcp
  | openStack
  | vSphere
  | cloudDirector
  | unknown
  deriving DecidableEq, Repr, Inhabited

namespace Provider

def ofInfrastructureKind (kind : String) : Provider :=
  match kind with
  | "AzureCluster" | "AzureManagedCluster" => .azure
  | "AWSCluster" | "AWSManagedCluster" => .aws
  | "GCPCluster" | "GCPManagedCluster" => .gcp
  | "OpenStackCluster" => .openStack
  | "VSphereCluster" => .vSphere
  | "VCDCluster" => .cloudDirector
  | _ => .unknown

/-- Name of the provider in configuration values. -/
def name : Provider → String
  | .azure => "azure"
  | .aws => "aws"
  | .gcp => "gcp"
  | .openStack => "openstack"
  | .vSphere => "vsphere"
  | .cloudDirector => "cloud-director"
  | .unknown => "unknown"

/-- The text at a path, empty when there is none. -/
def textAt (object : Json) (path : List String) : String :=
  ((object.path? path).bind Json.text?).getD ""

/-- The first item of the list at a path. -/
def firstAt? (object : Json) (path : List String) : Option Json :=
  ((object.path? path).bind Json.items?).bind List.head?

def networkCidr (provider : Provider) (object : Json) : String :=
  match provider with
  | .azure =>
    ((firstAt? object ["spec", "networkSpec", "vnet", "cidrBlocks"]).bind Json.text?).getD ""
  | .aws => textAt object ["spec", "network", "vpc", "cidrBlock"]
  | .openStack => textAt object ["spec", "nodeCidr"]
  | _ => ""

def networkId (provider : Provider) (object : Json) : String :=
  match provider with
  | .azure => textAt object ["spec", "networkSpec", "vnet", "name"]
  | .aws => textAt object ["spec", "network", "vpc", "id"]
  | .gcp => textAt object ["spec", "network", "name"]
  | .openStack => textAt object ["status", "network", "id"]
  | .cloudDirector => textAt object ["spec", "ovdcNetwork"]
  | _ => ""

/-- OpenStack objects list subnets; older ones have a single subnet instead. -/
def subnetId (provider : Provider) (object : Json) : String :=
  match provider with
  | .openStack =>
    let listed :=
      match firstAt? object ["status", "network", "subnets"] with
      | some subnet => textAt subnet ["id"]
      | none => ""
    if listed.isEmpty then textAt object ["status", "network", "subnet", "id"] else listed
  | .azure =>
    match firstAt? object ["spec", "networkSpec", "subnets"] with
    | some subnet => textAt subnet ["name"]
    | none => ""
  | _ => ""

def externalNetworkId (provider : Provider) (object : Json) : String :=
  match provider with
  | .openStack => textAt object ["status", "externalNetwork", "id"]
  | _ => ""

def region (provider : Provider) (object : Json) : String :=
  match provider with
  | .azure => textAt object ["spec", "location"]
  | .aws | .gcp => textAt object ["spec", "region"]
  | .cloudDirector => textAt object ["spec", "site"]
  | _ => ""

def factMissing (provider : Provider) (field : String) : Failure :=
  .validation (.factMissing field provider.name)

/-- Project, subscription or organization that pays for the cluster; GCP clusters must
have one. -/
def project (provider : Provider) (object : Json) : Outcome String :=
  match provider with
  | .gcp =>
    let project := textAt object ["spec", "project"]
    if project.isEmpty then .error (provider.factMissing "spec.project") else .ok project
  | .azure => .ok (textAt object ["spec", "subscriptionID"])
  | .cloudDirector => .ok (textAt object ["spec", "org"])
  | _ => .ok ""

/-- Is the cluster out of reach of the internet? -/
def isPrivate (provider : Provider) (object : Json) : Outcome Bool :=
  match provider with
  | .azure =>
    match (object.path? ["spec", "networkSpec", "apiServerLB", "type"]).bind Json.text? with
    | some type => .ok (type == "Internal")
    | none => .error (provider.factMissing "spec.networkSpec.apiServerLB.type")
  | .aws =>
    .ok (textAt object ["metadata", "annotations", "aws.giantswarm.io/vpc-mode"] == "private")
  | _ => .ok false

/-- Providers on the premises reach the internet only through the proxy. -/
def requiresProxy (provider : Provider) : Bool :=
  provider == .vSphere || provider == .cloudDirector

end Provider

/-- What is known about the infrastructure of a cluster. -/
structure ProviderFacts where
  provider : Provider := .unknown
  networkCidr : String := ""
  networkId : String := ""
  subnetId : String := ""
  externalNetworkId : String := ""
  region : String := ""
  project : String := ""
  isPrivate : Bool := false
  requiresProxy : Bool := false
  /-- The infrastructure object itself. -/
  object : Option Json := none
  deriving DecidableEq, Inhabited

/-- The facts as a document, which says of the provider object only whether it is there. -/
def ProviderFacts.toJson (facts : ProviderFacts) : Json :=
  .ofFields [
    ("kind", .str facts.provider.name),
    ("networkCidr", .str facts.networkCidr),
    ("networkId", .str facts.networkId),
    ("subnetId", .str facts.subnetId),
    ("externalNetworkId", .str facts.externalNetworkId),
    ("region", .str facts.region),
    ("project", .str facts.project),
    ("isPrivate", .bool facts.isPrivate),
    ("requiresProxy", .bool facts.requiresProxy),
    ("hasObject", .bool facts.object.isSome)]

namespace ProviderFacts

/-- The facts that an infrastructure object states. -/
def ofObject (provider : Provider) (object : Json) : Outcome ProviderFacts := do
  let project ← provider.project object
  let isPrivate ← provider.isPrivate object
  pure {
    provider
    networkCidr := provider.networkCidr object
    networkId := provider.networkId object
    subnetId := provider.subnetId object
    externalNetworkId := provider.externalNetworkId object
    region := provider.region object
    project
    isPrivate
    requiresProxy := provider.requiresProxy
    object := some object }

/-- Looks the infrastructure object of a cluster up and reads its facts. The object is
often not there yet early in the life of a cluster; that is reported as not found. -/
def resolve (cluster : Cluster) : Dialogue Store ProviderFacts :=
  match cluster.spec.infrastructureRef with
  | none => pure {}
  | some reference =>
    let provider := Provider.ofInfrastructureKind reference.kind
    if provider = .unknown then pure {}
    else
      .ask (StoreCall.getObject reference.apiVersion reference.kind
        (reference.namespaceOr cluster.space) reference.name) fun
      | .ok object => .ofOutcome (ofObject provider object)
      | .error failure =>
        .fail (if failure.isNotFound then .notFound reference.kind reference.name else failure)

end ProviderFacts

end PlatformApps
