/-
# Values of the platform agent

What the agent of a cluster has to know: the namespace it watches, the cluster it serves,
the provider, and the registry that images come from.
-/

import PlatformApps.Values.Basic

namespace PlatformApps

structure AgentValues where
  watchNamespace : String
  clusterId : String
  provider : String
  registryDomain : String
  deriving DecidableEq, Inhabited

namespace AgentValues

def ofCluster (cluster : Cluster) (facts : ProviderFacts) (settings : Settings) : AgentValues where
  watchNamespace := cluster.space
  clusterId := cluster.id
  provider := providerName facts settings
  registryDomain := settings.registryDomain

/-- The document with its fields in the order in which they are written. -/
def document (values : AgentValues) : Json :=
  .obj [
    ("app", .obj [
      ("watchNamespace", .str values.watchNamespace),
      ("workloadClusterID", .str values.clusterId)]),
    ("provider", .obj [("kind", .str values.provider)]),
    ("registry", .obj [("domain", .str values.registryDomain)])]

def toJson (values : AgentValues) : Json := values.document.canonical

def read? (written : Written) : Option AgentValues := do
  let fields ← written.record? ["app", "provider", "registry"]
  nested? fields "app" ["watchNamespace", "workloadClusterID"] fun app =>
    nested? fields "provider" ["kind"] fun provider =>
      nested? fields "registry" ["domain"] fun registry => do
        pure {
          watchNamespace := ← Written.required? app "watchNamespace" Written.text?
          clusterId := ← Written.required? app "workloadClusterID" Written.text?
          provider := ← Written.required? provider "kind" Written.text?
          registryDomain := ← Written.required? registry "domain" Written.text? }

def render (values : AgentValues) : String := Yaml.render values.document

end AgentValues

end PlatformApps
