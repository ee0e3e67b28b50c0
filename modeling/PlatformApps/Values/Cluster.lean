/-
# Values of a cluster

The values that all workload Apps of a cluster share.
-/

import PlatformApps.Values.Basic

namespace PlatformApps

structure ClusterValues where
  baseDomain : String := ""
  bootstrapEnabled : Bool := false
  apiServerPodPort : Int32 := 0
  networkPlugin : Table String Bool := ∅
  calico : Table String String := ∅
  apiServer : Table String String := ∅
  nameService : Table String String := ∅
  isPrivate : Bool := false
  proxy : Option ProxySettings := none
  certificateAuthority : String := ""
  nameServiceIp : String := ""
  clusterId : String := ""
  networkCidr : String := ""
  /-- The empty text tells charts not to look for a name service outside the cluster. -/
  externalNameServiceIp : Option String := none
  provider : String := ""
  gcpProject : String := ""
  subscriptionId : String := ""
  deriving DecidableEq, Inhabited

namespace ClusterValues

/-- Port of the API server inside its pods. -/
def apiServerPort : Int32 := 6443

/-- The values of a cluster. A control plane managed by AWS needs neither bootstrapping
nor a network plugin. -/
def ofCluster (cluster : Cluster) (facts : ProviderFacts) (settings : Settings)
    (podCidr certificateAuthority nameServiceIp : String) : ClusterValues where
  baseDomain := clusterDomain cluster.id settings.baseDomain
  bootstrapEnabled := !cluster.spec.isManagedAws
  apiServerPodPort := apiServerPort
  networkPlugin := .ofList [("install", !cluster.spec.isManagedAws)]
  calico := .ofList [("CIDR", podCidr)]
  apiServer := .ofList [("clusterIPRange", settings.clusterIpRange)]
  nameService := .ofList [("IP", nameServiceIp)]
  isPrivate := facts.isPrivate
  proxy :=
    if settings.proxy.isEmpty then none
    else some { settings.proxy with
      noProxy := proxyExceptions cluster.spec settings.proxy.noProxy }
  certificateAuthority
  nameServiceIp
  clusterId := cluster.id
  networkCidr := facts.networkCidr
  externalNameServiceIp := if facts.isPrivate then some "" else none
  provider := providerName facts settings
  gcpProject := if facts.provider = .gcp then facts.project else ""
  subscriptionId := if facts.provider = .azure then facts.project else ""

def flags (table : Table String Bool) : Json :=
  .obj (table.toList.map fun entry => (entry.1, .bool entry.2))

def proxyDocument (proxy : ProxySettings) : Json :=
  .obj [
    ("httpProxy", .str proxy.httpProxy),
    ("httpsProxy", .str proxy.httpsProxy),
    ("noProxy", .str proxy.noProxy)]

/-- The document with its fields in the order in which they are written. -/
def document (values : ClusterValues) : Json :=
  .obj ([
    ("baseDomain", .str values.baseDomain),
    ("bootstrapMode", .obj [
      ("enabled", .bool values.bootstrapEnabled),
      ("apiServerPodPort", .int values.apiServerPodPort.toInt)]),
    ("chartOperator", .obj [("cni", flags values.networkPlugin)]),
    ("cluster", .obj ([
      ("calico", Json.ofTexts values.calico),
      ("kubernetes", .obj [
        ("API", Json.ofTexts values.apiServer),
        ("DNS", Json.ofTexts values.nameService)]),
      ("private", .bool values.isPrivate)] ++
      (values.proxy.map fun proxy => ("proxy", proxyDocument proxy)).toList)),
    ("clusterCA", .str values.certificateAuthority),
    ("clusterDNSIP", .str values.nameServiceIp),
    ("clusterID", .str values.clusterId),
    ("clusterCIDR", .str values.networkCidr)] ++
    (values.externalNameServiceIp.map fun ip => ("externalDNSIP", Json.str ip)).toList ++ [
    ("provider", .str values.provider),
    ("gcpProject", .str values.gcpProject),
    ("subscriptionID", .str values.subscriptionId)])

def toJson (values : ClusterValues) : Json := values.document.canonical

def proxy? (written : Written) : Option ProxySettings := do
  let fields ← written.record? ["httpProxy", "httpsProxy", "noProxy"]
  pure {
    httpProxy := ← Written.required? fields "httpProxy" Written.text?
    httpsProxy := ← Written.required? fields "httpsProxy" Written.text?
    noProxy := ← Written.required? fields "noProxy" Written.text? }

def read? (written : Written) : Option ClusterValues := do
  let fields ← written.record? ["baseDomain", "bootstrapMode", "chartOperator", "cluster",
    "clusterCA", "clusterDNSIP", "clusterID", "clusterCIDR", "externalDNSIP", "provider",
    "gcpProject", "subscriptionID"]
  let text (name : String) := Written.required? fields name Written.text?
  nested? fields "bootstrapMode" ["enabled", "apiServerPodPort"] fun bootstrap =>
    nested? fields "chartOperator" ["cni"] fun chartOperator =>
      nested? fields "cluster" ["calico", "kubernetes", "private", "proxy"] fun cluster =>
        nested? cluster "kubernetes" ["API", "DNS"] fun kubernetes => do
          pure {
            baseDomain := ← text "baseDomain"
            bootstrapEnabled := ← Written.required? bootstrap "enabled" Written.bool?
            apiServerPodPort := ← Written.required? bootstrap "apiServerPodPort" Written.int32?
            networkPlugin := ← Written.required? chartOperator "cni" (Written.table? Written.bool?)
            calico := ← Written.required? cluster "calico" Written.textTable?
            apiServer := ← Written.required? kubernetes "API" Written.textTable?
            nameService := ← Written.required? kubernetes "DNS" Written.textTable?
            isPrivate := ← Written.required? cluster "private" Written.bool?
            proxy := ← Written.optional? cluster "proxy" proxy?
            certificateAuthority := ← text "clusterCA"
            nameServiceIp := ← text "clusterDNSIP"
            clusterId := ← text "clusterID"
            networkCidr := ← text "clusterCIDR"
            externalNameServiceIp := ← Written.optional? fields "externalDNSIP" Written.text?
            provider := ← text "provider"
            gcpProject := ← text "gcpProject"
            subscriptionId := ← text "subscriptionID" }

def render (values : ClusterValues) : String := Yaml.render values.document

end ClusterValues

end PlatformApps
