/-
# Settings of the operator

What the operator is started with: domains, address ranges, the proxy of the management
cluster, and how the apps of a release are to be installed. Settings are read once and
then shared by all steps.
-/

import PlatformApps.Failure
import PlatformApps.Json.Record
import PlatformApps.Yaml.Document

namespace PlatformApps

/-- Proxy of the management cluster. -/
structure ProxySettings where
  httpProxy : String := ""
  httpsProxy : String := ""
  noProxy : String := ""
  deriving DecidableEq, Inhabited

def ProxySettings.toJson (proxy : ProxySettings) : Json :=
  .ofFields [
    ("httpProxy", .str proxy.httpProxy),
    ("httpsProxy", .str proxy.httpsProxy),
    ("noProxy", .str proxy.noProxy)]

/-- No proxy is configured. -/
def ProxySettings.isEmpty (proxy : ProxySettings) : Bool :=
  proxy.httpProxy.isEmpty && proxy.httpsProxy.isEmpty && proxy.noProxy.isEmpty

/-- How every app of a release is installed. -/
structure AppDefaults where
  catalog : String := ""
  namespace_ : String := ""
  useUpgradeForce : Bool := false
  deriving DecidableEq, Inhabited

def AppDefaults.toJson (defaults : AppDefaults) : Json :=
  .ofFields [
    ("catalog", .str defaults.catalog),
    ("namespace", .str defaults.namespace_),
    ("useUpgradeForce", .bool defaults.useUpgradeForce)]

def AppDefaults.read? (written : Written) : Option AppDefaults := do
  let fields ← written.record? ["catalog", "namespace", "useUpgradeForce"]
  pure {
    catalog := ← Written.defaulted? fields "catalog" "" Written.text?
    namespace_ := ← Written.defaulted? fields "namespace" "" Written.text?
    useUpgradeForce := ← Written.defaulted? fields "useUpgradeForce" false Written.bool? }

/-- How one app deviates from the defaults. -/
structure OverrideRule where
  chart : Option String := none
  namespace_ : Option String := none
  useUpgradeForce : Option Bool := none
  hasClusterValuesSecret : Option Bool := none
  configMapName : Option String := none
  inCluster : Option Bool := none
  deriving DecidableEq, Inhabited

def OverrideRule.toJson (rule : OverrideRule) : Json :=
  .ofPresent [
    ("chart", rule.chart.map .str),
    ("configMapName", rule.configMapName.map .str),
    ("hasClusterValuesSecret", rule.hasClusterValuesSecret.map .bool),
    ("inCluster", rule.inCluster.map .bool),
    ("namespace", rule.namespace_.map .str),
    ("useUpgradeForce", rule.useUpgradeForce.map .bool)]

def OverrideRule.read? (written : Written) : Option OverrideRule := do
  let fields ← written.record? ["chart", "namespace", "useUpgradeForce",
    "hasClusterValuesSecret", "configMapName", "inCluster"]
  pure {
    chart := ← Written.optional? fields "chart" Written.text?
    namespace_ := ← Written.optional? fields "namespace" Written.text?
    useUpgradeForce := ← Written.optional? fields "useUpgradeForce" Written.bool?
    hasClusterValuesSecret := ← Written.optional? fields "hasClusterValuesSecret" Written.bool?
    configMapName := ← Written.optional? fields "configMapName" Written.text?
    inCluster := ← Written.optional? fields "inCluster" Written.bool? }

/-- The app settings that are kept in a file of their own. -/
structure AppSettings where
  default : AppDefaults := {}
  overrides : Table String OverrideRule := ∅

namespace AppSettings

def read? (written : Written) : Option AppSettings := do
  let fields ← written.record? ["default", "overrides"]
  pure {
    default := ← Written.defaulted? fields "default" {} AppDefaults.read?
    overrides := ← Written.defaulted? fields "overrides" ∅ (Written.table? OverrideRule.read?) }

def defaultsReader : Yaml.Reader AppDefaults := fun targets node => do
  let fields ← Yaml.Reader.fields ["catalog", "namespace", "useUpgradeForce"] targets node
  let text (name : String) := Yaml.Reader.defaulted targets fields name "" Yaml.Reader.text
  pure {
    catalog := ← text "catalog"
    namespace_ := ← text "namespace"
    useUpgradeForce :=
      ← Yaml.Reader.defaulted targets fields "useUpgradeForce" false Yaml.Reader.truth }

def ruleReader : Yaml.Reader OverrideRule := fun targets node => do
  let fields ← Yaml.Reader.fields ["chart", "namespace", "useUpgradeForce",
    "hasClusterValuesSecret", "configMapName", "inCluster"] targets node
  let text (name : String) :=
    Yaml.Reader.defaulted targets fields name none (.nullable .text)
  let truth (name : String) :=
    Yaml.Reader.defaulted targets fields name none (.nullable .truth)
  pure {
    chart := ← text "chart"
    namespace_ := ← text "namespace"
    useUpgradeForce := ← truth "useUpgradeForce"
    hasClusterValuesSecret := ← truth "hasClusterValuesSecret"
    configMapName := ← text "configMapName"
    inCluster := ← truth "inCluster" }

def reader : Yaml.Reader AppSettings := fun targets node => do
  let fields ← Yaml.Reader.fields ["default", "overrides"] targets node
  pure {
    default := ← Yaml.Reader.defaulted targets fields "default" {} defaultsReader
    overrides := ← Yaml.Reader.defaulted targets fields "overrides" ∅ (.table ruleReader) }

/-- Reads the settings file. -/
def ofYaml (text : String) : Outcome AppSettings :=
  match reader.read? text with
  | some settings => .ok settings
  | none => .error (.config (.malformed "the document cannot be read"))

end AppSettings

structure Settings where
  /-- Domain of the management cluster; a workload cluster gets a subdomain. -/
  baseDomain : String := ""
  /-- Service addresses of workload clusters. -/
  clusterIpRange : String := ""
  /-- Address of the name service of workload clusters. -/
  dnsIp : String := ""
  registryDomain : String := ""
  /-- Provider that values name when the cluster's own provider is unknown. -/
  provider : String := ""
  /-- Pod addresses of clusters that set none. -/
  defaultPodCidr : String := ""
  proxy : ProxySettings := {}
  appDefaults : AppDefaults := {}
  overrides : Table String OverrideRule := ∅
  /-- Only clusters of this namespace are looked after. -/
  watchNamespace : Option String := none
  deriving Inhabited

namespace Settings

def withApps (settings : Settings) (apps : AppSettings) : Settings :=
  { settings with appDefaults := apps.default, overrides := apps.overrides }

/-- The rule for an app, empty when there is none. -/
def ruleFor (settings : Settings) (app : String) : OverrideRule :=
  (settings.overrides.find? app).getD {}

/-- The settings as a document. -/
def toJson (settings : Settings) : Json :=
  .ofFields [
    ("baseDomain", .str settings.baseDomain),
    ("clusterIpRange", .str settings.clusterIpRange),
    ("dnsIp", .str settings.dnsIp),
    ("registryDomain", .str settings.registryDomain),
    ("provider", .str settings.provider),
    ("defaultPodCidr", .str settings.defaultPodCidr),
    ("proxy", settings.proxy.toJson),
    ("watchNamespace", (settings.watchNamespace.map Json.str).getD .null),
    ("default", settings.appDefaults.toJson),
    ("overrides", .obj (settings.overrides.toList.map fun entry => (entry.1, entry.2.toJson)))]

/-- Settings without which nothing can be installed. -/
def validate (settings : Settings) : Outcome Unit :=
  if settings.baseDomain.isEmpty then .error (.config .emptyBaseDomain)
  else if settings.dnsIp.isEmpty then .error (.config .emptyDnsIp)
  else if settings.appDefaults.catalog.isEmpty then .error (.config .emptyCatalog)
  else .ok ()

end Settings

end PlatformApps
