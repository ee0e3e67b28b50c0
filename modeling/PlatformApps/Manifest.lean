/-
# The Apps that a cluster should have

The platform agent comes first, then one App for each entry of the release manifest. An
entry whose chart cannot be found fails on its own and leaves the others alone.
-/

import PlatformApps.Operator
import PlatformApps.Settings

namespace PlatformApps

/-- The Apps for a cluster. -/
structure Compiled where
  /-- The platform agent, then the entries of the manifest in their order. -/
  apps : List App := []
  /-- Entries that could not be compiled, with the reasons. -/
  failures : List (String × Failure) := []
  deriving DecidableEq, Inhabited

namespace Compiled

/-- The App for an entry of the manifest. -/
def appFor? (compiled : Compiled) (name : String) : Option App :=
  compiled.apps.find? fun app => app.labels.find? Label.appName == some name

/-- One failure that names every entry without an App. -/
def failure? (compiled : Compiled) : Option Failure :=
  if compiled.failures.isEmpty then none
  else some (.validation (.uncompiled (compiled.failures.map fun entry =>
    (entry.1, entry.2.message))))

end Compiled

/-- A text that is there and not empty, else a default. -/
def statedOr (stated : Option String) (default : String) : String :=
  (stated.filter fun text => text ≠ "").getD default

/-- Metadata of an App that this operator makes. -/
def appMetadata (id space name entry agentVersion : String) (forceUpgrade : Bool) : Metadata where
  name := some name
  namespace_ := some space
  labels := some (((managedLabels id).insert Label.appName entry).insert Label.agentVersion
    agentVersion)
  annotations := some (.ofList [
    ( Annotation.forceUpgrade, if forceUpgrade then "true" else "false")])

/-- Objects with values that users keep in the namespace of the cluster. -/
structure UserObjects where
  configMaps : List String
  secrets : List String

/-- The values that a user gives for an App: objects named after it. -/
def UserObjects.valuesFor (objects : UserObjects) (space appName : String) :
    Option ValuesSource :=
  let source : ValuesSource := {
    configMap :=
      if objects.configMaps.contains (userValuesName appName) then
        some ⟨userValuesName appName, space⟩
      else none
    secret :=
      if objects.secrets.contains (userSecretsName appName) then
        some ⟨userSecretsName appName, space⟩
      else none }
  if source.isEmpty then none else some source

/-- The App of the platform agent. It runs in the management cluster. -/
def agentApp (settings : Settings) (id space : String) (component : ReleaseComponent) : App where
  metadata := appMetadata id space (agentAppName id) platformAgent managementVersion false
  spec := {
    catalog := statedOr component.catalog settings.appDefaults.catalog
    name := platformAgent
    namespace_ := space
    version := component.deployVersion
    config := some { configMap := some ⟨agentValuesName id, space⟩ }
    kubeConfig := { inCluster := true } }

/-- How the App of an entry reaches the cluster it is installed into. -/
def kubeConfigFor (rule : OverrideRule) (id space : String) : KubeConfig :=
  if rule.inCluster.getD false then { inCluster := true }
  else {
    context := some (kubeconfigName id)
    secret := some ⟨kubeconfigName id, space⟩ }

/-- The catalog of an entry. -/
def catalogFor (settings : Settings) (entry : ReleaseApp) : String :=
  statedOr entry.catalog settings.appDefaults.catalog

/-- The App for an entry of the manifest whose chart is known. -/
def manifestApp (settings : Settings) (id space agentVersion : String) (objects : UserObjects)
    (name : String) (entry : ReleaseApp) (chart : String) : App :=
  let rule := settings.ruleFor name
  let appName := manifestAppName id name
  { metadata := appMetadata id space appName name agentVersion
      (rule.useUpgradeForce.getD settings.appDefaults.useUpgradeForce)
    spec := {
      catalog := catalogFor settings entry
      name := chart
      namespace_ := statedOr rule.namespace_ settings.appDefaults.namespace_
      version := entry.version
      config := some {
        configMap := some ⟨statedOr rule.configMapName (clusterValuesName id), space⟩
        secret :=
          if rule.hasClusterValuesSecret.getD false then some ⟨clusterValuesName id, space⟩
          else none }
      kubeConfig := kubeConfigFor rule id space
      userConfig := objects.valuesFor space appName } }

/-- The chart of an entry: the one its rule states, else the one found in the catalog. -/
def chartFor (settings : Settings) (name : String) (entry : ReleaseApp) :
    Dialogue Operator String :=
  match (settings.ruleFor name).chart.filter fun chart => chart ≠ "" with
  | some chart => pure chart
  | none => Operator.chartName (catalogFor settings entry) name entry.version

/-- Entries of the manifest that get an App. The agent is no ordinary entry, and a control
plane managed by AWS brings some of the others along. -/
def installedEntries (cluster : Cluster) (entries : Table String ReleaseApp) :
    List (String × ReleaseApp) :=
  entries.toList.filter fun entry =>
    entry.1 != platformAgent &&
      !(cluster.spec.isManagedAws && providedByManagedAws.contains entry.1)

/-- The charts of entries, each found or failed on its own. -/
def chartsFor (settings : Settings) :
    List (String × ReleaseApp) → Dialogue Operator (List (String × ReleaseApp × Outcome String))
  | [] => pure []
  | (name, entry) :: rest =>
    (chartFor settings name entry).attempt.bind fun chart =>
      (chartsFor settings rest).bind fun others => pure ((name, entry, chart) :: others)

/-- The Apps of a cluster as if it were not being deleted. -/
def compileAsLive (settings : Settings) (cluster : Cluster) : Dialogue Operator Compiled := do
  let id := cluster.id
  let space := cluster.space
  let agent ← .ofOutcome (agentComponent (← Operator.components cluster))
  let entries ← Operator.releaseApps cluster
  let configMaps ← Operator.store (.listConfigMapNames space)
  let secrets ← Operator.store (.listSecretNames space)
  let charts ← chartsFor settings (installedEntries cluster entries)
  let app (name : String) (entry : ReleaseApp) (chart : String) : App :=
    manifestApp settings id space agent.version ⟨configMaps, secrets⟩ name entry chart
  pure {
    apps := agentApp settings id space agent :: charts.filterMap fun
      | (name, entry, .ok chart) => some (app name entry chart)
      | (_, _, .error _) => none
    failures := charts.filterMap fun
      | (_, _, .ok _) => none
      | (name, _, .error failure) => some (name, failure) }

/-- The Apps of a cluster; none once its deletion has begun. -/
def compile (settings : Settings) (cluster : Cluster) : Dialogue Operator Compiled :=
  if cluster.isDeleting then pure {} else compileAsLive settings cluster

end PlatformApps
