/-
# Configuration artifacts

Two config maps and a secret hold the values that the Apps of a cluster refer to. They are
written together, once everything they are made of is known; until then the pass goes on
without them.
-/

import PlatformApps.Operator
import PlatformApps.Values.Agent
import PlatformApps.Values.Cluster
import PlatformApps.Values.Secrets

namespace PlatformApps

inductive ArtifactsOutcome where
  | applied
  /-- Something is not there yet. -/
  | suspended (reason : String)
  deriving DecidableEq, Inhabited

/-- The artifacts of a cluster. -/
structure Artifacts where
  agentValues : ConfigMap
  clusterValues : ConfigMap
  clusterSecrets : Secret
  deriving DecidableEq, Inhabited

namespace Artifacts

def metadata (name space id : String) : Metadata where
  name := some name
  namespace_ := some space
  labels := some (managedLabels id)
  annotations := some (.ofList [
    ( Annotation.notes, s!"DO NOT EDIT. Values managed by {projectName}.")])

def configMap (name space id text : String) : ConfigMap where
  metadata := metadata name space id
  data := some (.ofList [(valuesKey, text)])

def secret (name space id text : String) : Secret where
  metadata := metadata name space id
  data := some (.ofList [(valuesKey, Text.Utf8.encode text)])

def make (id space : String) (agent : AgentValues) (cluster : ClusterValues) (secrets : Json) :
    Artifacts where
  agentValues := configMap (agentValuesName id) space id agent.render
  clusterValues := configMap (clusterValuesName id) space id cluster.render
  clusterSecrets := secret (clusterValuesName id) space id (Yaml.render secrets)

/-- What a missing input makes of the pass: nothing comes out where it has to wait. -/
def await {α : Type} (what : String) (input : Dialogue Operator α) :
    Dialogue Operator (Except String α) :=
  input.attempt.bind fun
  | .ok value => pure (.ok value)
  | .error failure =>
    if failure.isNotFound then
      pure (.error (what ++ " not available yet: " ++ failure.message))
    else .fail failure

/-- Address of the name service: the configured one, unless the control plane pins a block
of service addresses. -/
def nameServiceIp (settings : Settings) (cluster : Cluster) : Dialogue Store String :=
  match cluster.spec.controlPlaneRef with
  | none => pure settings.dnsIp
  | some reference => do
    let controlPlane ← Store.getObject reference cluster.space
    match pinnedServiceCidr controlPlane with
    | some cidr => .ofOutcome (nameServiceAddress cidr)
    | none => pure settings.dnsIp

/-- Certificate of the cluster's authority, empty while there is none. -/
def certificateAuthority (id space : String) : Dialogue Store String := do
  let data : SecretData ← Dialogue.tolerate (I := Store)
    (StoreCall.getSecretData space (clusterCaName id)) Failure.isNotFound (∅ : SecretData)
  pure (((data.find? "tls.crt").map Text.Utf8.decodeLossy).getD "")

/-- A text that an infrastructure object has to hold. -/
def requiredText (object : Json) (path : List String) (what : String) : Outcome String :=
  let text := Provider.textAt object path
  if text = "" then .error (.validation (.unset what)) else .ok text

/-- A value of a secret that has to be there. -/
def requiredKey (data : SecretData) (secret key : String) : Outcome (List UInt8) :=
  match data.find? key with
  | some bytes => .ok bytes
  | none => .error (.validation (.secretWithoutKey secret key))

/-- Credentials of the provider, as fields of the secret values. -/
def credentials (cluster : Cluster) (facts : ProviderFacts) :
    Dialogue Store (List (String × Json)) :=
  match facts.provider, facts.object with
  | .openStack, some object =>
    if Provider.textAt object ["spec", "identityRef", "kind"] ≠ "Secret" then
      .fail (.validation (.identityNotSecret cluster.name))
    else do
      let identity ← .ofOutcome
        (requiredText object ["spec", "identityRef", "name"] "identityRef name")
      let data ← Store.getSecretData cluster.space identity
      let file ← .ofOutcome (requiredKey data identity "clouds.yaml")
      let values ← .ofOutcome (openStackSecretValues facts file)
      pure (values.fields?.getD [])
  | .cloudDirector, some object => do
    let name ← .ofOutcome
      (requiredText object ["spec", "userContext", "secretRef", "name"] "VCD user context secret")
    let stated := Provider.textAt object ["spec", "userContext", "secretRef", "namespace"]
    let space := if stated = "" then cluster.space else stated
    let data ← Store.getSecretData space name
    let token ← .ofOutcome (requiredKey data name "refreshToken")
    pure [("global", cloudDirectorSecretValues object (Text.Utf8.decodeLossy token))]
  | _, _ => pure []

/-- The secret values of a cluster: credentials of the provider and the proxy settings. -/
def secretValues (settings : Settings) (cluster : Cluster) (facts : ProviderFacts) :
    Dialogue Store Json := do
  let credentials ← credentials cluster facts
  let proxy :=
    if needsProxySecret facts settings.proxy then
      (proxySecretValues cluster.spec settings.proxy).fields?.getD []
    else []
  pure (.ofFields (credentials ++ proxy))

/-- Writes the artifacts. -/
def write (artifacts : Artifacts) : Dialogue Store Unit := do
  Dialogue.request (I := Store) (StoreCall.applyConfigMap artifacts.agentValues)
  Dialogue.request (I := Store) (StoreCall.applyConfigMap artifacts.clusterValues)
  Dialogue.request (I := Store) (StoreCall.applySecret artifacts.clusterSecrets)

/-- Makes and writes the artifacts of a cluster, or says what is missing. -/
def ensure (settings : Settings) (cluster : Cluster) : Dialogue Operator ArtifactsOutcome := do
  let id := cluster.id
  let space := cluster.space
  match ← await "pod CIDR" (Operator.podCidr cluster) with
  | .error reason => pure (.suspended reason)
  | .ok podCidr =>
    match ← await "provider object" (Operator.calls (ProviderFacts.resolve cluster)) with
    | .error reason => pure (.suspended reason)
    | .ok facts =>
      match ← await "control plane" (Operator.calls (nameServiceIp settings cluster)) with
      | .error reason => pure (.suspended reason)
      | .ok nameServiceIp => Operator.calls do
        let authority ← certificateAuthority id space
        let secrets ← secretValues settings cluster facts
        write (make id space (.ofCluster cluster facts settings)
          (.ofCluster cluster facts settings podCidr authority nameServiceIp) secrets)
        pure .applied

/-- Removes the artifacts of a cluster; missing ones are no failure. -/
def remove (id space : String) : Dialogue Store Unit := do
  Dialogue.tolerate (I := Store) (StoreCall.deleteConfigMap space (agentValuesName id))
    Failure.isNotFound ()
  Dialogue.tolerate (I := Store) (StoreCall.deleteConfigMap space (clusterValuesName id))
    Failure.isNotFound ()
  Dialogue.tolerate (I := Store) (StoreCall.deleteSecret space (clusterValuesName id))
    Failure.isNotFound ()

end Artifacts

end PlatformApps
