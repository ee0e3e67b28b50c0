/-
# The object store of the API server

Every call of the object store as exchanges with the API server.
-/

import PlatformApps.Api.Collection
import PlatformApps.Resource.Deployment
import PlatformApps.Store.Call

namespace PlatformApps

namespace Collection

def apps (space : Option String) : Collection := ⟨App.type.apiVersion, "apps", space⟩

def configMaps (space : String) : Collection := ⟨"v1", "configmaps", some space⟩

def secrets (space : String) : Collection := ⟨"v1", "secrets", some space⟩

def namespaces : Collection := ⟨"v1", "namespaces", none⟩

def deployments (space : String) : Collection :=
  ⟨Deployment.type.apiVersion, "deployments", some space⟩

/-- The letter before the last one of a word. Kinds are written in ASCII, so places are
counted in bytes. -/
def letterBeforeLast? (word : String) : Option Char :=
  if word.utf8ByteSize < 2 then none else word.toList[word.utf8ByteSize - 2]?

/-- The usual plural of a word. -/
def regularPlural (word : String) : String :=
  if ["s", "x", "z", "ch", "sh"].any fun ending => word.endsWith ending then word ++ "es"
  else
    match Text.withoutEnding? "y" word, letterBeforeLast? word with
    | some stem, some letter =>
      if "aeiou".toList.contains letter then word ++ "s" else stem ++ "ies"
    | _, _ => word ++ "s"

/-- The plural of a kind, in lower case. Some kinds are plural already, and metrics go by
what they are measured at. -/
def pluralOf (kind : String) : String :=
  match kind.toLower with
  | "endpoints" => "endpoints"
  | "endpointslices" => "endpointslices"
  | "nodemetrics" => "nodes"
  | "podmetrics" => "pods"
  | word => regularPlural word

/-- Objects of any type. -/
def ofKind (apiVersion kind space : String) : Collection :=
  ⟨apiVersion, pluralOf kind, some space⟩

end Collection

/-- The version and kind of an object of any type, and its other fields. Both must be
texts that are there once. Otherwise there is neither; the fields up to the one that shows
it are gone then, and the others are fields like any other. -/
def typeAndOthers (version kind : Option String) :
    List (String × Json) → Option (String × String) × List (String × Json)
  | [] =>
    match version, kind with
    | some version, some kind => (some (version, kind), [])
    | _, _ => (none, [])
  | (name, value) :: rest =>
    if name = "apiVersion" then
      match version, value with
      | none, .str text => typeAndOthers (some text) kind rest
      | _, _ => (none, rest)
    else if name = "kind" then
      match kind, value with
      | none, .str text => typeAndOthers version (some text) rest
      | _, _ => (none, rest)
    else
      let (type, others) := typeAndOthers version kind rest
      (type, (name, value) :: others)

/-- An object of any type: metadata is kept as far as it is known, version and kind where
both are proper, and everything else as it is. -/
def anyObject? (written : Written) : Option Json := do
  let (fields, others) ← Collection.knownAndOthers? ["metadata"] written
  let metadata ← Written.defaulted? fields "metadata" {} Metadata.read?
  let (type, others) := typeAndOthers none none others
  let typed : List (String × Json) :=
    match type with
    | some (version, kind) => [("apiVersion", .str version), ("kind", .str kind)]
    | none => []
  pure (.ofFields (typed ++ ("metadata", metadata.toJson) :: others))

namespace Api

/-- Takes a finalizer off an App, unless the App changes in between. -/
def removeAppFinalizer (space name finalizer : String) : Dialogue Api Bool := do
  let apps := Collection.apps (some space)
  let app ← apps.get name App.read?
  if app.finalizers.contains finalizer then
    let remaining := app.finalizers.filter (· != finalizer)
    let patch := Json.ofFields [("metadata", .ofFields [
      ("finalizers", .ofStrings remaining),
      ("resourceVersion", (app.metadata.resourceVersion.map Json.str).getD .null)])]
    let _ ← apps.mergePatch name patch App.read?
    pure true
  else pure false

/-- The values of a secret. -/
def getSecretData (space name : String) : Dialogue Api SecretData := do
  let secret ← (Collection.secrets space).get name Secret.read?
  pure (secret.data.getD ∅)

/-- Forgets what a change answers. -/
def ignore {α : Type} (change : Dialogue Api α) : Dialogue Api Unit := change.bind fun _ => pure ()

/-- Answers a call of the object store. -/
def answer (call : StoreCall) : Dialogue Api call.Reply :=
  match call with
  | .listApps space selector =>
    (Collection.apps (some space)).list (some selector.render) App.read?
  | .getApp space name => (Collection.apps (some space)).get name App.read?
  | .createApp app =>
    ignore ((Collection.apps (some (app.namespaceOr ""))).create app.toJson App.read?)
  | .patchApp space name patch =>
    ignore ((Collection.apps (some space)).mergePatch name patch App.read?)
  | .deleteApp space name => (Collection.apps (some space)).delete name App.read?
  | .removeAppFinalizer space name finalizer => removeAppFinalizer space name finalizer
  | .listConfigMapNames space => (Collection.configMaps space).names
  | .listSecretNames space => (Collection.secrets space).names
  | .applyConfigMap configMap =>
    ignore ((Collection.configMaps (configMap.metadata.namespace_.getD "")).write projectName
      configMap.metadata.anyName configMap.toJson ConfigMap.read?)
  | .applySecret secret =>
    ignore ((Collection.secrets (secret.metadata.namespace_.getD "")).write projectName
      secret.metadata.anyName secret.toJson Secret.read?)
  | .deleteConfigMap space name => (Collection.configMaps space).delete name ConfigMap.read?
  | .deleteSecret space name => (Collection.secrets space).delete name Secret.read?
  | .getSecretData space name => getSecretData space name
  | .getNamespace name => Collection.namespaces.get name Namespace.read?
  | .createNamespace space =>
    ignore (Collection.namespaces.create space.toJson Namespace.read?)
  | .deleteNamespace name => Collection.namespaces.delete name Namespace.read?
  | .getObject apiVersion kind space name =>
    (Collection.ofKind apiVersion kind space).get name anyObject?
  | .deploymentExists space name => do
    pure (← (Collection.deployments space).get? name Deployment.read?).isSome

end Api

end PlatformApps
