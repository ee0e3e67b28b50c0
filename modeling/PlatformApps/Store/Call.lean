/-
# Calls to the object store

The narrow set of operations that the steps of the operator need. A missing object is
reported by the store as a failure; whether that is harmless is for the caller to say.
-/

import PlatformApps.Dialogue
import PlatformApps.Naming
import PlatformApps.Selector

namespace PlatformApps

inductive StoreCall where
  | listApps (space : String) (selector : Selector)
  | getApp (space name : String)
  | createApp (app : App)
  /-- Applies a merge patch. -/
  | patchApp (space name : String) (patch : Json)
  | deleteApp (space name : String)
  /-- Tells whether the finalizer was there. -/
  | removeAppFinalizer (space name finalizer : String)
  | listConfigMapNames (space : String)
  | listSecretNames (space : String)
  | applyConfigMap (configMap : ConfigMap)
  | applySecret (secret : Secret)
  | deleteConfigMap (space name : String)
  | deleteSecret (space name : String)
  | getSecretData (space name : String)
  | getNamespace (name : String)
  | createNamespace (space : Namespace)
  | deleteNamespace (name : String)
  /-- Reads an object of any type, such as a provider object. -/
  | getObject (apiVersion kind space name : String)
  | deploymentExists (space name : String)

namespace StoreCall

/-- Name of the operation. -/
def operation : StoreCall → String
  | .listApps .. => "list_apps"
  | .getApp .. => "get_app"
  | .createApp _ => "create_app"
  | .patchApp .. => "patch_app"
  | .deleteApp .. => "delete_app"
  | .removeAppFinalizer .. => "remove_app_finalizer"
  | .listConfigMapNames _ => "list_config_map_names"
  | .listSecretNames _ => "list_secret_names"
  | .applyConfigMap _ => "apply_config_map"
  | .applySecret _ => "apply_secret"
  | .deleteConfigMap .. => "delete_config_map"
  | .deleteSecret .. => "delete_secret"
  | .getSecretData .. => "get_secret_data"
  | .getNamespace _ => "get_namespace"
  | .createNamespace _ => "create_namespace"
  | .deleteNamespace _ => "delete_namespace"
  | .getObject .. => "get_dynamic"
  | .deploymentExists .. => "deployment_exists"

/-- Namespace and name of an object that is written as a whole. -/
def located (metadata : Metadata) : String :=
  metadata.namespace_.getD "" ++ "/" ++ metadata.anyName

/-- What the operation is about: a namespace for a listing, a name for a namespace, else a
name behind its namespace, and for objects of any type also that type. -/
def target : StoreCall → String
  | .listApps space _ | .listConfigMapNames space | .listSecretNames space => space
  | .createApp app => located app.metadata
  | .applyConfigMap configMap => located configMap.metadata
  | .applySecret secret => located secret.metadata
  | .getApp space name | .patchApp space name _ | .deleteApp space name
  | .removeAppFinalizer space name _ | .deleteConfigMap space name | .deleteSecret space name
  | .getSecretData space name | .deploymentExists space name => space ++ "/" ++ name
  | .createNamespace space => space.metadata.anyName
  | .getNamespace name | .deleteNamespace name => name
  | .getObject apiVersion kind space name => s!"{apiVersion} {kind} {space}/{name}"

end StoreCall

/-- What a successful call yields. -/
@[reducible]
def StoreCall.Reply : StoreCall → Type
  | .listApps .. => List App
  | .getApp .. => App
  | .removeAppFinalizer .. => Bool
  | .listConfigMapNames .. => List String
  | .listSecretNames .. => List String
  | .getSecretData .. => SecretData
  | .getNamespace .. => Namespace
  | .getObject .. => Json
  | .deploymentExists .. => Bool
  | .createApp .. | .patchApp .. | .deleteApp .. | .applyConfigMap .. | .applySecret ..
  | .deleteConfigMap .. | .deleteSecret .. | .createNamespace .. | .deleteNamespace .. => Unit

/-- The object store as an interface. -/
@[reducible]
def Store : Interface := ⟨StoreCall, StoreCall.Reply⟩

namespace Store

def listApps (space : String) (selector : Selector) : Dialogue Store (List App) :=
  .ask (StoreCall.listApps space selector) .done

def createApp (app : App) (isHarmless : Failure → Bool) : Dialogue Store Unit :=
  .tolerate (I := Store) (StoreCall.createApp app) isHarmless ()

def patchApp (space name : String) (patch : Json) : Dialogue Store Unit :=
  .ask (StoreCall.patchApp space name patch) .done

def getSecretData (space name : String) : Dialogue Store SecretData :=
  .ask (StoreCall.getSecretData space name) .done

def getObject (reference : ObjectReference) (space : String) : Dialogue Store Json :=
  .ask (StoreCall.getObject reference.apiVersion reference.kind (reference.namespaceOr space)
    reference.name) .done

def deploymentExists (space name : String) : Dialogue Store Bool :=
  .ask (StoreCall.deploymentExists space name) .done

end Store

end PlatformApps
