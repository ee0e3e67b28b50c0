/-
# The in-memory store

A store whose whole content is a value. An App with finalizers is not removed by a
deletion but marked, as the API server does it, so every stage of a teardown can be
seen. Each change is noted in a log.
-/

import PlatformApps.Store.Call
import PlatformApps.Json.MergePatch

namespace PlatformApps

/-- Namespace and name of an object. -/
abbrev ObjectKey := String × String

structure Memory where
  apps : Table ObjectKey App := ∅
  configMaps : Table ObjectKey ConfigMap := ∅
  secrets : Table ObjectKey Secret := ∅
  namespaces : Table String Namespace := ∅
  /-- Objects of other types, by kind, namespace and name. -/
  objects : Table (String × ObjectKey) Json := ∅
  /-- Deployments; one that is about to go still shows up in some number of checks. -/
  deployments : Table ObjectKey (Option Nat) := ∅
  /-- Listings of config maps and secrets fail with this code. -/
  listingFailure : Option Nat := none
  /-- The time that a deletion is marked with. -/
  now : Timestamp := Timestamp.epoch
  /-- Changes, oldest first. -/
  log : List String := []

namespace Memory

private def qualified (space name : String) : String := space ++ "/" ++ name

def missing (kind space name : String) : Failure :=
  .status 404 "NotFound" (kind ++ " " ++ qualified space name ++ " not found")

def present (what : String) : Failure :=
  .status 409 "AlreadyExists" (what ++ " already exists")

def record (store : Memory) (entry : String) : Memory := { store with log := store.log ++ [entry] }

def app? (store : Memory) (space name : String) : Option App := store.apps.find? (space, name)

/-- Puts an App in its place without a note in the log. -/
def putApp (store : Memory) (app : App) : Memory :=
  { store with apps := store.apps.insert (app.namespaceOr "", app.name) app }

/-- Names in a namespace, in order. -/
def namesIn {α : Type} (table : Table ObjectKey α) (space : String) : List String :=
  (table.toList.filter fun entry => entry.1.1 == space).map fun entry => entry.1.2

def listApps (store : Memory) (space : String) (selector : Selector) : List App :=
  (store.apps.toList.filter fun entry =>
    entry.1.1 == space && selector.isMatch entry.2.labels).map (·.2)

def createApp (store : Memory) (app : App) : Outcome Unit × Memory :=
  let space := app.namespaceOr ""
  let name := app.name
  if store.apps.contains (space, name) then
    (.error (present ("App " ++ qualified space name)), store)
  else (.ok (), (store.putApp app).record ("create_app " ++ qualified space name))

/-- An App after a merge patch of its written form. -/
def patched (app : App) (patch : Json) : Outcome App :=
  match App.read? (.ofJson (app.toJson.mergePatch patch)) with
  | some app => .ok app
  | none => .error (.json "the patched App cannot be read")

def patchApp (store : Memory) (space name : String) (patch : Json) : Outcome Unit × Memory :=
  match store.app? space name with
  | none => (.error (missing "App" space name), store)
  | some app =>
    match patched app patch with
    | .error failure => (.error failure, store)
    | .ok app =>
      (.ok (), { store with apps := store.apps.insert (space, name) app }.record
        ("patch_app " ++ qualified space name))

/-- An App for which deletion has been requested. -/
def marked (app : App) (now : Timestamp) : App :=
  if app.isDeleting then app
  else { app with metadata := { app.metadata with deletionTimestamp := some now } }

def deleteApp (store : Memory) (space name : String) : Outcome Unit × Memory :=
  match store.app? space name with
  | none => (.error (missing "App" space name), store)
  | some app =>
    let apps :=
      if app.finalizers.isEmpty then store.apps.erase (space, name)
      else store.apps.insert (space, name) (marked app store.now)
    (.ok (), { store with apps := apps }.record ("delete_app " ++ qualified space name))

/-- An App without a finalizer. -/
def withoutFinalizer (app : App) (finalizer : String) : App :=
  { app with metadata := { app.metadata with
      finalizers := some (app.finalizers.filter (· != finalizer)) } }

def removeAppFinalizer (store : Memory) (space name finalizer : String) : Outcome Bool × Memory :=
  match store.app? space name with
  | none => (.error (missing "App" space name), store)
  | some app =>
    let stripped := withoutFinalizer app finalizer
    let removed := stripped.finalizers.length != app.finalizers.length
    let apps :=
      if stripped.finalizers.isEmpty && app.isDeleting then store.apps.erase (space, name)
      else store.apps.insert (space, name) stripped
    let store := { store with apps := apps }
    (.ok removed,
      if removed then store.record ("remove_finalizer " ++ qualified space name) else store)

/-- Takes an App away whose deletion has been requested, as its owner would. -/
def finishDeletion (store : Memory) (space name : String) : Memory :=
  match store.app? space name with
  | some app =>
    if app.isDeleting then { store with apps := store.apps.erase (space, name) } else store
  | none => store

private def listNames {α : Type} (store : Memory) (what : String) (table : Table ObjectKey α)
    (space : String) : Outcome (List String) :=
  match store.listingFailure with
  | some code => .error (.status code "InternalError" (s!"listing {what} in {space} failed"))
  | none => .ok (namesIn table space)

def applyConfigMap (store : Memory) (configMap : ConfigMap) : Memory :=
  let space := configMap.metadata.namespace_.getD ""
  let name := configMap.metadata.anyName
  { store with configMaps := store.configMaps.insert (space, name) configMap }.record
    ("apply_config_map " ++ qualified space name)

def applySecret (store : Memory) (secret : Secret) : Memory :=
  let space := secret.metadata.namespace_.getD ""
  let name := secret.metadata.anyName
  { store with secrets := store.secrets.insert (space, name) secret }.record
    ("apply_secret " ++ qualified space name)

def deleteConfigMap (store : Memory) (space name : String) : Outcome Unit × Memory :=
  if store.configMaps.contains (space, name) then
    (.ok (), { store with configMaps := store.configMaps.erase (space, name) }.record
      ("delete_config_map " ++ qualified space name))
  else (.error (missing "ConfigMap" space name), store)

def deleteSecret (store : Memory) (space name : String) : Outcome Unit × Memory :=
  if store.secrets.contains (space, name) then
    (.ok (), { store with secrets := store.secrets.erase (space, name) }.record
      ("delete_secret " ++ qualified space name))
  else (.error (missing "Secret" space name), store)

def createNamespace (store : Memory) (space : Namespace) : Outcome Unit × Memory :=
  let name := space.metadata.anyName
  if store.namespaces.contains name then (.error (present ("Namespace " ++ name)), store)
  else
    (.ok (), { store with namespaces := store.namespaces.insert name space }.record
      ("create_namespace " ++ name))

def deleteNamespace (store : Memory) (name : String) : Outcome Unit × Memory :=
  if store.namespaces.contains name then
    (.ok (), { store with namespaces := store.namespaces.erase name }.record
      ("delete_namespace " ++ name))
  else (.error (missing "Namespace" "" name), store)

/-- Is a deployment there? Checks bring the end of one that is about to go nearer. -/
def deploymentExists (store : Memory) (space name : String) : Outcome Bool × Memory :=
  match store.deployments.find? (space, name) with
  | none => (.ok false, store)
  | some none => (.ok true, store)
  | some (some 0) =>
    (.ok false, { store with deployments := store.deployments.erase (space, name) })
  | some (some (checks + 1)) =>
    (.ok true, { store with deployments := store.deployments.insert (space, name) (some checks) })

/-- The value found, or that there is none. -/
private def foundOr {α : Type} (found : Option α) (failure : Failure) : Outcome α :=
  match found with
  | some value => .ok value
  | none => .error failure

/-- Answers a call and moves the store on. -/
def handle (call : StoreCall) (store : Memory) : Outcome call.Reply × Memory :=
  match call with
  | .listApps space selector => (.ok (store.listApps space selector), store)
  | .getApp space name => (foundOr (store.app? space name) (missing "App" space name), store)
  | .createApp app => store.createApp app
  | .patchApp space name patch => store.patchApp space name patch
  | .deleteApp space name => store.deleteApp space name
  | .removeAppFinalizer space name finalizer => store.removeAppFinalizer space name finalizer
  | .listConfigMapNames space => (store.listNames "ConfigMaps" store.configMaps space, store)
  | .listSecretNames space => (store.listNames "Secrets" store.secrets space, store)
  | .applyConfigMap configMap => (.ok (), store.applyConfigMap configMap)
  | .applySecret secret => (.ok (), store.applySecret secret)
  | .deleteConfigMap space name => store.deleteConfigMap space name
  | .deleteSecret space name => store.deleteSecret space name
  | .getSecretData space name =>
    (foundOr ((store.secrets.find? (space, name)).map fun secret => secret.data.getD ∅)
      (missing "Secret" space name), store)
  | .getNamespace name =>
    (foundOr (store.namespaces.find? name) (missing "Namespace" "" name), store)
  | .createNamespace space => store.createNamespace space
  | .deleteNamespace name => store.deleteNamespace name
  | .getObject _ kind space name =>
    (foundOr (store.objects.find? (kind, (space, name))) (missing kind space name), store)
  | .deploymentExists space name => store.deploymentExists space name

end Memory

end PlatformApps
