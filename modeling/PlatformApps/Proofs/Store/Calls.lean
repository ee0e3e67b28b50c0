/-
# What calls of the in-memory store leave alone

Most calls concern one kind of object. Calls that do not write Apps leave the Apps as they
are, and calls that do not write config maps, secrets or namespaces leave those; Apps stay
filed under their names through every call that does not rename one.
-/

import PlatformApps.Proofs.Store.Apps

namespace PlatformApps

namespace StoreCall

/-- Can the call change Apps? -/
def writesApps : StoreCall → Bool
  | .createApp _ | .patchApp .. | .deleteApp .. | .removeAppFinalizer .. => true
  | _ => false

/-- Can the call change config maps, secrets or namespaces? -/
def writesProvisions : StoreCall → Bool
  | .applyConfigMap _ | .applySecret _ | .deleteConfigMap .. | .deleteSecret ..
  | .createNamespace _ | .deleteNamespace _ => true
  | _ => false

/-- Can the call change namespaces? -/
def writesNamespaces : StoreCall → Bool
  | .createNamespace _ | .deleteNamespace _ => true
  | _ => false

/-- Does the call only read? -/
def isReading : StoreCall → Bool
  | .listApps .. | .getApp .. | .listConfigMapNames _ | .listSecretNames _ | .getSecretData ..
  | .getNamespace _ | .getObject .. => true
  | _ => false

/-- Does the call only read, and nothing of Apps? -/
def consults : StoreCall → Bool
  | .listConfigMapNames _ | .listSecretNames _ | .getSecretData .. | .getNamespace _
  | .getObject .. => true
  | _ => false

/-- Is the call to create or patch an App, or to create a namespace? -/
def makes : StoreCall → Bool
  | .createApp _ | .patchApp .. | .createNamespace _ => true
  | _ => false

/-- Does the call change nothing but Apps? -/
def sparesAllButApps (call : StoreCall) : Bool := call.isReading || call.writesApps

theorem isReading_of_consults {call : StoreCall} (consults : call.consults = true) :
    call.isReading = true := by
  cases call with
  | listConfigMapNames | listSecretNames | getSecretData | getNamespace | getObject => rfl
  | _ => cases consults

theorem makes_of_isReading {call : StoreCall} (reads : call.isReading = true) :
    call.makes = false := by
  cases call with
  | createApp | patchApp | createNamespace => cases reads
  | _ => rfl

theorem writesNamespaces_of_spares {call : StoreCall} (spares : call.sparesAllButApps = true) :
    call.writesNamespaces = false := by
  cases call with
  | createNamespace | deleteNamespace => cases spares
  | _ => rfl

end StoreCall

namespace Memory

/-- What is only read stays as it is. -/
theorem handle_of_isReading (store : Memory) {call : StoreCall} (reads : call.isReading = true) :
    (store.handle call).2 = store := by
  cases call with
  | listApps | getApp | listConfigMapNames | listSecretNames | getSecretData | getNamespace
  | getObject => rfl
  | _ => cases reads

/-- Config maps, secrets and namespaces: what a cluster has beside its Apps. -/
def provisions (store : Memory) :
    Table ObjectKey ConfigMap × Table ObjectKey Secret × Table String Namespace :=
  (store.configMaps, store.secrets, store.namespaces)

/-- What a call can do to a store: change objects of one kind that it is about. -/
inductive Changed (call : StoreCall) (store : Memory) : Memory → Prop where
  | nothing : Changed call store store
  | apps (writes : call.writesApps = true) (apps : Table ObjectKey App) (log : List String) :
      Changed call store { store with apps := apps, log := log }
  | configuration (writes : call.writesProvisions = true) (others : call.sparesAllButApps = false)
      (configMaps : Table ObjectKey ConfigMap) (secrets : Table ObjectKey Secret)
      (log : List String) :
      Changed call store { store with configMaps := configMaps, secrets := secrets, log := log }
  | namespaces (writes : call.writesProvisions = true) (others : call.sparesAllButApps = false)
      (writesNamespaces : call.writesNamespaces = true) (namespaces : Table String Namespace)
      (log : List String) : Changed call store { store with namespaces := namespaces, log := log }
  | deployments (others : call.sparesAllButApps = false)
      (deployments : Table ObjectKey (Option Nat)) :
      Changed call store { store with deployments := deployments }

theorem changed_handle (store : Memory) (call : StoreCall) :
    Changed call store (store.handle call).2 := by
  cases call with
  | createApp app =>
      simp only [handle, createApp]
      split
      · exact .nothing
      · exact .apps rfl _ _
  | patchApp space name patch =>
      simp only [handle, patchApp]
      split
      · exact .nothing
      · split
        · exact .nothing
        · exact .apps rfl _ _
  | deleteApp space name =>
      simp only [handle, deleteApp]
      split
      · exact .nothing
      · exact .apps rfl _ _
  | removeAppFinalizer space name finalizer =>
      simp only [handle, removeAppFinalizer]
      split
      · exact .nothing
      · split
        · exact .apps rfl _ _
        · exact .apps rfl _ _
  | applyConfigMap configMap => exact .configuration rfl rfl _ _ _
  | applySecret secret => exact .configuration rfl rfl _ _ _
  | deleteConfigMap space name =>
      simp only [handle, deleteConfigMap]
      split
      · exact .configuration rfl rfl _ _ _
      · exact .nothing
  | deleteSecret space name =>
      simp only [handle, deleteSecret]
      split
      · exact .configuration rfl rfl _ _ _
      · exact .nothing
  | createNamespace space =>
      simp only [handle, createNamespace]
      split
      · exact .nothing
      · exact .namespaces rfl rfl rfl _ _
  | deleteNamespace name =>
      simp only [handle, deleteNamespace]
      split
      · exact .namespaces rfl rfl rfl _ _
      · exact .nothing
  | deploymentExists space name =>
      simp only [handle, deploymentExists]
      split
      · exact .nothing
      · exact .nothing
      · exact .deployments rfl _
      · exact .deployments rfl _
  | listApps | getApp | listConfigMapNames | listSecretNames | getSecretData | getNamespace
  | getObject => exact .nothing

theorem Reduced.provisions_eq {touched : ObjectKey → Prop} {before after : Memory}
    (reduced : Reduced touched before after) : after.provisions = before.provisions := by
  rw [provisions, reduced.others]
  rfl

theorem provisions_handle (store : Memory) {call : StoreCall}
    (other : call.writesProvisions = false) :
    (store.handle call).2.provisions = store.provisions := by
  have changed := store.changed_handle call
  generalize (store.handle call).2 = after at changed ⊢
  cases changed with
  | configuration writes | namespaces writes => cases writes.symm.trans other
  | _ => rfl

theorem apps_handle (store : Memory) {call : StoreCall} (other : call.writesApps = false) :
    (store.handle call).2.apps = store.apps := by
  have changed := store.changed_handle call
  generalize (store.handle call).2 = after at changed ⊢
  cases changed with
  | apps writes => cases writes.symm.trans other
  | _ => rfl

theorem namespaces_handle (store : Memory) {call : StoreCall}
    (other : call.writesNamespaces = false) :
    (store.handle call).2.namespaces = store.namespaces := by
  have changed := store.changed_handle call
  generalize (store.handle call).2 = after at changed ⊢
  cases changed with
  | namespaces _ _ writes => cases writes.symm.trans other
  | _ => rfl

/-- No call writes objects of other types. -/
theorem objects_handle (store : Memory) (call : StoreCall) :
    (store.handle call).2.objects = store.objects := by
  have changed := store.changed_handle call
  generalize (store.handle call).2 = after at changed ⊢
  cases changed <;> rfl

/-- What a store holds, whatever it has noted. -/
def content (store : Memory) : Memory := { store with log := [] }

/-- What a store holds beside its Apps. -/
def withoutApps (store : Memory) : Memory := { store with apps := ∅, log := [] }

theorem withoutApps_of_content {first second : Memory} (same : first.content = second.content) :
    first.withoutApps = second.withoutApps := by
  change first.content.withoutApps = second.content.withoutApps
  rw [same]

theorem eq_of_content {first second : Memory} (same : first.content = second.content) :
    first = { second with log := first.log } := by
  have logged : first = { first.content with log := first.log } := rfl
  rw [logged, same]
  rfl

/-- What is not about Apps is answered from what a store holds beside them. -/
theorem handle_of_consults {first second : Memory} {call : StoreCall}
    (consults : call.consults = true) (same : first.withoutApps = second.withoutApps) :
    (first.handle call).1 = (second.handle call).1 := by
  have answer (store : Memory) : (store.withoutApps.handle call).1 = (store.handle call).1 := by
    cases call with
    | listConfigMapNames | listSecretNames | getSecretData | getNamespace | getObject => rfl
    | _ => cases consults
  rw [← answer, same, answer]

/-- What only concerns Apps leaves all else alone. -/
theorem withoutApps_handle (store : Memory) {call : StoreCall}
    (spares : call.sparesAllButApps = true) :
    (store.handle call).2.withoutApps = store.withoutApps := by
  have changed := store.changed_handle call
  generalize (store.handle call).2 = after at changed ⊢
  cases changed with
  | nothing | apps => rfl
  | configuration _ others | namespaces _ others | deployments others =>
      cases others.symm.trans spares

/-- What a listing of names yields. -/
def listed {α : Type} (store : Memory) (what : String) (table : Table ObjectKey α)
    (space : String) : Outcome (List String) :=
  match store.listingFailure with
  | some code => .error (.status code "InternalError" (s!"listing {what} in {space} failed"))
  | none => .ok (namesIn table space)

theorem handle_listConfigMapNames (store : Memory) (space : String) :
    store.handle (.listConfigMapNames space) =
      (store.listed "ConfigMaps" store.configMaps space, store) := rfl

theorem handle_listSecretNames (store : Memory) (space : String) :
    store.handle (.listSecretNames space) =
      (store.listed "Secrets" store.secrets space, store) := rfl

/-- Every call keeps Apps filed, as long as no patch gives an App another name. -/
theorem Filed.handle {store : Memory} (filed : store.Filed) (call : StoreCall)
    (keepsName : ∀ ⦃space name patch app result⦄, call = .patchApp space name patch →
      store.app? space name = some app → patched app patch = .ok result →
      result.name = app.name) :
    (store.handle call).2.Filed := by
  cases call with
  | createApp app =>
      simp only [Memory.handle, createApp]
      split
      · exact filed
      · exact (filed.putApp app).of_apps_eq rfl
  | patchApp space name patch =>
      simp only [Memory.handle, patchApp]
      split
      · exact filed
      · rename_i app found
        split
        · exact filed
        · rename_i result applied
          obtain rfl := (keepsName rfl found applied).trans (filed found)
          exact (filed.insert space result).of_apps_eq rfl
  | deleteApp space name => exact (store.reduced_afterDelete space name).filed filed
  | removeAppFinalizer space name finalizer =>
      simp only [Memory.handle, removeAppFinalizer]
      split
      · exact filed
      · rename_i app found
        obtain rfl : app.name = name := filed found
        have kept := filed.insert space (withoutFinalizer app finalizer)
        split <;> split
        · exact (filed.erase _).of_apps_eq rfl
        · exact kept.of_apps_eq rfl
        · exact filed.erase _
        · exact kept
  | _ => exact filed.of_apps_eq (apps_handle store rfl)

end Memory

end PlatformApps
