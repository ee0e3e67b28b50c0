/-
# What is written to the in-memory store

An object is only created where there is none; what refuses it leaves the store alone. A
patch concerns one App, which stays in its place, and config maps and secrets are written
whether they are there or not.
-/

import PlatformApps.Proofs.Store.Calls

namespace PlatformApps.Memory

variable {store : Memory} {space name : String}

/-! Apps. -/

theorem handle_createApp_of_free {app : App}
    (free : store.app? (app.namespaceOr "") app.name = none) :
    ∃ entry, store.handle (.createApp app) = (.ok (), (store.putApp app).record entry) := by
  have missing : ¬store.apps.contains (app.namespaceOr "", app.name) :=
    Option.not_isSome_iff_eq_none.mpr free
  simp only [handle, createApp, if_neg missing]
  exact ⟨_, rfl⟩

theorem handle_createApp_of_taken {app other : App}
    (taken : store.app? (app.namespaceOr "") app.name = some other) :
    ∃ failure, failure.isAlreadyExists = true ∧
      store.handle (.createApp app) = (.error failure, store) := by
  have there : store.apps.contains (app.namespaceOr "", app.name) := by
    rw [Table.contains, ← app?, taken]
    rfl
  simp only [handle, createApp, if_pos there]
  exact ⟨_, rfl, rfl⟩

theorem app?_putApp (store : Memory) (app : App) (space name : String) :
    (store.putApp app).app? space name =
      if (space, name) = (app.namespaceOr "", app.name) then some app
      else store.app? space name :=
  Table.find?_insert _ _ _ _

theorem handle_patchApp_of_patched {app result : App} {patch : Json}
    (found : store.app? space name = some app) (applied : patched app patch = .ok result) :
    ∃ entry, store.handle (.patchApp space name patch) =
      (.ok (), { store with apps := store.apps.insert (space, name) result }.record entry) := by
  simp only [handle, patchApp, found, applied]
  exact ⟨_, rfl⟩

/-! Namespaces. -/

theorem handle_createNamespace_of_free {desired : Namespace}
    (free : store.namespaces.find? desired.metadata.anyName = none) :
    ∃ entry, store.handle (.createNamespace desired) = (.ok (),
      { store with
        namespaces := store.namespaces.insert desired.metadata.anyName desired }.record entry) := by
  have missing : ¬store.namespaces.contains desired.metadata.anyName :=
    Option.not_isSome_iff_eq_none.mpr free
  simp only [handle, createNamespace, if_neg missing]
  exact ⟨_, rfl⟩

theorem handle_createNamespace_of_taken {desired other : Namespace}
    (taken : store.namespaces.find? desired.metadata.anyName = some other) :
    ∃ failure, failure.isAlreadyExists = true ∧
      store.handle (.createNamespace desired) = (.error failure, store) := by
  have there : store.namespaces.contains desired.metadata.anyName := by
    rw [Table.contains, taken]
    rfl
  simp only [handle, createNamespace, if_pos there]
  exact ⟨_, rfl, rfl⟩

/-! Config maps and secrets. -/

theorem handle_applyConfigMap (store : Memory) (configMap : ConfigMap) :
    ∃ entry, store.handle (.applyConfigMap configMap) = (.ok (),
      { store with
        configMaps := store.configMaps.insert
          (configMap.metadata.namespace_.getD "", configMap.metadata.anyName)
          configMap }.record entry) :=
  ⟨_, rfl⟩

theorem handle_applySecret (store : Memory) (secret : Secret) :
    ∃ entry, store.handle (.applySecret secret) = (.ok (),
      { store with
        secrets := store.secrets.insert
          (secret.metadata.namespace_.getD "", secret.metadata.anyName) secret }.record entry) :=
  ⟨_, rfl⟩

end PlatformApps.Memory
