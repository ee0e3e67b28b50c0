/-
# Apps as documents

An App can always be read from its written form. Its specification is read as it was written,
and its metadata as far as the written form holds them.
-/

import PlatformApps.Proofs.Resource.Metadata
import PlatformApps.Convergence
import PlatformApps.Store.Memory

namespace PlatformApps

open Written

namespace NamespacedName

theorem read?_toJson (reference : NamespacedName) :
    read? (.ofJson reference.toJson) = some reference := by
  obtain ⟨fields, same, sorted, found⟩ :=
    Json.eq_obj_of_ofFields (rfl : reference.toJson = _) (by simp)
  have distinct := sorted.nodup_keys
  have name := required?_of_written text?_str distinct (found "name")
  have space := required?_of_written text?_str distinct (found "namespace")
  rw [same, read?, record?_ofJson distinct, Option.bind_eq_bind, Option.bind_some, name, space]
  rfl

theorem plain_toJson (reference : NamespacedName) : reference.toJson.Plain := by
  apply Json.Plain.ofFields
  simp [Json.Plain.str]

end NamespacedName

namespace ValuesSource

theorem read?_toJson (source : ValuesSource) : read? (.ofJson source.toJson) = some source := by
  obtain ⟨fields, same, sorted, found⟩ :=
    Json.eq_obj_of_ofPresent (rfl : source.toJson = _) (by simp)
  have distinct := sorted.nodup_keys
  have configMap := optional?_of_written NamespacedName.read?_toJson (fun _ => rfl) distinct
    (found "configMap")
  have secret := optional?_of_written NamespacedName.read?_toJson (fun _ => rfl) distinct
    (found "secret")
  rw [same, read?, record?_ofJson distinct, Option.bind_eq_bind, Option.bind_some, configMap,
    secret]
  rfl

theorem plain_toJson (source : ValuesSource) : source.toJson.Plain := by
  apply Json.Plain.ofPresent
  simp [NamespacedName.plain_toJson]

end ValuesSource

namespace KubeConfig

theorem contextName?_contextToJson (name : String) :
    contextName? (.ofJson (contextToJson name)) = some name := by
  obtain ⟨fields, same, sorted, found⟩ :=
    Json.eq_obj_of_ofFields (rfl : contextToJson name = _) (by simp)
  have distinct := sorted.nodup_keys
  rw [same, contextName?, record?_ofJson distinct, Option.bind_eq_bind, Option.bind_some]
  exact required?_of_written text?_str distinct (found "name")

theorem read?_toJson (config : KubeConfig) : read? (.ofJson config.toJson) = some config := by
  obtain ⟨fields, same, sorted, found⟩ :=
    Json.eq_obj_of_ofPresent (rfl : config.toJson = _) (by simp)
  have distinct := sorted.nodup_keys
  have inCluster := defaulted?_of_written bool?_bool distinct false (found "inCluster")
  have context := optional?_of_written contextName?_contextToJson (fun _ => rfl) distinct
    (found "context")
  have secret := optional?_of_written NamespacedName.read?_toJson (fun _ => rfl) distinct
    (found "secret")
  rw [same, read?, record?_ofJson distinct, Option.bind_eq_bind, Option.bind_some, inCluster,
    context, secret]
  rfl

theorem plain_toJson (config : KubeConfig) : config.toJson.Plain := by
  have context (name : String) : (contextToJson name).Plain := by
    apply Json.Plain.ofFields
    simp [Json.Plain.str]
  apply Json.Plain.ofPresent
  simp [NamespacedName.plain_toJson, Json.Plain.bool, context]

end KubeConfig

namespace AppSpec

/-- The specification of an App is read back as it was written. -/
theorem read?_toJson (spec : AppSpec) : read? (.ofJson spec.toJson) = some spec := by
  obtain ⟨fields, same, sorted, found⟩ :=
    Json.eq_obj_of_ofPresent (rfl : spec.toJson = _) (by simp)
  have distinct := sorted.nodup_keys
  have catalog := required?_of_written text?_str distinct (found "catalog")
  have name := required?_of_written text?_str distinct (found "name")
  have space := required?_of_written text?_str distinct (found "namespace")
  have version := required?_of_written text?_str distinct (found "version")
  have config := optional?_of_written ValuesSource.read?_toJson (fun _ => rfl) distinct
    (found "config")
  have kubeConfig := defaulted?_of_written KubeConfig.read?_toJson distinct {}
    (found "kubeConfig")
  have userConfig := optional?_of_written ValuesSource.read?_toJson (fun _ => rfl) distinct
    (found "userConfig")
  rw [same, read?, record?_ofJson distinct, Option.bind_eq_bind, Option.bind_some, catalog, name,
    space, version, config, kubeConfig, userConfig]
  rfl

theorem plain_toJson (spec : AppSpec) : spec.toJson.Plain := by
  apply Json.Plain.ofPresent
  simp [Json.Plain.str, ValuesSource.plain_toJson, KubeConfig.plain_toJson]

end AppSpec

namespace App

/-- An App as it is read from its written form. -/
def asRead (app : App) : App := { app with metadata := app.metadata.asRead }

theorem read?_toJson (app : App) : read? (.ofJson app.toJson) = some app.asRead := by
  obtain ⟨fields, same, sorted, found⟩ :=
    Json.eq_obj_of_ofPresent (rfl : app.toJson = _) (by simp)
  have distinct := sorted.nodup_keys
  have spec := required?_of_written AppSpec.read?_toJson distinct (found "spec")
  have metadata := Metadata.required?_of_written distinct (found "metadata")
  rw [same, read?, wholeRecord?_ofJson distinct, Option.bind_eq_bind, Option.bind_some, metadata,
    spec]
  rfl

/-- What an App is read as has the same written form. -/
theorem toJson_asRead {app : App}
    (documented : ∀ manager ∈ app.metadata.managedFields.getD [], manager.IsDocumented) :
    app.asRead.toJson = app.toJson :=
  type.document_asRead documented _

end App

end PlatformApps
