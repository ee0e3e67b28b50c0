/-
# Releases and catalogs as documents

What a release lists, and where a catalog is published, are read as they were written.
-/

import PlatformApps.Proofs.Resource.Metadata
import PlatformApps.Resource.Catalog
import PlatformApps.Resource.Release

namespace PlatformApps

open Written

namespace ReleaseApp

theorem read?_toJson (app : ReleaseApp) : read? (.ofJson app.toJson) = some app := by
  obtain ⟨fields, same, sorted, found⟩ :=
    Json.eq_obj_of_ofPresent (rfl : app.toJson = _) (by simp)
  have distinct := sorted.nodup_keys
  have name := required?_of_written text?_str distinct (found "name")
  have version := required?_of_written text?_str distinct (found "version")
  have catalog := optional?_of_written text?_str (fun _ => rfl) distinct (found "catalog")
  rw [same, read?, record?_ofJson distinct, Option.bind_eq_bind, Option.bind_some, name, version,
    catalog]
  rfl

end ReleaseApp

namespace ReleaseComponent

theorem read?_toJson (component : ReleaseComponent) :
    read? (.ofJson component.toJson) = some component := by
  obtain ⟨fields, same, sorted, found⟩ :=
    Json.eq_obj_of_ofPresent (rfl : component.toJson = _) (by simp)
  have distinct := sorted.nodup_keys
  have name := required?_of_written text?_str distinct (found "name")
  have version := required?_of_written text?_str distinct (found "version")
  have catalog := optional?_of_written text?_str (fun _ => rfl) distinct (found "catalog")
  have reference := optional?_of_written text?_str (fun _ => rfl) distinct (found "reference")
  rw [same, read?, record?_ofJson distinct, Option.bind_eq_bind, Option.bind_some, name, version,
    catalog, reference]
  rfl

end ReleaseComponent

namespace ReleaseSpec

theorem read?_toJson (spec : ReleaseSpec) : read? (.ofJson spec.toJson) = some spec := by
  obtain ⟨fields, same, sorted, found⟩ :=
    Json.eq_obj_of_ofPresent (rfl : spec.toJson = _) (by simp)
  have distinct := sorted.nodup_keys
  have apps := defaulted?_of_written (list?_of_written ReleaseApp.read?_toJson) distinct []
    (found "apps")
  have components := defaulted?_of_written (list?_of_written ReleaseComponent.read?_toJson)
    distinct [] (found "components")
  have state := optional?_of_written text?_str (fun _ => rfl) distinct (found "state")
  rw [same, read?, record?_ofJson distinct, Option.bind_eq_bind, Option.bind_some, apps,
    components, state]
  rfl

end ReleaseSpec

namespace Release

/-- A release as it is read from its written form. -/
def asRead (release : Release) : Release := { release with metadata := release.metadata.asRead }

theorem read?_toJson (release : Release) :
    read? (.ofJson release.toJson) = some release.asRead := by
  obtain ⟨fields, same, sorted, found⟩ :=
    Json.eq_obj_of_ofPresent (rfl : release.toJson = _) (by simp)
  have distinct := sorted.nodup_keys
  have metadata := Metadata.required?_of_written distinct (found "metadata")
  have spec := required?_of_written ReleaseSpec.read?_toJson distinct (found "spec")
  rw [same, read?, wholeRecord?_ofJson distinct, Option.bind_eq_bind, Option.bind_some, metadata,
    spec]
  rfl

end Release

namespace CatalogStorage

theorem read?_toJson (storage : CatalogStorage) :
    read? (.ofJson storage.toJson) = some storage := by
  obtain ⟨fields, same, sorted, found⟩ :=
    Json.eq_obj_of_ofFields (rfl : storage.toJson = _) (by simp)
  have distinct := sorted.nodup_keys
  have type := defaulted?_of_written text?_str distinct "" (found "type")
  have url := required?_of_written text?_str distinct (found "URL")
  rw [same, read?, record?_ofJson distinct, Option.bind_eq_bind, Option.bind_some, type, url]
  rfl

end CatalogStorage

namespace AppCatalogSpec

theorem read?_toJson (spec : AppCatalogSpec) : read? (.ofJson spec.toJson) = some spec := by
  obtain ⟨fields, same, sorted, found⟩ :=
    Json.eq_obj_of_ofFields (rfl : spec.toJson = _) (by simp)
  have distinct := sorted.nodup_keys
  have title := defaulted?_of_written text?_str distinct "" (found "title")
  have storage := required?_of_written CatalogStorage.read?_toJson distinct (found "storage")
  rw [same, read?, record?_ofJson distinct, Option.bind_eq_bind, Option.bind_some, title, storage]
  rfl

end AppCatalogSpec

namespace AppCatalog

/-- A catalog as it is read from its written form. -/
def asRead (catalog : AppCatalog) : AppCatalog :=
  { catalog with metadata := catalog.metadata.asRead }

theorem read?_toJson (catalog : AppCatalog) :
    read? (.ofJson catalog.toJson) = some catalog.asRead := by
  obtain ⟨fields, same, sorted, found⟩ :=
    Json.eq_obj_of_ofPresent (rfl : catalog.toJson = _) (by simp)
  have distinct := sorted.nodup_keys
  have metadata := Metadata.required?_of_written distinct (found "metadata")
  have spec := required?_of_written AppCatalogSpec.read?_toJson distinct (found "spec")
  rw [same, read?, wholeRecord?_ofJson distinct, Option.bind_eq_bind, Option.bind_some, metadata,
    spec]
  rfl

end AppCatalog

end PlatformApps
