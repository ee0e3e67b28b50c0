/-
# Catalogs

An AppCatalog says where the charts of a catalog are published.
-/

import PlatformApps.Resource.Metadata

namespace PlatformApps

/-- Kind and address of a chart repository. -/
structure CatalogStorage where
  type : String := ""
  url : String
  deriving DecidableEq, Inhabited

namespace CatalogStorage

def toJson (storage : CatalogStorage) : Json :=
  .ofFields [("URL", .str storage.url), ("type", .str storage.type)]

def read? (written : Written) : Option CatalogStorage := do
  let fields ← written.record? ["type", "URL"]
  pure {
    type := ← Written.defaulted? fields "type" "" Written.text?
    url := ← Written.required? fields "URL" Written.text? }

end CatalogStorage

structure AppCatalogSpec where
  title : String := ""
  storage : CatalogStorage
  deriving DecidableEq, Inhabited

namespace AppCatalogSpec

def toJson (spec : AppCatalogSpec) : Json :=
  .ofFields [("storage", spec.storage.toJson), ("title", .str spec.title)]

def read? (written : Written) : Option AppCatalogSpec := do
  let fields ← written.record? ["title", "storage"]
  pure {
    title := ← Written.defaulted? fields "title" "" Written.text?
    storage := ← Written.required? fields "storage" CatalogStorage.read? }

end AppCatalogSpec

structure AppCatalog where
  metadata : Metadata := {}
  spec : AppCatalogSpec
  deriving DecidableEq, Inhabited

namespace AppCatalog

def type : ObjectType := ⟨"application.giantswarm.io/v1alpha1", "AppCatalog"⟩

def toJson (catalog : AppCatalog) : Json :=
  type.document catalog.metadata [("spec", some catalog.spec.toJson)]

def read? (written : Written) : Option AppCatalog := do
  let fields ← written.wholeRecord? ["metadata", "spec"]
  pure {
    metadata := ← Written.required? fields "metadata" Metadata.read?
    spec := ← Written.required? fields "spec" AppCatalogSpec.read? }

end AppCatalog

end PlatformApps
