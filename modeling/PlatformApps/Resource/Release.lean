/-
# Releases

A Release is the manifest of versions that a cluster runs: operator components, and the
apps to install. In both lists the last entry of a repeated name counts.
-/

import PlatformApps.Resource.Metadata

namespace PlatformApps

structure ReleaseApp where
  name : String
  version : String
  catalog : Option String := none
  deriving DecidableEq, Inhabited

namespace ReleaseApp

def toJson (app : ReleaseApp) : Json :=
  .ofPresent [
    ("catalog", app.catalog.map .str),
    ("name", some (.str app.name)),
    ("version", some (.str app.version))]

def read? (written : Written) : Option ReleaseApp := do
  let fields ← written.record? ["name", "version", "catalog"]
  pure {
    name := ← Written.required? fields "name" Written.text?
    version := ← Written.required? fields "version" Written.text?
    catalog := ← Written.optional? fields "catalog" Written.text? }

end ReleaseApp

structure ReleaseComponent where
  name : String
  version : String
  catalog : Option String := none
  /-- Deployed instead of the version when it is not empty. -/
  reference : Option String := none
  deriving DecidableEq, Inhabited

namespace ReleaseComponent

def toJson (component : ReleaseComponent) : Json :=
  .ofPresent [
    ("catalog", component.catalog.map .str),
    ("name", some (.str component.name)),
    ("reference", component.reference.map .str),
    ("version", some (.str component.version))]

def read? (written : Written) : Option ReleaseComponent := do
  let fields ← written.record? ["name", "version", "catalog", "reference"]
  pure {
    name := ← Written.required? fields "name" Written.text?
    version := ← Written.required? fields "version" Written.text?
    catalog := ← Written.optional? fields "catalog" Written.text?
    reference := ← Written.optional? fields "reference" Written.text? }

/-- The version to deploy. -/
def deployVersion (component : ReleaseComponent) : String :=
  match component.reference with
  | some reference => if reference.isEmpty then component.version else reference
  | none => component.version

end ReleaseComponent

structure ReleaseSpec where
  apps : List ReleaseApp := []
  components : List ReleaseComponent := []
  state : Option String := none
  deriving DecidableEq, Inhabited

namespace ReleaseSpec

def toJson (spec : ReleaseSpec) : Json :=
  .ofPresent [
    ("apps", some (.arr (spec.apps.map ReleaseApp.toJson))),
    ("components", some (.arr (spec.components.map ReleaseComponent.toJson))),
    ("state", spec.state.map .str)]

def read? (written : Written) : Option ReleaseSpec := do
  let fields ← written.record? ["apps", "components", "state"]
  pure {
    apps := ← Written.defaulted? fields "apps" [] (Written.list? ReleaseApp.read?)
    components := ← Written.defaulted? fields "components" [] (Written.list? ReleaseComponent.read?)
    state := ← Written.optional? fields "state" Written.text? }

end ReleaseSpec

structure Release where
  metadata : Metadata := {}
  spec : ReleaseSpec := {}
  deriving DecidableEq, Inhabited

namespace Release

def type : ObjectType := ⟨"release.giantswarm.io/v1alpha1", "Release"⟩

def toJson (release : Release) : Json :=
  type.document release.metadata [("spec", some release.spec.toJson)]

def read? (written : Written) : Option Release := do
  let fields ← written.wholeRecord? ["metadata", "spec"]
  pure {
    metadata := ← Written.required? fields "metadata" Metadata.read?
    spec := ← Written.required? fields "spec" ReleaseSpec.read? }

/-- The components by name. -/
def components (release : Release) : Table String ReleaseComponent :=
  .ofList (release.spec.components.map fun component => (component.name, component))

/-- The apps by name. -/
def apps (release : Release) : Table String ReleaseApp :=
  .ofList (release.spec.apps.map fun app => (app.name, app))

end Release

end PlatformApps
