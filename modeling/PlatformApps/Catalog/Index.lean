/-
# The index of a catalog

An index lists the published versions of charts under the names of the charts. The chart
of an app is named after the app, with or without `-app` at its end; the longer name is
looked for first.
-/

import PlatformApps.Text.Blank
import PlatformApps.Yaml.Document

namespace PlatformApps

/-- A published version of a chart. -/
structure IndexEntry where
  name : String := ""
  version : String := ""
  deriving DecidableEq, Repr, Inhabited

structure CatalogIndex where
  entries : Table String (List IndexEntry) := ∅
  deriving DecidableEq, Inhabited

namespace CatalogIndex

def entryReader : Yaml.Reader IndexEntry := fun targets node => do
  let fields ← Yaml.Reader.fields ["name", "version"] targets node
  pure {
    name := ← Yaml.Reader.defaulted targets fields "name" "" Yaml.Reader.text
    version := ← Yaml.Reader.defaulted targets fields "version" "" Yaml.Reader.text }

def reader : Yaml.Reader CatalogIndex := fun targets node => do
  let fields ← Yaml.Reader.fields ["entries"] targets node
  pure {
    entries := ← Yaml.Reader.defaulted targets fields "entries" ∅ (.table (.list entryReader)) }

/-- Names under which the chart of an app may be listed. -/
def candidates (app : String) : List String :=
  let bare := (Text.withoutEnding? "-app" app).getD app
  [bare ++ "-app", bare]

/-- The listed versions under a name, if there are any. -/
def listed? (index : CatalogIndex) (name : String) : Option (String × List IndexEntry) :=
  ((index.entries.find? name).filter fun entries => !entries.isEmpty).map (name, ·)

/-- Name of the chart for a version of an app. -/
def chart? (index : CatalogIndex) (app version : String) : Option String := do
  let (chart, entries) ← (candidates app).findSome? index.listed?
  let entry ← entries.find? fun entry => entry.name == chart && entry.version == version
  pure entry.name

end CatalogIndex

end PlatformApps
