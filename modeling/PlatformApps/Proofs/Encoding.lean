/-
# What encodings keep

A resource is read back from its document as it was, its metadata as far as the written form
holds them; a values document is read back as it was. Whatever is accepted may be written in more
than one way, but it is not changed any more once it has been read and written.
-/

import PlatformApps.Proofs.Resource.App
import PlatformApps.Proofs.Resource.Cluster
import PlatformApps.Proofs.Resource.Release
import PlatformApps.Proofs.Values

namespace PlatformApps

open Written

namespace Json

/-- Documents of which a document is a part. -/
inductive IsPartOf (part : Json) : Json → Prop where
  | whole : IsPartOf part part
  | item {items : List Json} {item : Json} (inside : item ∈ items) (within : IsPartOf part item) :
      IsPartOf part (.arr items)
  | field {fields : List (String × Json)} {field : String × Json} (inside : field ∈ fields)
      (within : IsPartOf part field.2) : IsPartOf part (.obj fields)

/-- There is no `null` among texts and truth values. -/
theorem Plain.not_null_isPartOf {document : Json} (plain : document.Plain) :
    ¬Json.null.IsPartOf document := by
  induction plain with
  | obj _ _ ih =>
      rintro (_ | _ | ⟨inside, within⟩)
      exact ih _ inside within
  | _ => rintro ⟨⟩

end Json

/-- How the values of a type are written as documents, and read from what is written. -/
structure Encoding (α : Type) where
  write : α → Json
  read? : Written → Option α

namespace Encoding

variable {α : Type} {encoding : Encoding α}

/-- Writes what is read. -/
def recode? (encoding : Encoding α) (written : Written) : Option Json :=
  (encoding.read? written).map encoding.write

/-- Every value is read back, in the form `asRead` that is the value itself just where it is whole;
and what has been read and written is the same after that is done again. -/
structure Faithful (encoding : Encoding α) (asRead : α → α) (IsWhole : α → Prop) : Prop where
  reads : ∀ value, encoding.read? (.ofJson (encoding.write value)) = some (asRead value)
  same_iff : ∀ value, asRead value = value ↔ IsWhole value
  settles : ∀ written document, encoding.recode? written = some document →
    encoding.recode? (.ofJson document) = some document

/-- Where every value is read back as it was, nothing is lost. -/
theorem faithful_of_reads
    (reads : ∀ value, encoding.read? (.ofJson (encoding.write value)) = some value) :
    encoding.Faithful id fun _ => True where
  reads := reads
  same_iff _ := iff_of_true rfl trivial
  settles written document given := by
    obtain ⟨value, _, rfl⟩ := Option.map_eq_some_iff.mp given
    rw [recode?, reads, Option.map_some]

/-- A resource is read back as far as its metadata are. -/
theorem faithful_of_metadata {asRead : α → α} {metadata : α → Metadata}
    (reads : ∀ value, encoding.read? (.ofJson (encoding.write value)) = some (asRead value))
    (same : ∀ value, asRead value = value ↔ (metadata value).asRead = metadata value)
    (rewrites : ∀ value,
      (∀ manager ∈ (metadata value).managedFields.getD [], manager.IsDocumented) →
        encoding.write (asRead value) = encoding.write value)
    (states : ∀ written value, encoding.read? written = some value →
      ∃ stated, Metadata.read? stated = some (metadata value)) :
    encoding.Faithful asRead fun value => (metadata value).IsWritten where
  reads := reads
  same_iff value := (same value).trans Metadata.asRead_eq_self_iff
  settles written document given := by
    obtain ⟨value, read, rfl⟩ := Option.map_eq_some_iff.mp given
    obtain ⟨stated, metadataRead⟩ := states written value read
    rw [recode?, reads, Option.map_some,
      rewrites value (Metadata.documented_of_read? metadataRead)]

end Encoding

namespace App

def encoding : Encoding App := ⟨toJson, read?⟩

theorem faithful : encoding.Faithful asRead fun app => app.metadata.IsWritten := by
  refine Encoding.faithful_of_metadata read?_toJson (fun app => ?_)
    (fun _ documented => toJson_asRead documented) fun written app read => ?_
  · cases app
    simp [asRead]
  · simp only [encoding, read?, Option.bind_eq_bind, Option.bind_eq_some_iff, Option.pure_def,
      Option.some_inj] at read
    obtain ⟨_, _, _, metadata, _, _, rfl⟩ := read
    exact reads_of_required? metadata

end App

namespace Cluster

def encoding : Encoding Cluster := ⟨toJson, read?⟩

theorem faithful : encoding.Faithful asRead fun cluster => cluster.metadata.IsWritten := by
  refine Encoding.faithful_of_metadata read?_toJson (fun cluster => ?_)
    (fun cluster documented => type.document_asRead documented _) fun written cluster read => ?_
  · cases cluster
    simp [asRead]
  · simp only [encoding, read?, Option.bind_eq_bind, Option.bind_eq_some_iff, Option.pure_def,
      Option.some_inj] at read
    obtain ⟨_, _, _, metadata, _, _, _, _, rfl⟩ := read
    exact reads_of_required? metadata

end Cluster

namespace Release

def encoding : Encoding Release := ⟨toJson, read?⟩

theorem faithful : encoding.Faithful asRead fun release => release.metadata.IsWritten := by
  refine Encoding.faithful_of_metadata read?_toJson (fun release => ?_)
    (fun release documented => type.document_asRead documented _) fun written release read => ?_
  · cases release
    simp [asRead]
  · simp only [encoding, read?, Option.bind_eq_bind, Option.bind_eq_some_iff, Option.pure_def,
      Option.some_inj] at read
    obtain ⟨_, _, _, metadata, _, _, rfl⟩ := read
    exact reads_of_required? metadata

end Release

namespace AppCatalog

def encoding : Encoding AppCatalog := ⟨toJson, read?⟩

theorem faithful : encoding.Faithful asRead fun catalog => catalog.metadata.IsWritten := by
  refine Encoding.faithful_of_metadata read?_toJson (fun catalog => ?_)
    (fun catalog documented => type.document_asRead documented _) fun written catalog read => ?_
  · cases catalog
    simp [asRead]
  · simp only [encoding, read?, Option.bind_eq_bind, Option.bind_eq_some_iff, Option.pure_def,
      Option.some_inj] at read
    obtain ⟨_, _, _, metadata, _, _, rfl⟩ := read
    exact reads_of_required? metadata

end AppCatalog

def ClusterValues.encoding : Encoding ClusterValues := ⟨toJson, read?⟩

def AgentValues.encoding : Encoding AgentValues := ⟨toJson, read?⟩

/-- Resources are always read back from their documents, and just as they were where the written
form holds all of their metadata: times are at whole seconds, and no manager has a record that is
`null`, or that is not in order. Values documents are read back just as they were. No
specification of an App has a `null` in its document; and what has been read and written once is
not changed any more. -/
theorem encodings_faithful :
    App.encoding.Faithful App.asRead (fun app => app.metadata.IsWritten) ∧
    Cluster.encoding.Faithful Cluster.asRead (fun cluster => cluster.metadata.IsWritten) ∧
    Release.encoding.Faithful Release.asRead (fun release => release.metadata.IsWritten) ∧
    AppCatalog.encoding.Faithful AppCatalog.asRead (fun catalog => catalog.metadata.IsWritten) ∧
    ClusterValues.encoding.Faithful id (fun _ => True) ∧
    AgentValues.encoding.Faithful id (fun _ => True) ∧
    ∀ spec : AppSpec, ¬Json.null.IsPartOf spec.toJson :=
  ⟨App.faithful, Cluster.faithful, Release.faithful, AppCatalog.faithful,
    Encoding.faithful_of_reads ClusterValues.read?_toJson,
    Encoding.faithful_of_reads AgentValues.read?_toJson,
    fun spec => spec.plain_toJson.not_null_isPartOf⟩

/-- A cluster with blocks that are there without content. -/
def sparseCluster : Cluster where
  metadata := {
    name := some "demo0"
    labels := some ∅
    finalizers := some []
    creationTimestamp := some .epoch
    managedFields := some [{ fields := some (.obj [("f:spec", .obj [])]), time := some .epoch }] }
  spec := {
    clusterNetwork := some { services := some {} }
    infrastructureRef := some { kind := "AWSCluster", name := "demo0", namespace_ := some "" } }
  status := some {}

theorem encodings_faithful_sparse :
    sparseCluster.metadata.IsWritten ∧
      Cluster.read? (.ofJson sparseCluster.toJson) = some sparseCluster := by
  have wholeSecond : ∀ time ∈ some Timestamp.epoch, time.micro = 0 := by
    rintro _ ⟨⟩
    rfl
  have written : sparseCluster.metadata.IsWritten := by
    refine ⟨wholeSecond, ?_, fun manager inside => ?_⟩
    · rintro _ ⟨⟩
    · obtain rfl := List.mem_singleton.mp inside
      refine ⟨?_, wholeSecond⟩
      rintro _ ⟨⟩
      exact ⟨rfl, by decide⟩
  obtain ⟨_, faithful, _⟩ := encodings_faithful
  have reads := faithful.reads sparseCluster
  rw [(faithful.same_iff sparseCluster).mpr written] at reads
  exact ⟨written, reads⟩

/-- A cluster one of whose managers has a record that is `null`. -/
def emptyHanded : Cluster where
  metadata := {
    name := some "demo0"
    managedFields := some [{ fields := some .null, manager := some "kubectl" }] }

/-- A record that is `null` is written, and read as none at all. -/
theorem null_record_not_read_back :
    Cluster.read? (.ofJson emptyHanded.toJson) ≠ some emptyHanded ∧
      Cluster.encoding.recode? (.ofJson emptyHanded.toJson) ≠ some emptyHanded.toJson := by
  decide +kernel

end PlatformApps
