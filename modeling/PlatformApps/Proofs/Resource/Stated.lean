/-
# What documents state about an App

A document that is read as an App states its metadata and its specification field by field. So
a change of some fields of the metadata changes what is read in these fields only.
-/

import PlatformApps.Proofs.Resource.Metadata
import PlatformApps.Resource.App

namespace PlatformApps

open Written Json

namespace Json

/-- Do two documents agree but for some fields of their metadata? -/
structure AgreesBeside (document other : Json) (names : List String) : Prop where
  field : ∀ name ≠ "metadata", other.field? name = document.field? name
  metadata : ∀ name ∉ names,
    other.path? ["metadata", name] = document.path? ["metadata", name]

theorem AgreesBeside.trans {first second third : Json} {names : List String}
    (one : first.AgreesBeside second names) (two : second.AgreesBeside third names) :
    first.AgreesBeside third names where
  field name other := (two.field name other).trans (one.field name other)
  metadata name other := (two.metadata name other).trans (one.metadata name other)

/-- The version that the metadata of a document state. -/
def version? (document : Json) : Option String :=
  (document.path? ["metadata", "resourceVersion"]).bind text?

/-- A patch of fields of the metadata. -/
def metadataPatch (changes : List (String × Json)) : Json := .obj [("metadata", .obj changes)]

variable {changes : List (String × Json)}

theorem Canonical.metadataPatch (canonical : (Json.obj changes).Canonical) :
    (metadataPatch changes).Canonical :=
  ⟨List.pairwise_singleton _ _, canonical, trivial⟩

/-- Fields of the metadata after a patch of them. -/
theorem path?_metadataPatch (distinct : (changes.map (·.1)).Nodup) (document : Json)
    (name : String) :
    (document.mergePatch (metadataPatch changes)).path? ["metadata", name] =
      changedField (document.path? ["metadata", name]) (Entries.find? name changes) := by
  have inner (metadata : Json) : (metadata.mergePatch (.obj changes)).path? [name] =
      changedField (metadata.path? [name]) (Entries.find? name changes) := by
    have patched := find?_mergeFields distinct (metadata.fields?.getD []) name
    simp only [mergePatch_obj, path?, field?, Option.bind_fun_some]
    rw [patched]
    cases metadata <;> rfl
  have outer := @find?_mergeFields [("metadata", .obj changes)] (by simp)
    (document.fields?.getD []) "metadata"
  have reached : (document.mergePatch (metadataPatch changes)).path? ["metadata", name] =
      (((Entries.find? "metadata" (document.fields?.getD [])).getD .null).mergePatch
        (.obj changes)).path? [name] := by
    rw [metadataPatch, mergePatch_obj, path?, field?, outer]
    rfl
  rw [reached, inner]
  congr 1
  cases document with
  | obj fields =>
      change ((Entries.find? "metadata" fields).getD .null).path? [name] =
        (Entries.find? "metadata" fields).bind fun metadata => metadata.path? [name]
      cases Entries.find? "metadata" fields <;> rfl
  | _ => rfl

/-- A patch of fields of the metadata leaves all else as it was. -/
theorem agreesBeside_metadataPatch (distinct : (changes.map (·.1)).Nodup) {document : Json}
    {names : List String} (named : ∀ change ∈ changes, change.1 ∈ names) :
    document.AgreesBeside (document.mergePatch (metadataPatch changes)) names where
  field name other := by
    have patched := @find?_mergeFields [("metadata", .obj changes)] (by simp)
      (document.fields?.getD []) name
    rw [Entries.find?, if_neg other] at patched
    rw [metadataPatch, mergePatch_obj, field?, patched]
    cases document <;> rfl
  metadata name other := by
    have unnamed : Entries.find? name changes = none := by
      refine Entries.find?_eq_none_iff.mpr fun inside => ?_
      obtain ⟨change, listed, rfl⟩ := List.mem_map.mp inside
      exact other (named change listed)
    rw [path?_metadataPatch distinct, unnamed]
    rfl

end Json

namespace App

variable {fields : List (String × Json)} {app : App}

theorem read?_eq_some_iff (sorted : Entries.Sorted fields) :
    read? (ofJson (.obj fields)) = some app ↔
      ((Entries.find? "metadata" fields).bind fun value => Metadata.read? (ofJson value)) =
          some app.metadata ∧
        ((Entries.find? "spec" fields).bind fun value => AppSpec.read? (ofJson value)) =
          some app.spec := by
  have distinct := sorted.nodup_keys
  rw [read?, wholeRecord?_ofJson distinct, Option.bind_eq_bind, Option.bind_some,
    required?_ofFields distinct, required?_ofFields distinct]
  constructor
  · intro read
    simp only [Option.bind_eq_bind, Option.bind_eq_some_iff, Option.pure_def,
      Option.some_inj] at read
    obtain ⟨_, metadata, _, spec, rfl⟩ := read
    exact ⟨Option.bind_eq_some_iff.mpr metadata, Option.bind_eq_some_iff.mpr spec⟩
  · rintro ⟨metadata, spec⟩
    rw [metadata, spec]
    rfl

end App

namespace Json

/-- A document in order that states a version is an object, and so are its metadata. -/
theorem eq_obj_of_version? {document : Json} {version : String} (canonical : document.Canonical)
    (stated : document.version? = some version) :
    ∃ fields inner, document = .obj fields ∧ Entries.find? "metadata" fields = some (.obj inner) ∧
      Entries.Sorted fields ∧ Entries.Sorted inner ∧
      Entries.find? "resourceVersion" inner = some (.str version) := by
  obtain ⟨value, reached, shown⟩ := Option.bind_eq_some_iff.mp stated
  obtain ⟨metadata, found, further⟩ := Option.bind_eq_some_iff.mp reached
  obtain ⟨last, there, same⟩ := Option.bind_eq_some_iff.mp further
  cases same
  cases document with
  | obj fields =>
      cases metadata with
      | obj inner =>
          cases value <;> cases shown
          exact ⟨fields, inner, rfl, found, canonical.1, (canonical.of_find? found).1, there⟩
      | _ => cases there
  | _ => cases found

end Json

namespace App

variable {document other : Json} {app : App}

/-- An App is read with the version that its document states. -/
theorem resourceVersion_of_read? (canonical : document.Canonical) {version : String}
    (stated : document.version? = some version) (read : read? (ofJson document) = some app) :
    app.metadata.resourceVersion = some version := by
  obtain ⟨fields, inner, rfl, metadata, sorted, innerSorted, there⟩ :=
    eq_obj_of_version? canonical stated
  have reads := ((read?_eq_some_iff sorted).mp read).1
  rw [metadata] at reads
  have shown := ((Metadata.read?_eq_some_iff innerSorted).mp reads).version
  rw [there] at shown
  exact (Option.some.inj shown).symm

/-- Of a document that agrees with another but for finalizers and version, the same App is read
but for these. -/
theorem read?_of_agreesBeside (canonical : document.Canonical) (otherCanonical : other.Canonical)
    {old : String} (stated : document.version? = some old)
    (read : read? (ofJson document) = some app)
    (agree : document.AgreesBeside other ["finalizers", "resourceVersion"])
    {finalizers : List String} {version : String}
    (finalizersStated : other.path? ["metadata", "finalizers"] = some (.ofStrings finalizers))
    (versionStated : other.version? = some version) :
    read? (ofJson other) = some { app with
      metadata := { app.metadata with
        finalizers := some finalizers
        resourceVersion := some version } } := by
  obtain ⟨fields, inner, rfl, metadata, sorted, innerSorted, _⟩ :=
    eq_obj_of_version? canonical stated
  obtain ⟨others, otherInner, rfl, otherMetadata, otherSorted, otherInnerSorted, otherVersion⟩ :=
    eq_obj_of_version? otherCanonical versionStated
  obtain ⟨metadataRead, specRead⟩ := (read?_eq_some_iff sorted).mp read
  rw [metadata] at metadataRead
  have states := (Metadata.read?_eq_some_iff innerSorted).mp metadataRead
  have inside (name : String) : (Json.obj others).path? ["metadata", name] =
      Entries.find? name otherInner := by
    simp [path?, field?, otherMetadata]
  have insideOld (name : String) : (Json.obj fields).path? ["metadata", name] =
      Entries.find? name inner := by
    simp [path?, field?, metadata]
  refine (read?_eq_some_iff otherSorted).mpr ⟨?_, ?_⟩
  · rw [otherMetadata]
    have kept {name : String} (beside : name ∉ ["finalizers", "resourceVersion"]) :
        Entries.find? name otherInner = Entries.find? name inner := by
      rw [← inside, ← insideOld, agree.metadata name beside]
    refine (Metadata.read?_eq_some_iff otherInnerSorted).mpr
      (states.of_agree (fun name beside => kept ?_) ?_ ?_ ?_ ?_)
    · exact fun among => beside (List.mem_cons_of_mem _ (List.mem_cons_of_mem _ among))
    · rw [kept (by decide)]
      exact states.labels
    · rw [kept (by decide)]
      exact states.annotations
    · rw [← inside, finalizersStated]
      exact fieldAs?_map texts?_ofStrings (fun _ => rfl) (some finalizers)
    · rw [otherVersion]
      rfl
  · have spec := agree.field "spec" (by decide)
    rw [field?, field?] at spec
    rw [spec]
    exact specRead

end App

end PlatformApps
