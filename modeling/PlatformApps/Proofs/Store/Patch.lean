/-
# Apps after a patch

A patch is applied to an App in its written form, which is then read again. The patches of
this operator name labels, annotations and the specification only, so they can always be
applied, and all else stays as it reads. The patch that brings an App in line does so exactly,
and the one for the version label sets that label and changes nothing else.
-/

import PlatformApps.Proofs.Resource.App
import PlatformApps.VersionLabels

namespace PlatformApps

open Json Written

/-! Tables of texts under a patch. -/

theorem ofTexts_injective {first second : Table String String}
    (same : Json.ofTexts first = .ofTexts second) : first = second := by
  have read := textTable?_ofTexts first
  rw [same, textTable?_ofTexts] at read
  exact (Option.some.inj read).symm

/-- A table of texts is brought in line whether or not it is stated before. -/
theorem fieldAs?_changedField_texts (stated : Option (Table String String))
    (wanted : Table String String) :
    ∃ left, fieldAs? textTable? (changedField (stated.map .ofTexts)
        ((Json.ofTexts (stated.getD ∅)).mergeDiff (.ofTexts wanted))) = some left ∧
      left.getD ∅ = wanted := by
  have reached := (Plain.ofTexts wanted).changed_mergeDiff (Plain.ofTexts (stated.getD ∅)).canonical
  have readWanted : fieldAs? textTable? (some (Json.ofTexts wanted)) = some (some wanted) :=
    fieldAs?_map textTable?_ofTexts (fun _ => rfl) (some wanted)
  cases stated with
  | some table =>
      refine ⟨some wanted, ?_, rfl⟩
      rw [Option.getD_some] at reached ⊢
      rw [Option.map_some, changedField_mergeDiff rfl, reached, readWanted]
  | none =>
      rw [Option.getD_none] at reached ⊢
      rw [Option.map_none]
      cases differs : (Json.ofTexts ∅).mergeDiff (.ofTexts wanted) with
      | none =>
          rw [differs] at reached
          exact ⟨none, rfl, ofTexts_injective reached⟩
      | some change =>
          have set : Json.null.mergePatch change = .ofTexts wanted := by
            rw [differs] at reached
            rw [← reached]
            cases change <;> rfl
          refine ⟨some wanted, ?_, rfl⟩
          rw [changedField, isNull_of_mergeDiff rfl differs, Option.getD_none, set,
            if_neg (by decide), readWanted]

private theorem nodup_name (name : String) (value : Json) :
    ([(name, value)].map (·.1)).Nodup := by
  simp

theorem mergePatch_ofTexts (table : Table String String) (key text : String) :
    (Json.ofTexts table).mergePatch (.obj [(key, .str text)]) =
      .ofTexts (table.insert key text) := by
  have before (name : String) : Entries.find? name ((Json.ofTexts table).fields?.getD []) =
      (table.find? name).map .str :=
    Entries.find?_map Json.str table.toList name
  have after (name : String) : Entries.find? name
      ((table.insert key text).toList.map fun entry => (entry.1, Json.str entry.2)) =
        ((table.insert key text).find? name).map .str :=
    Entries.find?_map Json.str (table.insert key text).toList name
  rw [mergePatch_obj]
  refine congrArg Json.obj (Entries.Sorted.ext (sorted_mergeFields (table.sorted.map Json.str) _)
    ((table.insert key text).sorted.map Json.str) fun name => ?_)
  rw [find?_mergeFields (nodup_name _ _), before, after, Table.find?_insert, Entries.find?]
  split <;> rfl

/-! Apps under a patch. -/

variable {app : App}

/-- A patched App is read from its patched metadata and its patched specification. -/
theorem patched_obj {changes : List (String × Json)} (distinct : (changes.map (·.1)).Nodup)
    {metadata : Metadata} {spec : AppSpec}
    (readMetadata : (changedField (some app.metadata.toJson)
      (Entries.find? "metadata" changes)).bind (fun left => Metadata.read? (.ofJson left)) =
        some metadata)
    (readSpec : (changedField (some app.spec.toJson) (Entries.find? "spec" changes)).bind
      (fun left => AppSpec.read? (.ofJson left)) = some spec) :
    Memory.patched app (.obj changes) = .ok ⟨metadata, spec⟩ := by
  obtain ⟨fields, same, sorted, found⟩ :=
    Json.eq_obj_of_ofPresent (rfl : app.toJson = _) (by simp)
  have metadataThere : Entries.find? "metadata" fields = some app.metadata.toJson :=
    found "metadata"
  have specThere : Entries.find? "spec" fields = some app.spec.toJson := found "spec"
  have merged := (sorted_mergeFields sorted changes).nodup_keys
  have reads : App.read? (.ofJson (.obj (mergeFields fields changes))) =
      some ⟨metadata, spec⟩ := by
    rw [App.read?, wholeRecord?_ofJson merged, Option.bind_eq_bind, Option.bind_some,
      required?_ofFields merged, required?_ofFields merged, find?_mergeFields distinct,
      find?_mergeFields distinct, metadataThere, specThere, readMetadata, readSpec]
    rfl
  rw [Memory.patched, same, mergePatch_obj]
  simp only [Json.fields?, Option.getD_some, reads]

/-- What a patch may change of the metadata of an App. -/
def metadataView (labels annotations : Labels) : Json :=
  .ofFields [("labels", .ofTexts labels), ("annotations", .ofTexts annotations)]

theorem plain_metadataView (labels annotations : Labels) :
    (metadataView labels annotations).Plain := by
  apply Json.Plain.ofFields
  simp [Json.Plain.ofTexts]

theorem plain_patchableView (labels annotations : Labels) (spec : AppSpec) :
    (patchableView labels annotations spec).Plain := by
  have metadata := plain_metadataView labels annotations
  apply Json.Plain.ofFields
  simpa [spec.plain_toJson, metadataView] using metadata

/-- Metadata that are changed as wanted labels and annotations differ. -/
theorem Metadata.read?_mergeDiff (metadata : Metadata) (wantedLabels wantedAnnotations : Labels) :
    ∃ labels annotations,
      (changedField (some metadata.toJson)
        ((metadataView metadata.labelTable metadata.annotationTable).mergeDiff
          (metadataView wantedLabels wantedAnnotations))).bind
            (fun left => Metadata.read? (.ofJson left)) =
        some { metadata.asRead with labels := labels, annotations := annotations } ∧
      labels.getD ∅ = wantedLabels ∧ annotations.getD ∅ = wantedAnnotations := by
  obtain ⟨known, knownSame, knownSorted, knownFound⟩ := Json.eq_obj_of_ofFields
    (rfl : metadataView metadata.labelTable metadata.annotationTable = _) (by simp)
  obtain ⟨wanted, wantedSame, wantedSorted, wantedFound⟩ := Json.eq_obj_of_ofFields
    (rfl : metadataView wantedLabels wantedAnnotations = _) (by simp)
  obtain ⟨fields, same, _, _⟩ := Json.eq_obj_of_ofPresent (rfl : metadata.toJson = _) (by simp)
  have change (name : String) : Entries.find? name (changes known wanted) =
      changeOf (Entries.find? name known) (Entries.find? name wanted) :=
    find?_changes knownSorted wantedSorted name
  have relabels : Relabels (changes known wanted) := by
    intro name notLabels notAnnotations
    rw [change, knownFound, wantedFound]
    simp only [Entries.find?, if_neg notLabels, if_neg notAnnotations]
    rfl
  obtain ⟨labels, readLabels, sameLabels⟩ :=
    fieldAs?_changedField_texts metadata.labels wantedLabels
  obtain ⟨annotations, readAnnotations, sameAnnotations⟩ :=
    fieldAs?_changedField_texts metadata.annotations wantedAnnotations
  refine ⟨labels, annotations, ?_, sameLabels, sameAnnotations⟩
  rw [knownSame, wantedSame, changedField_mergeDiff rfl, same, changed_mergeDiff_obj, ← same,
    Option.bind_some]
  refine Metadata.read?_mergePatch metadata (sorted_changes known wantedSorted).nodup_keys
    relabels ?_ ?_
  · rw [change, knownFound, wantedFound]
    exact readLabels
  · rw [change, knownFound, wantedFound]
    exact readAnnotations

/-- The patch for an App can always be applied to it. It makes labels, annotations and
specification the wanted ones, and it leaves the rest as it reads. -/
theorem patched_updatePatch {desired : App} {patch : Json}
    (patches : updatePatch app desired = some patch) :
    ∃ labels annotations,
      Memory.patched app patch = .ok
        ⟨{ app.metadata.asRead with labels := labels, annotations := annotations },
          desired.spec⟩ ∧
      labels.getD ∅ = desired.labels ∧
      annotations.getD ∅ = mergeAnnotations app.annotations desired.annotations := by
  let merged := mergeAnnotations app.annotations desired.annotations
  obtain ⟨known, knownSame, knownSorted, knownFound⟩ := Json.eq_obj_of_ofFields
    (rfl : patchableView app.labels app.annotations app.spec = _) (by simp)
  obtain ⟨wanted, wantedSame, wantedSorted, wantedFound⟩ := Json.eq_obj_of_ofFields
    (rfl : patchableView desired.labels merged desired.spec = _) (by simp)
  obtain rfl : .obj (changes known wanted) = patch := by
    rw [updatePatch, Option.ite_none_left_eq_some, knownSame, wantedSame, mergeDiff_obj,
      Option.ite_none_left_eq_some] at patches
    exact Option.some.inj patches.2.2
  obtain ⟨labels, annotations, readMetadata, same⟩ :=
    Metadata.read?_mergeDiff app.metadata desired.labels merged
  refine ⟨labels, annotations, ?_, same⟩
  refine patched_obj (sorted_changes known wantedSorted).nodup_keys ?_ ?_
  · rw [find?_changes knownSorted wantedSorted, knownFound, wantedFound]
    exact readMetadata
  · rw [find?_changes knownSorted wantedSorted, knownFound, wantedFound]
    change (changedField (some app.spec.toJson)
      (app.spec.toJson.mergeDiff desired.spec.toJson)).bind _ = _
    rw [changedField_mergeDiff desired.spec.plain_toJson.isNull,
      desired.spec.plain_toJson.changed_mergeDiff app.spec.plain_toJson.canonical,
      Option.bind_some, AppSpec.read?_toJson]

/-- An App with a version label. -/
def App.withVersion (app : App) (version : String) : App :=
  { app with
    metadata := { app.metadata with
      labels := some (app.labels.insert Label.agentVersion version) } }

/-- Reading an App with a version label from its written form changes nothing more just where the
written form holds all metadata of the App. -/
theorem App.asRead_withVersion_eq_iff {app : App} {version : String} :
    (app.withVersion version).asRead = app.withVersion version ↔ app.metadata.IsWritten := by
  rw [← Metadata.asRead_eq_self_iff]
  constructor
  · intro same
    exact congrArg (fun read : App => { read.metadata with labels := app.metadata.labels }) same
  · intro same
    exact congrArg (fun metadata : Metadata => { app with
      metadata := { metadata with
        labels := some (app.labels.insert Label.agentVersion version) } }) same

/-- The patch for the version label can always be applied. It sets that label, and it leaves
the rest as it reads. -/
theorem patched_versionPatch (app : App) (version : String) :
    Memory.patched app (versionPatch version) = .ok (app.withVersion version).asRead := by
  let labelled := Json.obj [(Label.agentVersion, .str version)]
  have set : changedField (app.metadata.labels.map .ofTexts) (some labelled) =
      some (Json.ofTexts (app.labels.insert Label.agentVersion version)) := by
    rw [← mergePatch_ofTexts, App.labels, Metadata.labelTable]
    cases app.metadata.labels <;> rfl
  have readLabels : fieldAs? textTable?
      (some (Json.ofTexts (app.labels.insert Label.agentVersion version))) = some (some _) :=
    fieldAs?_map textTable?_ofTexts (fun _ => rfl) (some _)
  have readAnnotations : fieldAs? textTable? (app.metadata.annotations.map .ofTexts) =
      some app.metadata.annotations :=
    fieldAs?_map textTable?_ofTexts (fun _ => rfl) _
  have relabels : Metadata.Relabels [("labels", labelled)] := by
    intro name notLabels _
    rw [Entries.find?, if_neg notLabels, Entries.find?]
  refine patched_obj (nodup_name _ _) ?_ ?_
  · refine Metadata.read?_mergePatch app.metadata (nodup_name "labels" labelled) relabels ?_ ?_
    · exact (congrArg _ set).trans readLabels
    · exact readAnnotations
  · exact AppSpec.read?_toJson app.spec

/-- An App of a user that was made half a second after 1970 began. -/
def momentary : App where
  metadata := {
    name := some "hello"
    namespace_ := some "org-acme"
    labels := some (.ofList [(Label.cluster, "demo0")])
    creationTimestamp := some { Timestamp.epoch with micro := 500000, inRange := by decide } }
  spec := { name := "hello-app", version := "1.0.0" }

end PlatformApps
