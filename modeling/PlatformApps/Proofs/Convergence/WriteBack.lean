/-
# What the platform agent writes in between

Apps are listed once and patched one after the other, so the agent may write onto an App
between the two. What it writes are annotations that nobody else sets. The patch for the App
that was seen names none of them: it is the patch for the App that is there.
-/

import PlatformApps.Proofs.Convergence

namespace PlatformApps

open Json

/-! Which differences are the same. -/

/-- Objects of which each field changes in the same way differ in the same way. -/
theorem mergeDiff_ofFields_congr {known wanted other further : List (String × Json)}
    (distinctKnown : (known.map (·.1)).Nodup) (distinctWanted : (wanted.map (·.1)).Nodup)
    (distinctOther : (other.map (·.1)).Nodup) (distinctFurther : (further.map (·.1)).Nodup)
    (same : ∀ name, changeOf (Entries.find? name known) (Entries.find? name wanted) =
      changeOf (Entries.find? name other) (Entries.find? name further)) :
    (Json.ofFields known).mergeDiff (.ofFields wanted) =
      (Json.ofFields other).mergeDiff (.ofFields further) := by
  obtain ⟨_, knownSame, knownSorted, knownFound⟩ := Json.eq_obj_of_ofFields rfl distinctKnown
  obtain ⟨_, wantedSame, wantedSorted, wantedFound⟩ := Json.eq_obj_of_ofFields rfl distinctWanted
  obtain ⟨_, otherSame, otherSorted, otherFound⟩ := Json.eq_obj_of_ofFields rfl distinctOther
  obtain ⟨_, furtherSame, furtherSorted, furtherFound⟩ :=
    Json.eq_obj_of_ofFields rfl distinctFurther
  rw [knownSame, wantedSame, otherSame, furtherSame]
  apply mergeDiff_obj_congr knownSorted wantedSorted otherSorted furtherSorted
  intro name
  rw [knownFound, wantedFound, same, otherFound, furtherFound]

/-- Tables differ in the same way if at each key the tables of each pair are equal, or the
first tables of both pairs and the second ones. -/
theorem mergeDiff_ofTexts_congr {known wanted other further : Table String String}
    (same : ∀ key, (known.find? key = wanted.find? key ∧ other.find? key = further.find? key) ∨
      (known.find? key = other.find? key ∧ wanted.find? key = further.find? key)) :
    (Json.ofTexts known).mergeDiff (.ofTexts wanted) =
      (Json.ofTexts other).mergeDiff (.ofTexts further) := by
  have found (table : Table String String) (key : String) :
      Entries.find? key (table.toList.map fun entry => (entry.1, Json.str entry.2)) =
        (table.find? key).map .str :=
    Entries.find?_map Json.str table.toList key
  have unchanged (text : Option String) : changeOf (text.map .str) (text.map .str) = none := by
    cases text with
    | none => rfl
    | some text => simp [changeOf, mergeDiff, Json.same]
  apply mergeDiff_obj_congr (known.sorted.map Json.str) (wanted.sorted.map Json.str)
    (other.sorted.map Json.str) (further.sorted.map Json.str)
  intro key
  rw [found, found, found, found]
  rcases same key with ⟨here, there⟩ | ⟨sameKnown, sameWanted⟩
  · rw [here, there, unchanged, unchanged]
  · rw [sameKnown, sameWanted]

/-- What a patch may change of an App differs as the annotations do, all else equal. -/
theorem mergeDiff_patchableView_congr {known wanted other further : Labels}
    (same : (Json.ofTexts known).mergeDiff (.ofTexts wanted) =
      (Json.ofTexts other).mergeDiff (.ofTexts further))
    (labels wantedLabels : Labels) (spec wantedSpec : AppSpec) :
    (patchableView labels known spec).mergeDiff (patchableView wantedLabels wanted wantedSpec) =
      (patchableView labels other spec).mergeDiff
        (patchableView wantedLabels further wantedSpec) := by
  have sameMetadata : (metadataView labels known).mergeDiff (metadataView wantedLabels wanted) =
      (metadataView labels other).mergeDiff (metadataView wantedLabels further) := by
    apply mergeDiff_ofFields_congr (by simp) (by simp) (by simp) (by simp)
    intro name
    by_cases isLabels : name = "labels"
    · simp [Entries.find?, isLabels]
    · by_cases isAnnotations : name = "annotations"
      · simpa [Entries.find?, isAnnotations, changeOf] using same
      · simp [Entries.find?, isLabels, isAnnotations]
  apply mergeDiff_ofFields_congr (by simp) (by simp) (by simp) (by simp)
  intro name
  by_cases isMetadata : name = "metadata"
  · simpa [Entries.find?, isMetadata, changeOf, metadataView] using sameMetadata
  · by_cases isSpec : name = "spec"
    · simp [Entries.find?, isSpec]
    · simp [Entries.find?, isMetadata, isSpec]

/-! Apps that the agent has written onto. -/

/-- An App that has the labels and the specification that were seen, and all annotations but
those that the agent writes. -/
structure WrittenBack (seen app : App) : Prop where
  labels : app.labels = seen.labels
  spec : app.spec = seen.spec
  annotations : ∀ key, key ∉ Annotation.preserved →
    app.annotations.find? key = seen.annotations.find? key

/-- Does nobody want the annotations that the agent writes? -/
def LeavesToAgent (desired : App) : Prop :=
  ∀ key ∈ Annotation.preserved, desired.annotations.find? key = none

theorem App.IsMadeFor.leavesToAgent {app : App} {id space : String}
    (made : app.IsMadeFor id space) : LeavesToAgent app := by
  obtain ⟨name, entry, agentVersion, forceUpgrade, same⟩ := made
  have others : ∀ key ∈ Annotation.preserved, key ≠ Annotation.forceUpgrade := by decide
  intro key inside
  rw [App.annotations, same, appMetadata, Metadata.annotationTable, Option.getD_some,
    Table.ofList, List.foldl_cons, List.foldl_nil, Table.find?_insert, if_neg (others key inside)]
  rfl

/-- What is left of an App after a patch, if there is one. -/
def App.updated (app : App) (change : Option Json) : Outcome App :=
  change.elim (.ok app) (Memory.patched app)

section

variable {seen app desired : App}

/-- The annotations that the agent writes stay as they are. -/
theorem find?_mergeAnnotations_of_preserved (leaves : LeavesToAgent desired) (current : Labels)
    {key : String} (inside : key ∈ Annotation.preserved) :
    (mergeAnnotations current desired.annotations).find? key = current.find? key := by
  rw [find?_mergeAnnotations, if_pos ⟨inside, leaves key inside⟩]

/-- The patch for the App that was seen is the one for the App that is there. -/
theorem updatePatch_of_writtenBack (back : WrittenBack seen app)
    (leaves : LeavesToAgent desired) : updatePatch seen desired = updatePatch app desired := by
  let wanted (current : App) := mergeAnnotations current.annotations desired.annotations
  have same (key : String) :
      (seen.annotations.find? key = (wanted seen).find? key ∧
          app.annotations.find? key = (wanted app).find? key) ∨
        (seen.annotations.find? key = app.annotations.find? key ∧
          (wanted seen).find? key = (wanted app).find? key) := by
    by_cases inside : key ∈ Annotation.preserved
    · left
      constructor
      · exact (find?_mergeAnnotations_of_preserved leaves _ inside).symm
      · exact (find?_mergeAnnotations_of_preserved leaves _ inside).symm
    · right
      constructor
      · exact (back.annotations key inside).symm
      · simp [wanted, find?_mergeAnnotations, inside]
  have inLine : seen.annotations = wanted seen ↔ app.annotations = wanted app := by
    have each (key : String) : seen.annotations.find? key = (wanted seen).find? key ↔
        app.annotations.find? key = (wanted app).find? key := by
      rcases same key with ⟨here, there⟩ | ⟨sameKnown, sameWanted⟩
      · exact iff_of_true here there
      · rw [sameKnown, sameWanted]
    constructor
    · intro equal
      exact Table.ext fun key => (each key).mp (congrArg (·.find? key) equal)
    · intro equal
      exact Table.ext fun key => (each key).mpr (congrArg (·.find? key) equal)
  have differ := mergeDiff_patchableView_congr (mergeDiff_ofTexts_congr same) app.labels
    desired.labels app.spec desired.spec
  rw [updatePatch, updatePatch, ← back.labels, ← back.spec, differ]
  exact if_congr (and_congr_right' (and_congr_left' inLine)) rfl rfl

/-- Whether there is something to patch or not, an App ends up as wanted. -/
theorem exists_updated (app desired : App) :
    ∃ result, app.updated (updatePatch app desired) = .ok result ∧
      result.labels = desired.labels ∧
      result.annotations = mergeAnnotations app.annotations desired.annotations ∧
      result.spec = desired.spec := by
  cases patches : updatePatch app desired with
  | none => exact ⟨app, rfl, updatePatch_eq_none_iff.mp patches⟩
  | some patch =>
      obtain ⟨result, applied, revised⟩ := exists_isRevised patches
      exact ⟨result, applied, revised.labels, revised.annotations, revised.spec⟩

/-- Bringing an App in line that was listed applies the patch for what was seen to what is
there. -/
theorem run_convergeApp_of_seen {result : App} {space : String}
    {current : Table (String × String) App} {store : Memory}
    (listed : current.find? (desired.namespaceOr space, desired.name) = some seen)
    (found : store.app? (desired.namespaceOr space) desired.name = some app)
    (updates : app.updated (updatePatch seen desired) = .ok result) (counts : Convergence) :
    ∃ counted after, (convergeApp space current desired counts).run Memory.handle store =
        (.ok counted, after) ∧
      after.app? (desired.namespaceOr space) desired.name = some result := by
  rw [convergeApp]
  simp only [listed]
  cases patches : updatePatch seen desired with
  | none =>
      rw [patches] at updates
      cases updates
      exact ⟨_, store, rfl, found⟩
  | some patch =>
      rw [patches] at updates
      obtain ⟨entry, patched⟩ := Memory.handle_patchApp_of_patched found updates
      have runs : (Store.patchApp (desired.namespaceOr space) desired.name patch).run
          Memory.handle store = (.ok (), _) :=
        Dialogue.run_ask_of_answer (I := Store) patched _
      refine ⟨_, _, Dialogue.run_bind_of_ok runs _, ?_⟩
      rw [Memory.app?_record_insert, if_pos rfl]

/-- What the agent writes between listing and patch is not lost. Let an App have the labels and
the specification that were seen and all annotations but those that the agent writes, and let
the wanted App leave these to the agent. The patch for what was seen is then the patch for what
is there. With it, or as it is if there is none, the App keeps what the agent has written; its
labels and its specification become the wanted ones, and its annotations those that are wanted
of what is there. So it is left in the store, whenever the agent has written. -/
theorem writeBack_survives (back : WrittenBack seen app) (leaves : LeavesToAgent desired) :
    updatePatch seen desired = updatePatch app desired ∧
      ∃ result, app.updated (updatePatch seen desired) = .ok result ∧
        (∀ key ∈ Annotation.preserved,
          result.annotations.find? key = app.annotations.find? key) ∧
        result.labels = desired.labels ∧ result.spec = desired.spec ∧
        result.annotations = mergeAnnotations app.annotations desired.annotations ∧
        ∀ space (current : Table (String × String) App) (store : Memory) counts,
          current.find? (desired.namespaceOr space, desired.name) = some seen →
          store.app? (desired.namespaceOr space) desired.name = some app →
          ∃ counted after, (convergeApp space current desired counts).run Memory.handle store =
              (.ok counted, after) ∧
            after.app? (desired.namespaceOr space) desired.name = some result := by
  have samePatch := updatePatch_of_writtenBack back leaves
  obtain ⟨result, updates, labels, annotations, spec⟩ := exists_updated app desired
  rw [← samePatch] at updates
  refine ⟨samePatch, result, updates, ?_, labels, spec, annotations, ?_⟩
  · intro key inside
    rw [annotations, find?_mergeAnnotations_of_preserved leaves _ inside]
  · intro space current store counts listed found
    exact run_convergeApp_of_seen listed found updates counts

end

section Swapped

/-- An App of this operator with a version of its chart and with annotations. -/
def annotated (version : String) (annotations : List (String × String)) : App where
  metadata := {
    appMetadata "demo0" "org-acme" "demo0-hello" "hello" "1.0.0" false with
      annotations := some (.ofList annotations) }
  spec := { name := "hello", version := version }

theorem find?_annotations_annotated {annotations : List (String × String)}
    (distinct : (annotations.map (·.1)).Nodup) (version key : String) :
    (annotated version annotations).annotations.find? key = Entries.find? key annotations :=
  Table.find?_ofList distinct key

/-- Annotations say nothing about the rest of what is compared. -/
theorem labels_annotated (version : String) (one other : List (String × String)) :
    (annotated version one).labels = (annotated version other).labels ∧
      (annotated version one).spec = (annotated version other).spec :=
  ⟨rfl, rfl⟩

def seenHello : App := annotated "1.0.0"
  [("app-operator.giantswarm.io/latest-configmap-version", "1"), ("stray", "note")]

def writtenHello : App := annotated "1.0.0"
  [("app-operator.giantswarm.io/latest-secret-version", "2"), ("stray", "note")]

def wantedHello : App := annotated "2.0.0" [( Annotation.forceUpgrade, "false")]

/-- Between listing and patch the agent removes one of its annotations and adds the other one. A
stray annotation goes, and what the agent has written is there. -/
theorem writeBack_survives_swapped :
    WrittenBack seenHello writtenHello ∧ LeavesToAgent wantedHello ∧
      updatePatch seenHello wantedHello = updatePatch writtenHello wantedHello ∧
      (updatePatch seenHello wantedHello).isSome = true ∧
      ∃ result, writtenHello.updated (updatePatch seenHello wantedHello) = .ok result ∧
        result.spec = wantedHello.spec ∧
        result.annotations = .ofList [( Annotation.forceUpgrade, "false"),
          ("app-operator.giantswarm.io/latest-secret-version", "2")] := by
  have back : WrittenBack seenHello writtenHello := by
    obtain ⟨labels, spec⟩ := labels_annotated "1.0.0" _ _
    refine ⟨labels, spec, fun key absent => ?_⟩
    rw [seenHello, writtenHello, find?_annotations_annotated (by decide),
      find?_annotations_annotated (by decide)]
    simp only [ Annotation.preserved, List.mem_cons, List.not_mem_nil, or_false, not_or] at absent
    simp [Entries.find?, absent]
  have leaves : LeavesToAgent wantedHello := by
    intro key inside
    rw [wantedHello, find?_annotations_annotated (by decide)]
    revert key
    decide
  obtain ⟨samePatch, result, updates, _, _, spec, annotations, _⟩ :=
    writeBack_survives back leaves
  refine ⟨back, leaves, samePatch, by decide +kernel, result, updates, spec, ?_⟩
  rw [annotations]
  decide +kernel

end Swapped

end PlatformApps
