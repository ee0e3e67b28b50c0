/-
# The patch for an App is exact

An App that is as wanted gets no patch. Any other one gets a patch that names labels,
annotations and specification only. It can always be applied; it makes these three the wanted
ones and leaves all other metadata as they are read from their written form, and no second patch
follows. What the written form does not hold is lost: fractions of a second, and managers' records
that are `null`.
-/

import PlatformApps.Proofs.Convergence
import PlatformApps.Proofs.Json.Difference

namespace PlatformApps

namespace Json

/-! What a document names. -/

/-- An object with fields of these names only. -/
def NamesOnly (document : Json) (names : List String) : Prop :=
  ∃ fields, document = .obj fields ∧ ∀ field ∈ fields, field.1 ∈ names

theorem namesOnly_ofFields {fields : List (String × Json)} {names : List String}
    (within : ∀ field ∈ fields, field.1 ∈ names) : (ofFields fields).NamesOnly names := by
  refine ⟨_, rfl, fun field inside => ?_⟩
  rcases Entries.mem_foldl_insert inside with given | none
  · exact within field given
  · cases none

variable {current desired patch : Json} {names : List String}

/-- The difference of two objects names what one of them does. -/
theorem NamesOnly.mergeDiff (known : current.NamesOnly names) (wanted : desired.NamesOnly names)
    (currentCanonical : current.Canonical) (canonical : desired.Canonical)
    (differs : current.mergeDiff desired = some patch) : patch.NamesOnly names := by
  obtain ⟨before, rfl, inBefore⟩ := known
  obtain ⟨after, rfl, inAfter⟩ := wanted
  rw [mergeDiff_obj, Option.ite_none_left_eq_some] at differs
  refine ⟨_, (Option.some.inj differs.2).symm, fun field inside => ?_⟩
  have change := Entries.find?_of_mem (sorted_changes before canonical.1) inside
  rw [find?_changes currentCanonical.1 canonical.1] at change
  cases found : Entries.find? field.1 before with
  | some value => exact inBefore (field.1, value) (Entries.mem_of_find? found)
  | none =>
      rw [found, changeOf] at change
      exact inAfter _ (Entries.mem_of_find? change)

/-- Does a patch name nothing but the labels, the annotations and the specification? -/
def RevisesPatchable (patch : Json) : Prop :=
  patch.NamesOnly ["metadata", "spec"] ∧
    ∀ metadata, patch.field? "metadata" = some metadata →
      metadata.NamesOnly ["annotations", "labels"]

theorem revisesPatchable_mergeDiff {labels annotations wantedLabels wantedAnnotations : Labels}
    {spec wantedSpec : AppSpec}
    (differs : (patchableView labels annotations spec).mergeDiff
      (patchableView wantedLabels wantedAnnotations wantedSpec) = some patch) :
    patch.RevisesPatchable := by
  have view (labels annotations : Labels) (spec : AppSpec) :
      (patchableView labels annotations spec).NamesOnly ["metadata", "spec"] := by
    apply namesOnly_ofFields
    simp
  have inner (labels annotations : Labels) :
      (metadataView labels annotations).NamesOnly ["annotations", "labels"] := by
    apply namesOnly_ofFields
    simp
  have canonical (labels annotations : Labels) : (metadataView labels annotations).Canonical :=
    (plain_metadataView labels annotations).canonical
  constructor
  · exact (view _ _ _).mergeDiff (view _ _ _) (plain_patchableView _ _ _).canonical
      (plain_patchableView _ _ _).canonical differs
  · intro metadata stated
    obtain ⟨known, knownSame, knownSorted, knownFound⟩ := Json.eq_obj_of_ofFields
      (rfl : patchableView labels annotations spec = _) (by simp)
    obtain ⟨wanted, wantedSame, wantedSorted, wantedFound⟩ := Json.eq_obj_of_ofFields
      (rfl : patchableView wantedLabels wantedAnnotations wantedSpec = _) (by simp)
    rw [knownSame, wantedSame, mergeDiff_obj, Option.ite_none_left_eq_some] at differs
    obtain rfl := Option.some.inj differs.2
    rw [field?, find?_changes knownSorted wantedSorted, knownFound, wantedFound] at stated
    exact (inner _ _).mergeDiff (inner _ _) (canonical _ _) (canonical _ _) stated

end Json

/-- There is no patch just for an App that is as wanted. A patch names only what may be patched.
Wherever the App stands, the store applies it; what then stands there has the wanted labels,
annotations and specification, and needs no patch. Its other metadata are those of before as read
from their written form, which is just as they were where that form holds all of them. -/
theorem updatePatch_exact (current desired : App) :
    (updatePatch current desired = none ↔
      current.labels = desired.labels ∧
        current.annotations = mergeAnnotations current.annotations desired.annotations ∧
        current.spec = desired.spec) ∧
    ∀ patch, updatePatch current desired = some patch →
      patch.RevisesPatchable ∧
      ∃ result, Memory.patched current patch = .ok result ∧
        current.IsRevised desired result ∧
        result.isDeleting = current.isDeleting ∧
        result.metadata = { current.metadata.asRead with
          labels := result.metadata.labels
          annotations := result.metadata.annotations } ∧
        (result.metadata = { current.metadata with
            labels := result.metadata.labels
            annotations := result.metadata.annotations } ↔ current.metadata.IsWritten) ∧
        updatePatch result desired = none ∧
        ∀ (store : Memory) (space name : String), store.app? space name = some current →
          store.handle (.patchApp space name patch) =
            (.ok (), { store with apps := store.apps.insert (space, name) result }.record
              ("patch_app " ++ (space ++ "/" ++ name))) := by
  refine ⟨updatePatch_eq_none_iff, fun patch patches => ⟨?_, ?_⟩⟩
  · rw [updatePatch, Option.ite_none_left_eq_some] at patches
    exact Json.revisesPatchable_mergeDiff patches.2
  · obtain ⟨result, applied, revised⟩ := exists_isRevised patches
    refine ⟨result, applied, revised, revised.isDeleting, revised.metadata,
      revised.metadata_eq_iff, revised.updatePatch_eq_none, fun store space name found => ?_⟩
    simp only [Memory.handle, Memory.patchApp, found, applied]
    rfl

section Blocks

/-- An App with user secrets and a finalizer, about to go. -/
def secretive : App where
  metadata := {
    name := some "hello"
    namespace_ := some "org-acme"
    annotations := some (.ofList [("stray", "note")])
    finalizers := some ["keep"]
    deletionTimestamp := some .epoch
    resourceVersion := some "7" }
  spec := {
    name := "hello"
    userConfig := some { secret := some ⟨"hello-user-secrets", "org-acme"⟩ } }

/-- The same App with an empty block of values in place of the user secrets. -/
def emptyBlock : App where
  metadata := { name := some "hello", labels := some ∅ }
  spec := { name := "hello", config := some {} }

/-- A block that is present but empty is set, one that is absent is removed, and labels that are
empty are no change where there are none. -/
theorem updatePatch_exact_blocks :
    let patch := Json.ofFields [
      ("metadata", .ofFields [("annotations", .ofFields [("stray", .null)])]),
      ("spec", .ofFields [("config", .ofFields []), ("userConfig", .null)])]
    updatePatch secretive emptyBlock = some patch ∧
      ∃ result, Memory.patched secretive patch = .ok result ∧
        result.spec = emptyBlock.spec ∧ result.isDeleting = true ∧
        result.metadata = { secretive.metadata with
          labels := result.metadata.labels
          annotations := result.metadata.annotations } := by
  intro patch
  have patches : updatePatch secretive emptyBlock = some patch := by decide +kernel
  have written : secretive.metadata.IsWritten := by
    constructor <;> simp [secretive, Timestamp.epoch]
  obtain ⟨-, result, applied, revised, deleting, -, others, -⟩ :=
    (updatePatch_exact secretive emptyBlock).2 patch patches
  exact ⟨patches, result, applied, revised.spec, deleting, others.mpr written⟩

end Blocks

/-- A patch of the specification alone takes the fraction of a second from the creation time. -/
theorem patch_cuts_creation_time :
    let wanted := { momentary with spec := { momentary.spec with version := "2.0.0" } }
    ∃ patch result, updatePatch momentary wanted = some patch ∧
      Memory.patched momentary patch = .ok result ∧
      result.metadata.creationTimestamp ≠ momentary.metadata.creationTimestamp := by
  intro wanted
  refine ⟨.ofFields [("spec", .ofFields [("version", .str "2.0.0")])], wanted.asRead, ?_, ?_, ?_⟩
  · decide +kernel
  · decide +kernel
  · decide +kernel

end PlatformApps
