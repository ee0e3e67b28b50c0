/-
# Metadata as documents

Metadata can always be read back from their written form, also after a patch of labels and
annotations. Everything is as it was, but for what the written form does not hold: fractions
of a second, and the difference between a manager's record that is `null` and none at all.
-/

import PlatformApps.Proofs.Json.Canonical
import PlatformApps.Proofs.Timestamp
import PlatformApps.Resource.Metadata

namespace PlatformApps

open Written

theorem Timestamp.map_wholeSecond {stated : Option Timestamp}
    (whole : ∀ time ∈ stated, time.micro = 0) : stated.map Timestamp.wholeSecond = stated := by
  cases stated with
  | none => rfl
  | some time => rw [Option.map_some, wholeSecond_of_micro (whole time rfl)]

theorem Timestamp.wholeSecond_eq_self_iff {time : Timestamp} :
    time.wholeSecond = time ↔ time.micro = 0 :=
  ⟨fun same => (congrArg Timestamp.micro same).symm, wholeSecond_of_micro⟩

theorem Timestamp.map_wholeSecond_eq_self_iff {stated : Option Timestamp} :
    stated.map Timestamp.wholeSecond = stated ↔ ∀ time ∈ stated, time.micro = 0 := by
  cases stated <;> simp [wholeSecond_eq_self_iff]

theorem Timestamp.read?_render (time : Timestamp) :
    Timestamp.read? (.ofJson (.str time.render)) = some time.wholeSecond := by
  rw [Timestamp.read?, text?_str, Option.bind_some, parse?_render]

namespace OwnerReference

theorem read?_toJson (owner : OwnerReference) : read? (.ofJson owner.toJson) = some owner := by
  obtain ⟨fields, same, sorted, found⟩ :=
    Json.eq_obj_of_ofPresent (rfl : owner.toJson = _) (by simp)
  have distinct := sorted.nodup_keys
  have text {name : String} {value : String} (there : Entries.find? name fields =
      (some value).map .str) : optional? (ofFields fields) name text? = some (some value) :=
    optional?_of_written text?_str (fun _ => rfl) distinct there
  have flag {name : String} {value : Option Bool} (there : Entries.find? name fields =
      value.map .bool) : optional? (ofFields fields) name bool? = some value :=
    optional?_of_written bool?_bool (fun _ => rfl) distinct there
  rw [same, ofJson, read?]
  simp only [fields?, Option.bind_eq_bind, Option.bind_some, text (found "apiVersion"),
    text (found "kind"), text (found "name"), text (found "uid"),
    flag (found "blockOwnerDeletion"), flag (found "controller"), Option.map_some,
    Option.getD_some]
  rfl

end OwnerReference

namespace FieldManager

/-- The record of a manager as it is read from its written form. -/
def asRead (manager : FieldManager) : FieldManager :=
  { manager with
    fields := manager.fields.bind fun fields =>
      if fields.isNull then none else some fields.canonical
    time := manager.time.map Timestamp.wholeSecond }

theorem read?_toJson (manager : FieldManager) :
    read? (.ofJson manager.toJson) = some manager.asRead := by
  obtain ⟨fields, same, sorted, found⟩ :=
    Json.eq_obj_of_ofPresent (rfl : manager.toJson = _) (by simp)
  have distinct := sorted.nodup_keys
  have text {name : String} {value : Option String} (there : Entries.find? name fields =
      value.map .str) : optional? (ofFields fields) name text? = some value :=
    optional?_of_written text?_str (fun _ => rfl) distinct there
  have record : optional? (ofFields fields) "fieldsV1" toJson? = some manager.asRead.fields := by
    rw [optional?_ofFields distinct, found]
    change fieldAs? toJson? manager.fields = _
    cases stated : manager.fields with
    | none => rw [asRead, stated]; rfl
    | some document =>
        rw [asRead, stated, fieldAs?, Option.elim_some, nullable?, isNull_ofJson,
          toJson?_ofJson, Option.bind_some]
        cases document.isNull <;> rfl
  have time : optional? (ofFields fields) "time" Timestamp.read? = some manager.asRead.time := by
    rw [optional?_ofFields distinct, found]
    exact fieldAs?_map_of_reads Timestamp.read?_render (fun _ => rfl) manager.time
  rw [same, ofJson, read?]
  simp only [fields?, Option.bind_eq_bind, Option.bind_some, text (found "apiVersion"),
    text (found "fieldsType"), record, text (found "manager"), text (found "operation"),
    text (found "subresource"), time]
  rfl

/-- Is the record of a manager, if any, a document without repeated fields and not `null`? -/
def IsDocumented (manager : FieldManager) : Prop :=
  ∀ fields, manager.fields = some fields → fields.isNull = false ∧ fields.canonical = fields

theorem fields_asRead {manager : FieldManager} (documented : manager.IsDocumented) :
    manager.asRead.fields = manager.fields := by
  rw [asRead]
  cases stated : manager.fields with
  | none => rfl
  | some fields =>
      obtain ⟨notNull, canonical⟩ := documented fields stated
      simp [notNull, canonical]

theorem toJson_asRead {manager : FieldManager} (documented : manager.IsDocumented) :
    manager.asRead.toJson = manager.toJson := by
  have time : manager.asRead.time.map (fun time => Json.str time.render) =
      manager.time.map fun time => .str time.render := by
    simp [asRead, Function.comp_def]
  rw [toJson, fields_asRead documented, time]
  rfl

/-- Does the written form hold all of it? -/
structure IsWritten (manager : FieldManager) : Prop where
  documented : manager.IsDocumented
  time : ∀ time ∈ manager.time, time.micro = 0

theorem asRead_of_isWritten {manager : FieldManager} (written : manager.IsWritten) :
    manager.asRead = manager := by
  have time : manager.time.map Timestamp.wholeSecond = manager.time :=
    Timestamp.map_wholeSecond written.time
  calc manager.asRead
      = { manager with fields := manager.asRead.fields, time := manager.asRead.time } := rfl
    _ = manager := by rw [fields_asRead written.documented, asRead, time]

theorem asRead_eq_self_iff {manager : FieldManager} :
    manager.asRead = manager ↔ manager.IsWritten := by
  refine ⟨fun same => ⟨fun fields stated => ?_, ?_⟩, asRead_of_isWritten⟩
  · have kept := congrArg FieldManager.fields same
    simp only [asRead, stated, Option.bind_some] at kept
    split at kept
    · cases kept
    · rename_i notNull
      exact ⟨eq_false_of_ne_true notNull, Option.some.inj kept⟩
  · exact Timestamp.map_wholeSecond_eq_self_iff.mp (congrArg FieldManager.time same)

/-- What is read is documented. -/
theorem documented_of_read? {written : Written} {manager : FieldManager}
    (read : read? written = some manager) : manager.IsDocumented := by
  intro record stated
  simp only [read?, Option.bind_eq_bind, Option.bind_eq_some_iff, Option.pure_def,
    Option.some_inj] at read
  obtain ⟨fields, _, _, _, _, _, found, given, _, _, _, _, _, _, _, _, rfl⟩ := read
  cases stated
  obtain ⟨value, notNull, reads⟩ := reads_of_optional? given
  exact ⟨(isNull_of_toJson? reads).trans notNull, (canonical_of_toJson? reads).eq⟩

end FieldManager

namespace Metadata

/-- Metadata as they are read from their written form. -/
def asRead (metadata : Metadata) : Metadata :=
  { metadata with
    deletionTimestamp := metadata.deletionTimestamp.map Timestamp.wholeSecond
    creationTimestamp := metadata.creationTimestamp.map Timestamp.wholeSecond
    managedFields := metadata.managedFields.map (List.map FieldManager.asRead) }

/-- Fields of an object that state metadata. -/
structure StatedBy (metadata : Metadata) (fields : List (String × Json)) : Prop where
  name : fieldAs? text? (Entries.find? "name" fields) = some metadata.name
  generateName : fieldAs? text? (Entries.find? "generateName" fields) = some metadata.generateName
  space : fieldAs? text? (Entries.find? "namespace" fields) = some metadata.namespace_
  labels : fieldAs? textTable? (Entries.find? "labels" fields) = some metadata.labels
  annotations :
    fieldAs? textTable? (Entries.find? "annotations" fields) = some metadata.annotations
  finalizers : fieldAs? texts? (Entries.find? "finalizers" fields) = some metadata.finalizers
  deletion : fieldAs? Timestamp.read? (Entries.find? "deletionTimestamp" fields) =
    some metadata.deletionTimestamp
  version :
    fieldAs? text? (Entries.find? "resourceVersion" fields) = some metadata.resourceVersion
  uid : fieldAs? text? (Entries.find? "uid" fields) = some metadata.uid
  generation : fieldAs? int64? (Entries.find? "generation" fields) = some metadata.generation
  creation : fieldAs? Timestamp.read? (Entries.find? "creationTimestamp" fields) =
    some metadata.creationTimestamp
  grace : fieldAs? int64? (Entries.find? "deletionGracePeriodSeconds" fields) =
    some metadata.deletionGracePeriodSeconds
  selfLink : fieldAs? text? (Entries.find? "selfLink" fields) = some metadata.selfLink
  owners : fieldAs? (list? OwnerReference.read?) (Entries.find? "ownerReferences" fields) =
    some metadata.ownerReferences
  managers : fieldAs? (list? FieldManager.read?) (Entries.find? "managedFields" fields) =
    some metadata.managedFields

variable {fields others : List (String × Json)} {metadata : Metadata}

theorem read?_eq_some_iff (sorted : Entries.Sorted fields) :
    read? (ofJson (.obj fields)) = some metadata ↔ metadata.StatedBy fields := by
  rw [read?, ofJson, Written.fields?, Option.bind_eq_bind, Option.bind_some]
  simp only [optional?_ofFields sorted.nodup_keys]
  constructor
  · intro read
    obtain ⟨_, name, read⟩ := Option.bind_eq_some_iff.mp read
    obtain ⟨_, generateName, read⟩ := Option.bind_eq_some_iff.mp read
    obtain ⟨_, space, read⟩ := Option.bind_eq_some_iff.mp read
    obtain ⟨_, labels, read⟩ := Option.bind_eq_some_iff.mp read
    obtain ⟨_, annotations, read⟩ := Option.bind_eq_some_iff.mp read
    obtain ⟨_, finalizers, read⟩ := Option.bind_eq_some_iff.mp read
    obtain ⟨_, deletion, read⟩ := Option.bind_eq_some_iff.mp read
    obtain ⟨_, version, read⟩ := Option.bind_eq_some_iff.mp read
    obtain ⟨_, uid, read⟩ := Option.bind_eq_some_iff.mp read
    obtain ⟨_, generation, read⟩ := Option.bind_eq_some_iff.mp read
    obtain ⟨_, creation, read⟩ := Option.bind_eq_some_iff.mp read
    obtain ⟨_, grace, read⟩ := Option.bind_eq_some_iff.mp read
    obtain ⟨_, selfLink, read⟩ := Option.bind_eq_some_iff.mp read
    obtain ⟨_, owners, read⟩ := Option.bind_eq_some_iff.mp read
    obtain ⟨_, managers, read⟩ := Option.bind_eq_some_iff.mp read
    cases read
    exact ⟨name, generateName, space, labels, annotations, finalizers, deletion, version, uid,
      generation, creation, grace, selfLink, owners, managers⟩
  · intro stated
    rw [stated.name, stated.generateName, stated.space, stated.labels, stated.annotations,
      stated.finalizers, stated.deletion, stated.version, stated.uid, stated.generation,
      stated.creation, stated.grace, stated.selfLink, stated.owners, stated.managers]
    rfl

/-- Fields that agree but for labels, annotations, finalizers and version state the same but for
these. -/
theorem StatedBy.of_agree (stated : metadata.StatedBy fields)
    (kept : ∀ name ∉ ["labels", "annotations", "finalizers", "resourceVersion"],
      Entries.find? name others = Entries.find? name fields)
    {labels annotations : Option Labels} {finalizers : Option (List String)}
    {version : Option String}
    (labelsStated : fieldAs? textTable? (Entries.find? "labels" others) = some labels)
    (annotationsStated :
      fieldAs? textTable? (Entries.find? "annotations" others) = some annotations)
    (finalizersStated : fieldAs? texts? (Entries.find? "finalizers" others) = some finalizers)
    (versionStated : fieldAs? text? (Entries.find? "resourceVersion" others) = some version) :
    StatedBy { metadata with
      labels := labels
      annotations := annotations
      finalizers := finalizers
      resourceVersion := version } others where
  name := by rw [kept _ (by decide)]; exact stated.name
  generateName := by rw [kept _ (by decide)]; exact stated.generateName
  space := by rw [kept _ (by decide)]; exact stated.space
  labels := labelsStated
  annotations := annotationsStated
  finalizers := finalizersStated
  deletion := by rw [kept _ (by decide)]; exact stated.deletion
  version := versionStated
  uid := by rw [kept _ (by decide)]; exact stated.uid
  generation := by rw [kept _ (by decide)]; exact stated.generation
  creation := by rw [kept _ (by decide)]; exact stated.creation
  grace := by rw [kept _ (by decide)]; exact stated.grace
  selfLink := by rw [kept _ (by decide)]; exact stated.selfLink
  owners := by rw [kept _ (by decide)]; exact stated.owners
  managers := by rw [kept _ (by decide)]; exact stated.managers

/-- The written form states the metadata as they are read from it. -/
theorem exists_statedBy (metadata : Metadata) :
    ∃ fields, metadata.toJson = .obj fields ∧ Entries.Sorted fields ∧
      metadata.asRead.StatedBy fields ∧
      Entries.find? "labels" fields = metadata.labels.map .ofTexts ∧
      Entries.find? "annotations" fields = metadata.annotations.map .ofTexts := by
  obtain ⟨fields, same, sorted, found⟩ :=
    Json.eq_obj_of_ofPresent (rfl : metadata.toJson = _) (by simp)
  have text {name : String} {value : Option String}
      (there : Entries.find? name fields = value.map .str) :
      fieldAs? text? (Entries.find? name fields) = some value := by
    rw [there, fieldAs?_map text?_str (fun _ => rfl)]
  have table {name : String} {value : Option Labels}
      (there : Entries.find? name fields = value.map .ofTexts) :
      fieldAs? textTable? (Entries.find? name fields) = some value := by
    rw [there, fieldAs?_map textTable?_ofTexts (fun _ => rfl)]
  have time {name : String} {value : Option Timestamp}
      (there : Entries.find? name fields = value.map fun time => .str time.render) :
      fieldAs? Timestamp.read? (Entries.find? name fields) =
        some (value.map Timestamp.wholeSecond) := by
    rw [there, fieldAs?_map_of_reads Timestamp.read?_render (fun _ => rfl)]
  have count {name : String} {value : Option Int64}
      (there : Entries.find? name fields = value.map fun count => .int count.toInt) :
      fieldAs? int64? (Entries.find? name fields) = some value := by
    rw [there, fieldAs?_map int64?_int (fun _ => rfl)]
  refine ⟨fields, same, sorted, ?_, found "labels", found "annotations"⟩
  constructor
  · exact text (found "name")
  · exact text (found "generateName")
  · exact text (found "namespace")
  · exact table (found "labels")
  · exact table (found "annotations")
  · rw [found]
    exact fieldAs?_map texts?_ofStrings (fun _ => rfl) metadata.finalizers
  · exact time (found "deletionTimestamp")
  · exact text (found "resourceVersion")
  · exact text (found "uid")
  · exact count (found "generation")
  · exact time (found "creationTimestamp")
  · exact count (found "deletionGracePeriodSeconds")
  · exact text (found "selfLink")
  · rw [found]
    exact fieldAs?_map (list?_of_written OwnerReference.read?_toJson) (fun _ => rfl)
      metadata.ownerReferences
  · rw [found]
    exact fieldAs?_map_of_reads (list?_arr FieldManager.read?_toJson) (fun _ => rfl)
      metadata.managedFields

theorem read?_toJson (metadata : Metadata) :
    read? (.ofJson metadata.toJson) = some metadata.asRead := by
  obtain ⟨fields, same, sorted, stated, _⟩ := metadata.exists_statedBy
  rw [same]
  exact (read?_eq_some_iff sorted).mpr stated

/-- Does a patch concern nothing but labels and annotations? -/
def Relabels (changes : List (String × Json)) : Prop :=
  ∀ name, name ≠ "labels" → name ≠ "annotations" → Entries.find? name changes = none

/-- After a patch of labels and annotations these are read as the patch leaves them, and the
rest as it was. -/
theorem read?_mergePatch (metadata : Metadata) {changes : List (String × Json)}
    (distinct : (changes.map (·.1)).Nodup) (relabels : Relabels changes)
    {labels annotations : Option Labels}
    (readLabels : fieldAs? textTable? (Json.changedField (metadata.labels.map .ofTexts)
      (Entries.find? "labels" changes)) = some labels)
    (readAnnotations : fieldAs? textTable? (Json.changedField
      (metadata.annotations.map .ofTexts) (Entries.find? "annotations" changes)) =
        some annotations) :
    read? (.ofJson (metadata.toJson.mergePatch (.obj changes))) =
      some { metadata.asRead with labels := labels, annotations := annotations } := by
  obtain ⟨fields, same, sorted, stated, labelled, annotated⟩ := metadata.exists_statedBy
  have left (name : String) : Entries.find? name (Json.mergeFields fields changes) =
      Json.changedField (Entries.find? name fields) (Entries.find? name changes) :=
    Json.find?_mergeFields distinct fields name
  have kept {name : String} (notLabels : name ≠ "labels") (notAnnotations : name ≠ "annotations") :
      Entries.find? name (Json.mergeFields fields changes) = Entries.find? name fields := by
    rw [left, relabels name notLabels notAnnotations]
    rfl
  rw [same, Json.mergePatch_obj]
  apply (read?_eq_some_iff (Json.sorted_mergeFields sorted changes)).mpr
  refine stated.of_agree (fun name beside => ?_) ?_ ?_ ?_ ?_
  · simp only [List.mem_cons, not_or] at beside
    exact kept beside.1 beside.2.1
  · rw [left, labelled, readLabels]
  · rw [left, annotated, readAnnotations]
  · rw [kept (by decide) (by decide)]
    exact stated.finalizers
  · rw [kept (by decide) (by decide)]
    exact stated.version

/-- The metadata of an object are read from the field that they are written in. -/
theorem required?_of_written {fields : List (String × Json)} (distinct : (fields.map (·.1)).Nodup)
    {metadata : Metadata} (there : Entries.find? "metadata" fields = some metadata.toJson) :
    required? (ofFields fields) "metadata" read? = some metadata.asRead := by
  rw [required?_ofFields distinct, there]
  exact metadata.read?_toJson

/-- What metadata are read as has the same written form. -/
theorem toJson_asRead {metadata : Metadata}
    (documented : ∀ manager ∈ metadata.managedFields.getD [], manager.IsDocumented) :
    metadata.asRead.toJson = metadata.toJson := by
  have time (stated : Option Timestamp) :
      (stated.map Timestamp.wholeSecond).map (fun time => Json.str time.render) =
        stated.map fun time => .str time.render := by
    simp [Function.comp_def]
  have managers : (metadata.managedFields.map (List.map FieldManager.asRead)).map
      (fun managers => Json.arr (managers.map FieldManager.toJson)) =
        metadata.managedFields.map fun managers => .arr (managers.map FieldManager.toJson) := by
    cases stated : metadata.managedFields with
    | none => rfl
    | some managers =>
        rw [stated, Option.getD_some] at documented
        simpa using fun manager inside =>
          FieldManager.toJson_asRead (documented manager inside)
  simp only [toJson, asRead, time, managers]

/-- Does the written form hold all of the metadata? Times are at whole seconds then, and who
manages a field is documented. -/
structure IsWritten (metadata : Metadata) : Prop where
  created : ∀ time ∈ metadata.creationTimestamp, time.micro = 0
  deleted : ∀ time ∈ metadata.deletionTimestamp, time.micro = 0
  managers : ∀ manager ∈ metadata.managedFields.getD [], manager.IsWritten

theorem asRead_of_isWritten {metadata : Metadata} (written : metadata.IsWritten) :
    metadata.asRead = metadata := by
  have managers : metadata.managedFields.map (List.map FieldManager.asRead) =
      metadata.managedFields := by
    have each := written.managers
    cases stated : metadata.managedFields with
    | none => rfl
    | some managers =>
        rw [stated, Option.getD_some] at each
        rw [Option.map_some, List.map_congr_left fun manager inside =>
          FieldManager.asRead_of_isWritten (each manager inside), List.map_id']
  rw [asRead, managers, Timestamp.map_wholeSecond written.created,
    Timestamp.map_wholeSecond written.deleted]

/-- Metadata are read as they were just where the written form holds all of them. -/
theorem asRead_eq_self_iff {metadata : Metadata} :
    metadata.asRead = metadata ↔ metadata.IsWritten := by
  refine ⟨fun same => ⟨?_, ?_, fun manager inside => ?_⟩, asRead_of_isWritten⟩
  · exact Timestamp.map_wholeSecond_eq_self_iff.mp (congrArg Metadata.creationTimestamp same)
  · exact Timestamp.map_wholeSecond_eq_self_iff.mp (congrArg Metadata.deletionTimestamp same)
  · have kept := congrArg Metadata.managedFields same
    cases stated : metadata.managedFields with
    | none => simp [stated] at inside
    | some managers =>
        rw [stated, Option.getD_some] at inside
        simp only [asRead, stated, Option.map_some, Option.some_inj] at kept
        have each := List.map_inj_left.mp (kept.trans (List.map_id managers).symm)
        exact FieldManager.asRead_eq_self_iff.mp (each manager inside)

/-- The managers of metadata that are read are documented. -/
theorem documented_of_read? {written : Written} {metadata : Metadata}
    (read : read? written = some metadata) :
    ∀ manager ∈ metadata.managedFields.getD [], manager.IsDocumented := by
  intro manager inside
  -- the managers are the last of the fields
  obtain ⟨fields, _, read⟩ := Option.bind_eq_some_iff.mp read
  iterate 14 obtain ⟨_, _, read⟩ := Option.bind_eq_some_iff.mp read
  obtain ⟨managers, given, same⟩ := Option.bind_eq_some_iff.mp read
  cases same
  cases managers with
  | none => cases inside
  | some managers =>
      obtain ⟨value, _, reads⟩ := reads_of_optional? given
      obtain ⟨item, read⟩ := reads_of_list? reads manager inside
      exact FieldManager.documented_of_read? read

end Metadata

/-- Metadata as they are read make up the same document. -/
theorem ObjectType.document_asRead (type : ObjectType) {metadata : Metadata}
    (documented : ∀ manager ∈ metadata.managedFields.getD [], manager.IsDocumented)
    (fields : List (String × Option Json)) :
    type.document metadata.asRead fields = type.document metadata fields := by
  rw [document, Metadata.toJson_asRead documented, document]

end PlatformApps
