/-
# Leases as documents

The API server keeps a lease as a document, and copies of the operator read it and change it
by merge patches. What is read after a change are the terms that the change states, and for
the rest those from before.
-/

import PlatformApps.Leadership
import PlatformApps.Proofs.Json.Canonical
import PlatformApps.Proofs.Timestamp

namespace PlatformApps

open Written Json

theorem Timestamp.read?_renderMicro (time : Timestamp) :
    Timestamp.read? (.ofJson (.str time.renderMicro)) = some time := by
  rw [Timestamp.read?, text?_str, Option.bind_some, parse?_renderMicro]

namespace Metadata

theorem canonical_toJson_located (name space : String) :
    (Metadata.toJson { name := some name, namespace_ := some space }).Canonical := by
  apply Canonical.ofPresent
  simp [Canonical]

theorem toJson_located (name space : String) :
    toJson { name := some name, namespace_ := some space } =
      .obj [("name", .str name), ("namespace", .str space)] := by
  simp only [toJson, Json.ofPresent, Json.ofFields, Option.map_some, Option.map_none,
    List.filterMap_cons, List.filterMap_nil, List.foldl_cons, List.foldl_nil, Entries.insert]
  rw [if_neg (by decide), if_neg (by decide)]

/-- Metadata of a name and a namespace are read as they were written. -/
theorem read?_toJson_located (name space : String) :
    read? (ofJson (toJson { name := some name, namespace_ := some space })) =
      some { name := some name, namespace_ := some space } := by
  rw [toJson_located]
  rfl

end Metadata

namespace LeaseTerms

/-- Terms after a change, which states some of them. -/
def amendedBy (terms change : LeaseTerms) : LeaseTerms where
  holder := change.holder.or terms.holder
  acquired := change.acquired.or terms.acquired
  renewed := change.renewed.or terms.renewed
  duration := change.duration.or terms.duration
  transitions := change.transitions.or terms.transitions

theorem canonical_toJson (terms : LeaseTerms) : terms.toJson.Canonical := by
  apply Canonical.ofPresent
  simp [Canonical]

/-- Fields of an object that state terms. -/
structure StatedBy (terms : LeaseTerms) (fields : List (String × Json)) : Prop where
  holder : fieldAs? text? (Entries.find? "holderIdentity" fields) = some terms.holder
  acquired : fieldAs? Timestamp.read? (Entries.find? "acquireTime" fields) = some terms.acquired
  renewed : fieldAs? Timestamp.read? (Entries.find? "renewTime" fields) = some terms.renewed
  duration : fieldAs? int32? (Entries.find? "leaseDurationSeconds" fields) = some terms.duration
  transitions :
    fieldAs? int32? (Entries.find? "leaseTransitions" fields) = some terms.transitions

theorem read?_eq_some_iff {fields : List (String × Json)} (sorted : Entries.Sorted fields)
    {terms : LeaseTerms} :
    read? (ofJson (.obj fields)) = some terms ↔ terms.StatedBy fields := by
  have distinct := sorted.nodup_keys
  rw [read?, ofJson, Written.fields?, Option.bind_eq_bind, Option.bind_some]
  simp only [optional?_ofFields distinct]
  constructor
  · intro read
    simp only [Option.bind_eq_bind, Option.bind_eq_some_iff, Option.pure_def,
      Option.some_inj] at read
    obtain ⟨_, holder, _, acquired, _, renewed, _, duration, _, transitions, rfl⟩ := read
    exact ⟨holder, acquired, renewed, duration, transitions⟩
  · intro stated
    rw [stated.holder, stated.acquired, stated.renewed, stated.duration, stated.transitions]
    rfl

/-- Terms are read as they were written. -/
theorem read?_toJson (terms : LeaseTerms) : read? (ofJson terms.toJson) = some terms := by
  obtain ⟨fields, same, sorted, found⟩ := eq_obj_of_ofPresent (rfl : terms.toJson = _) (by simp)
  rw [same, read?_eq_some_iff sorted]
  constructor
  · rw [found]
    exact fieldAs?_map text?_str (fun _ => rfl) _
  · rw [found]
    exact fieldAs?_map Timestamp.read?_renderMicro (fun _ => rfl) _
  · rw [found]
    exact fieldAs?_map Timestamp.read?_renderMicro (fun _ => rfl) _
  · rw [found]
    exact fieldAs?_map int32?_toInt (fun _ => rfl) _
  · rw [found]
    exact fieldAs?_map int32?_toInt (fun _ => rfl) _

/-- A specification, which may be missing or `null`, as the fields that state its terms. -/
theorem StatedBy.of_fieldAs? {stated : Option Json} {terms : Option LeaseTerms}
    (canonical : ∀ value ∈ stated, value.Canonical) (reads : fieldAs? read? stated = some terms) :
    (terms.getD {}).StatedBy ((stated.getD .null).fields?.getD []) := by
  have nothing : ({} : LeaseTerms).StatedBy [] := ⟨rfl, rfl, rfl, rfl, rfl⟩
  cases stated with
  | none =>
      cases reads
      exact nothing
  | some value =>
      cases value with
      | null =>
          cases reads
          exact nothing
      | obj fields =>
          obtain ⟨terms, read, rfl⟩ := Option.map_eq_some_iff.mp reads
          exact (read?_eq_some_iff (canonical _ rfl).1).mp read
      | _ => cases reads

/-- A field that a change states is read as stated, and any other as before. -/
theorem fieldAs?_changedField {α : Type} {read : Written → Option α} {write : α → Json}
    (reads : ∀ value, read (ofJson (write value)) = some value)
    (notNull : ∀ value, (write value).isNull = false)
    (replaces : ∀ value (old : Json), old.mergePatch (write value) = write value)
    {stated : Option Json} {old : Option α} (before : fieldAs? read stated = some old)
    (change : Option α) :
    fieldAs? read (changedField stated (change.map write)) = some (change.or old) := by
  cases change with
  | none => exact before
  | some value =>
      rw [Option.map_some, changedField, notNull, if_neg Bool.false_ne_true, replaces,
        Option.some_or]
      exact fieldAs?_map reads notNull (some value)

theorem StatedBy.mergeFields {terms : LeaseTerms} {fields : List (String × Json)}
    (stated : terms.StatedBy fields) {change : LeaseTerms} {changes : List (String × Json)}
    (made : change.toJson = .obj changes) :
    (terms.amendedBy change).StatedBy (Json.mergeFields fields changes) := by
  obtain ⟨given, same, sorted, found⟩ := eq_obj_of_ofPresent (rfl : change.toJson = _) (by simp)
  cases same.symm.trans made
  have patched := find?_mergeFields sorted.nodup_keys fields
  constructor
  · rw [patched, found]
    exact fieldAs?_changedField text?_str (fun _ => rfl) (fun _ _ => rfl) stated.holder _
  · rw [patched, found]
    exact fieldAs?_changedField Timestamp.read?_renderMicro (fun _ => rfl) (fun _ _ => rfl)
      stated.acquired _
  · rw [patched, found]
    exact fieldAs?_changedField Timestamp.read?_renderMicro (fun _ => rfl) (fun _ _ => rfl)
      stated.renewed _
  · rw [patched, found]
    exact fieldAs?_changedField int32?_toInt (fun _ => rfl) (fun _ _ => rfl) stated.duration _
  · rw [patched, found]
    exact fieldAs?_changedField int32?_toInt (fun _ => rfl) (fun _ _ => rfl) stated.transitions _

/-- What a specification is read as after a change. -/
theorem fieldAs?_amended {stated : Option Json} {terms : Option LeaseTerms}
    (canonical : ∀ value ∈ stated, value.Canonical) (reads : fieldAs? read? stated = some terms)
    (change : LeaseTerms) :
    fieldAs? read? (changedField stated (some change.toJson)) =
      some (some ((terms.getD {}).amendedBy change)) := by
  have before := StatedBy.of_fieldAs? canonical reads
  have known : (stated.getD .null).Canonical := by
    cases stated with
    | none => trivial
    | some value => exact canonical value rfl
  have after := known.mergePatch change.canonical_toJson
  obtain ⟨changes, made, _⟩ := eq_obj_of_ofPresent (rfl : change.toJson = _) (by simp)
  rw [made] at after ⊢
  have read := (read?_eq_some_iff after.1).mpr (before.mergeFields made)
  exact congrArg (Option.map some) read

end LeaseTerms

namespace Lease

theorem statesOnly_congr {fields others : List (String × Json)} (sorted : Entries.Sorted fields)
    (othersSorted : Entries.Sorted others) {name : String}
    (same : Entries.find? name fields = Entries.find? name others) (expected : String) :
    statesOnly (Written.ofFields fields) name expected =
      statesOnly (Written.ofFields others) name expected := by
  rw [statesOnly, statesOnly, valuesOf_ofFields sorted.nodup_keys,
    valuesOf_ofFields othersSorted.nodup_keys, same]

theorem read?_eq_some_iff {fields : List (String × Json)} (sorted : Entries.Sorted fields)
    {lease : Lease} :
    read? (ofJson (.obj fields)) = some lease ↔
      statesOnly (Written.ofFields fields) "apiVersion" type.apiVersion = some () ∧
      statesOnly (Written.ofFields fields) "kind" type.kind = some () ∧
      (fieldAs? Metadata.read? (Entries.find? "metadata" fields)).map (·.getD {}) =
        some lease.metadata ∧
      fieldAs? LeaseTerms.read? (Entries.find? "spec" fields) = some lease.terms := by
  rw [← optional?_ofFields sorted.nodup_keys, ← optional?_ofFields sorted.nodup_keys]
  simp only [read?, builtIn?, ofJson, Written.fields?, metadataOrEmpty?, Option.bind_eq_bind,
    Option.bind_some, Option.bind_eq_some_iff, Option.pure_def, Option.some_inj]
  constructor
  · rintro ⟨_, ⟨_, version, _, kind, rfl⟩, _, metadata, _, terms, rfl⟩
    exact ⟨version, kind, metadata, terms⟩
  · rintro ⟨version, kind, metadata, terms⟩
    exact ⟨_, ⟨(), version, (), kind, rfl⟩, _, metadata, _, terms, rfl⟩

/-- A document in order that is read as a lease of these terms. -/
structure Shows (document : Json) (terms : LeaseTerms) : Prop where
  canonical : document.Canonical
  reads : ∃ lease, read? (ofJson document) = some lease ∧ lease.termsOrEmpty = terms

namespace Shows

variable {document : Json} {terms : LeaseTerms}

theorem unique (shows : Shows document terms) {others : LeaseTerms}
    (also : Shows document others) : terms = others := by
  obtain ⟨lease, read, rfl⟩ := shows.reads
  obtain ⟨same, again, rfl⟩ := also.reads
  rw [Option.some.inj (read.symm.trans again)]

/-- After a merge patch of the specification, the lease has the terms of the patch, and
for the rest those from before. -/
theorem mergePatch (shows : Shows document terms) (change : LeaseTerms) :
    Shows (document.mergePatch (.ofFields [("spec", change.toJson)]))
      (terms.amendedBy change) := by
  obtain ⟨canonical, lease, read, rfl⟩ := shows
  cases document with
  | obj fields =>
      show Shows (.obj (mergeFields fields [("spec", change.toJson)])) _
      have after : (Json.obj (mergeFields fields [("spec", change.toJson)])).Canonical :=
        @Canonical.mergePatch _ (.obj [("spec", change.toJson)]) canonical
          ⟨List.pairwise_singleton _ _, change.canonical_toJson, trivial⟩
      have patched := @find?_mergeFields [("spec", change.toJson)] (by simp) fields
      have kept {name : String} (other : name ≠ "spec") :
          Entries.find? name (mergeFields fields [("spec", change.toJson)]) =
            Entries.find? name fields := by
        rw [patched, Entries.find?, if_neg other]
        rfl
      obtain ⟨version, kind, metadata, spec⟩ := (read?_eq_some_iff canonical.1).mp read
      refine ⟨after, { lease with terms := some (lease.termsOrEmpty.amendedBy change) }, ?_, rfl⟩
      apply (read?_eq_some_iff after.1).mpr
      refine ⟨?_, ?_, ?_, ?_⟩
      · rw [statesOnly_congr after.1 canonical.1 (kept (by decide)), version]
      · rw [statesOnly_congr after.1 canonical.1 (kept (by decide)), kind]
      · rw [kept (by decide), metadata]
      · rw [patched]
        exact LeaseTerms.fieldAs?_amended (fun _ stated => canonical.of_find? stated) spec change
  | _ => cases read

/-- A lease of these terms that has a name and a namespace is read as it was written. -/
theorem ofTerms (name space : String) (terms : LeaseTerms) :
    Shows (Lease.toJson ⟨{ name := some name, namespace_ := some space }, some terms⟩) terms := by
  have metadataCanonical := Metadata.canonical_toJson_located name space
  have metadataRead := Metadata.read?_toJson_located name space
  have canonical : (Lease.toJson
      ⟨{ name := some name, namespace_ := some space }, some terms⟩).Canonical := by
    apply Canonical.ofPresent
    simp [Canonical, metadataCanonical, terms.canonical_toJson]
  obtain ⟨fields, same, sorted, found⟩ := eq_obj_of_ofPresent
    (rfl : Lease.toJson ⟨{ name := some name, namespace_ := some space }, some terms⟩ = _)
    (by simp)
  refine ⟨canonical, ⟨{ name := some name, namespace_ := some space }, some terms⟩, ?_, rfl⟩
  rw [same]
  apply (read?_eq_some_iff sorted).mpr
  refine ⟨?_, ?_, ?_, ?_⟩
  · rw [statesOnly, valuesOf_ofFields sorted.nodup_keys, found]
    rfl
  · rw [statesOnly, valuesOf_ofFields sorted.nodup_keys, found]
    rfl
  · rw [found]
    show Option.map _ (Option.map some (Metadata.read? (ofJson _))) = _
    rw [metadataRead]
    rfl
  · rw [found]
    exact congrArg (Option.map some) terms.read?_toJson

end Shows

end Lease

end PlatformApps
