/-
# What merge patches do

A merge patch acts on each field of an object by itself, and so does the comparison that
computes one. From these two facts it follows that a document changed by its difference to
another one is that other one, as long as no object of it holds `null`, which a merge patch
cannot write.
-/

import PlatformApps.Json.MergePatch
import PlatformApps.Proofs.Json.Sameness

namespace PlatformApps

namespace Json

/-! What is meant by documents without `null` in objects. -/

mutual

/-- No object of the document has a field that holds `null`, lists aside. -/
def NullFree : Json → Prop
  | .obj fields => NullFreeFields fields
  | _ => True
  termination_by structural document => document

def NullFreeFields : List (String × Json) → Prop
  | [] => True
  | (_, value) :: rest => (value.isNull = false ∧ NullFree value) ∧ NullFreeFields rest
  termination_by structural fields => fields

end

theorem nullFreeFields_iff {fields : List (String × Json)} :
    NullFreeFields fields ↔ ∀ field ∈ fields, field.2.isNull = false ∧ field.2.NullFree := by
  induction fields with
  | nil => simp [NullFreeFields]
  | cons field rest ih =>
      rw [NullFreeFields, ih, List.forall_mem_cons]

theorem canonicalFields_iff {fields : List (String × Json)} :
    CanonicalFields fields ↔ ∀ field ∈ fields, field.2.Canonical := by
  induction fields with
  | nil => simp [CanonicalFields]
  | cons field rest ih =>
      rw [CanonicalFields, ih, List.forall_mem_cons]

/-! What a patch does to an object, field by field. -/

theorem sorted_mergeFields {fields : List (String × Json)} (sorted : Entries.Sorted fields)
    (changes : List (String × Json)) : Entries.Sorted (mergeFields fields changes) := by
  induction changes generalizing fields with
  | nil => exact sorted
  | cons change rest ih =>
      rw [mergeFields]
      split
      · exact ih sorted.erase
      · exact ih sorted.insert

/-- A field after a change of it. -/
def changedField (field change : Option Json) : Option Json :=
  match change with
  | none => field
  | some change => if change.isNull then none else some ((field.getD .null).mergePatch change)

/-- Where no name is repeated, a patch changes each field by itself. -/
theorem find?_mergeFields {changes : List (String × Json)}
    (distinct : (changes.map (·.1)).Nodup) (fields : List (String × Json)) (name : String) :
    Entries.find? name (mergeFields fields changes) =
      changedField (Entries.find? name fields) (Entries.find? name changes) := by
  induction changes generalizing fields with
  | nil => rfl
  | cons first rest ih =>
      obtain ⟨other, change⟩ := first
      obtain ⟨alone, others⟩ := List.nodup_cons.mp distinct
      have last (known : Option Json) :
          changedField known (Entries.find? other rest) = known := by
        rw [Entries.find?_eq_none_iff.mpr alone]
        rfl
      rw [mergeFields, ih others, Entries.find?]
      by_cases same : name = other
      · subst same
        rw [if_pos rfl, last, changedField]
        split
        · rw [Entries.find?_erase, if_pos rfl]
        · rw [Entries.find?_insert, if_pos rfl]
      · rw [if_neg same]
        split
        · rw [Entries.find?_erase, if_neg same]
        · rw [Entries.find?_insert, if_neg same]

theorem mergePatch_obj (document : Json) (changes : List (String × Json)) :
    document.mergePatch (.obj changes) =
      .obj (mergeFields (document.fields?.getD []) changes) := rfl

theorem Canonical.of_find? {fields : List (String × Json)} (canonical : (Json.obj fields).Canonical)
    {name : String} {value : Json} (found : Entries.find? name fields = some value) :
    value.Canonical :=
  canonicalFields_iff.mp canonical.2 _ (Entries.mem_of_find? found)

/-- A field that is missing stands for `null`. -/
theorem Canonical.getD_find? {fields : List (String × Json)}
    (canonical : (Json.obj fields).Canonical) (name : String) :
    ((Entries.find? name fields).getD .null).Canonical := by
  cases found : Entries.find? name fields with
  | none => trivial
  | some value => exact canonical.of_find? found

/-- What is no object has no fields to a patch. -/
theorem Canonical.fields {document : Json} (canonical : document.Canonical) :
    (Json.obj (document.fields?.getD [])).Canonical := by
  cases document with
  | obj fields => exact canonical
  | _ => exact ⟨List.Pairwise.nil, trivial⟩

/-- A patch whose objects are in order leaves the objects of a document in order. -/
theorem Canonical.mergePatch {document patch : Json} (canonical : document.Canonical)
    (patchCanonical : patch.Canonical) : (document.mergePatch patch).Canonical := by
  induction patch using inductionOn generalizing document with
  | obj changes ih =>
      rw [Canonical, canonicalFields_iff] at patchCanonical
      have known := canonical.fields
      rw [mergePatch_obj]
      refine ⟨sorted_mergeFields known.1 changes, canonicalFields_iff.mpr fun field inside => ?_⟩
      have merged := Entries.find?_of_mem (sorted_mergeFields known.1 changes) inside
      rw [find?_mergeFields patchCanonical.1.nodup_keys] at merged
      cases stated : Entries.find? field.1 changes with
      | none =>
          rw [stated] at merged
          exact known.of_find? merged
      | some change =>
          rw [stated, changedField] at merged
          split at merged
          · cases merged
          · have insideChanges := Entries.mem_of_find? stated
            rw [← Option.some.inj merged]
            exact ih _ insideChanges (known.getD_find? _) (patchCanonical.2 _ insideChanges)
  | _ => exact patchCanonical

/-- What replaces something that is no object is taken as it is. -/
theorem mergePatch_of_nullFree {patch : Json} (canonical : patch.Canonical)
    (nullFree : patch.NullFree) {document : Json} (noObject : document.fields? = none) :
    document.mergePatch patch = patch := by
  induction patch using inductionOn generalizing document with
  | obj changes ih =>
      rw [Canonical, canonicalFields_iff] at canonical
      rw [NullFree, nullFreeFields_iff] at nullFree
      rw [mergePatch_obj, noObject, Option.getD_none]
      congr 1
      refine (sorted_mergeFields List.Pairwise.nil changes).ext canonical.1 fun name => ?_
      rw [find?_mergeFields canonical.1.nodup_keys, Entries.find?]
      cases found : Entries.find? name changes with
      | none => rfl
      | some change =>
          have inside := Entries.mem_of_find? found
          obtain ⟨notNull, nullFree⟩ := nullFree _ inside
          rw [changedField, if_neg (by rw [notNull]; decide), Option.getD_none,
            ih _ inside (canonical.2 _ inside) nullFree rfl]
  | _ => rfl

/-! The difference of two objects, field by field. -/

/-- The changes that turn the known fields of an object into the wanted ones. -/
def changes (known wanted : List (String × Json)) : List (String × Json) :=
  let removals := known.filterMap fun field =>
    if (Entries.find? field.1 wanted).isSome then none else some (field.1, Json.null)
  removals.foldl (fun changes removal => Entries.insert removal.1 removal.2 changes)
    (diffFields known wanted)

theorem mergeDiff_obj (known wanted : List (String × Json)) :
    (Json.obj known).mergeDiff (.obj wanted) =
      if (changes known wanted).isEmpty then none else some (.obj (changes known wanted)) := rfl

/-- How a field has to change: it is taken away, compared or set. -/
def changeOf (known wanted : Option Json) : Option Json :=
  match known, wanted with
  | none, wanted => wanted
  | some _, none => some .null
  | some known, some wanted => known.mergeDiff wanted

theorem mem_diffFields {known wanted : List (String × Json)} {name : String}
    (inside : name ∈ (diffFields known wanted).map (·.1)) : name ∈ wanted.map (·.1) := by
  induction wanted with
  | nil => exact inside
  | cons field rest ih =>
      obtain ⟨other, value⟩ := field
      rw [diffFields] at inside
      rw [List.map_cons, List.mem_cons]
      split at inside
      · split at inside
        · exact (List.mem_cons.mp inside).imp_right ih
        · exact .inr (ih inside)
      · exact (List.mem_cons.mp inside).imp_right ih

theorem sorted_diffFields (known : List (String × Json)) {wanted : List (String × Json)}
    (sorted : Entries.Sorted wanted) : Entries.Sorted (diffFields known wanted) := by
  induction wanted with
  | nil => exact List.Pairwise.nil
  | cons field rest ih =>
      obtain ⟨name, value⟩ := field
      obtain ⟨first, sorted⟩ := List.pairwise_cons.mp sorted
      have below : ∀ other ∈ diffFields known rest, name < other.1 := by
        intro other inside
        obtain ⟨field, inRest, same⟩ :=
          List.mem_map.mp (mem_diffFields (List.mem_map.mpr ⟨other, inside, rfl⟩))
        exact same ▸ first field inRest
      rw [diffFields]
      split
      · split
        · exact List.pairwise_cons.mpr ⟨below, ih sorted⟩
        · exact ih sorted
      · exact List.pairwise_cons.mpr ⟨below, ih sorted⟩

theorem find?_diffFields (known : List (String × Json)) {wanted : List (String × Json)}
    (distinct : (wanted.map (·.1)).Nodup) (name : String) :
    Entries.find? name (diffFields known wanted) =
      (Entries.find? name wanted).bind fun value =>
        changeOf (Entries.find? name known) (some value) := by
  induction wanted with
  | nil => rfl
  | cons field rest ih =>
      obtain ⟨other, value⟩ := field
      obtain ⟨alone, others⟩ := List.nodup_cons.mp distinct
      have absent : Entries.find? other (diffFields known rest) = none :=
        Entries.find?_eq_none_iff.mpr fun inside => alone (mem_diffFields inside)
      rw [diffFields, Entries.find?]
      by_cases same : name = other
      · subst same
        rw [if_pos rfl, Option.bind_some]
        cases found : Entries.find? name known with
        | none => rw [Entries.find?, if_pos rfl, changeOf]
        | some current =>
            dsimp only
            cases differs : current.mergeDiff value with
            | none => exact absent.trans differs.symm
            | some change =>
                rw [Entries.find?, if_pos rfl]
                exact differs.symm
      · rw [if_neg same, ← ih others]
        split
        · split
          · rw [Entries.find?, if_neg same]
          · rfl
        · rw [Entries.find?, if_neg same]

theorem sorted_changes (known : List (String × Json)) {wanted : List (String × Json)}
    (sorted : Entries.Sorted wanted) : Entries.Sorted (changes known wanted) :=
  (sorted_diffFields known sorted).foldl_insert

/-- The difference of two objects has for each name the change of that field. -/
theorem find?_changes {known wanted : List (String × Json)} (knownSorted : Entries.Sorted known)
    (wantedSorted : Entries.Sorted wanted) (name : String) :
    Entries.find? name (changes known wanted) =
      changeOf (Entries.find? name known) (Entries.find? name wanted) := by
  let unwanted := known.filter fun field => !(Entries.find? field.1 wanted).isSome
  have removals : (known.filterMap fun field =>
      if (Entries.find? field.1 wanted).isSome then none else some (field.1, Json.null)) =
        unwanted.map fun field => (field.1, Json.null) := by
    rw [← List.filterMap_eq_map, List.filterMap_filter]
    congr 1
    funext field
    cases Entries.find? field.1 wanted <;> rfl
  have sorted : Entries.Sorted (unwanted.map fun field => (field.1, Json.null)) :=
    (knownSorted.filter _).map fun _ => Json.null
  rw [changes, removals, Entries.find?_foldl_insert sorted.nodup_keys,
    Entries.find?_map fun _ => Json.null, Entries.find?_filter knownSorted.nodup_keys,
    find?_diffFields known wantedSorted.nodup_keys]
  cases wantedThere : Entries.find? name wanted with
  | none =>
      rw [Option.bind_none, Option.or_none]
      cases Entries.find? name known with
      | none => rfl
      | some value => rw [Option.filter_some, wantedThere]; rfl
  | some value =>
      have stays : (Entries.find? name known).filter
          (fun _ => !(Entries.find? name wanted).isSome) = none := by
        rw [wantedThere, Option.isSome_some, Bool.not_true]
        cases Entries.find? name known <;> rfl
      rw [stays]
      rfl

/-- Objects of which each field changes in the same way differ in the same way. -/
theorem mergeDiff_obj_congr {known wanted other further : List (String × Json)}
    (knownSorted : Entries.Sorted known) (wantedSorted : Entries.Sorted wanted)
    (otherSorted : Entries.Sorted other) (furtherSorted : Entries.Sorted further)
    (same : ∀ name, changeOf (Entries.find? name known) (Entries.find? name wanted) =
      changeOf (Entries.find? name other) (Entries.find? name further)) :
    (Json.obj known).mergeDiff (.obj wanted) = (Json.obj other).mergeDiff (.obj further) := by
  have sameChanges : changes known wanted = changes other further := by
    refine (sorted_changes known wantedSorted).ext (sorted_changes other furtherSorted) ?_
    intro name
    rw [find?_changes knownSorted wantedSorted, same, find?_changes otherSorted furtherSorted]
  rw [mergeDiff_obj, sameChanges, mergeDiff_obj]

/-! The difference turns one document into the other. -/

/-- A document after the change that a comparison yields, if any. -/
def changed (document : Json) (change : Option Json) : Json :=
  change.elim document document.mergePatch

theorem changed_mergeDiff_obj (fields known wanted : List (String × Json)) :
    (Json.obj fields).changed ((Json.obj known).mergeDiff (.obj wanted)) =
      (Json.obj fields).mergePatch (.obj (changes known wanted)) := by
  rw [mergeDiff_obj]
  split
  · rename_i none
    rw [List.isEmpty_iff.mp none]
    rfl
  · rfl

theorem mergeDiff_of_noObject {desired : Json} (noObject : desired.fields? = none)
    (current : Json) :
    current.mergeDiff desired = if current.same desired then none else some desired := by
  cases desired with
  | obj fields => cases noObject
  | _ => rfl

theorem mergePatch_of_noObject {patch : Json} (noObject : patch.fields? = none)
    (document : Json) : document.mergePatch patch = patch := by
  cases patch with
  | obj changes => cases noObject
  | _ => rfl

theorem isNull_of_mergeDiff {current desired change : Json} (notNull : desired.isNull = false)
    (differs : current.mergeDiff desired = some change) : change.isNull = false := by
  cases object : desired.fields? with
  | none =>
      rw [mergeDiff_of_noObject object, Option.ite_none_left_eq_some] at differs
      exact Option.some.inj differs.2 ▸ notNull
  | some wanted =>
      obtain rfl := eq_obj_of_fields? object
      rw [mergeDiff] at differs
      split at differs
      · simp only [Option.ite_none_left_eq_some] at differs
        exact Option.some.inj differs.2 ▸ rfl
      · exact Option.some.inj differs ▸ rfl

theorem same_changed_of_noObject {desired : Json} (noObject : desired.fields? = none)
    (current : Json) : (current.changed (current.mergeDiff desired)).same desired = true := by
  rw [mergeDiff_of_noObject noObject]
  split
  · assumption
  · rw [changed, Option.elim_some, mergePatch_of_noObject noObject]
    exact same_refl desired

/-- A comparison takes no field away. -/
theorem changedField_mergeDiff {desired : Json} (notNull : desired.isNull = false)
    (field current : Json) :
    changedField (some field) (current.mergeDiff desired) =
      some (field.changed (current.mergeDiff desired)) := by
  cases differs : current.mergeDiff desired with
  | none => rfl
  | some change =>
      rw [changedField, isNull_of_mergeDiff notNull differs]
      rfl

/-- A field that is changed as the comparison says is the wanted one. -/
theorem changedField_changeOf {known wanted : Option Json}
    (nullFree : ∀ value, wanted = some value → value.isNull = false)
    (set : ∀ value, wanted = some value → Json.null.mergePatch value = value) :
    changedField known (changeOf known wanted) =
      wanted.map fun wanted => known.elim wanted fun known =>
        known.changed (known.mergeDiff wanted) := by
  cases wanted with
  | none => cases known <;> rfl
  | some wanted =>
      have notNull := nullFree wanted rfl
      cases known with
      | none =>
          rw [changeOf, changedField, if_neg (by rw [notNull]; decide), Option.getD_none,
            set wanted rfl]
          rfl
      | some known => exact changedField_mergeDiff notNull known known

/-- A document changed by its difference to another one is the same as that one, if no
object of the latter holds `null`. -/
theorem same_changed_mergeDiff {current desired : Json} (currentCanonical : current.Canonical)
    (canonical : desired.Canonical) (nullFree : desired.NullFree) :
    (current.changed (current.mergeDiff desired)).same desired = true := by
  induction desired using inductionOn generalizing current with
  | obj wanted ih =>
      cases object : current.fields? with
      | none =>
          have replaced : current.mergeDiff (.obj wanted) = some (.obj wanted) := by
            rw [mergeDiff, object]
          rw [replaced, changed, Option.elim_some,
            mergePatch_of_nullFree canonical nullFree object]
          exact same_refl _
      | some known =>
          obtain rfl := eq_obj_of_fields? object
          rw [Canonical, canonicalFields_iff] at currentCanonical canonical
          rw [NullFree, nullFreeFields_iff] at nullFree
          have field (name : String) :
              Entries.find? name (mergeFields known (changes known wanted)) =
                (Entries.find? name wanted).map fun value =>
                  (Entries.find? name known).elim value fun known =>
                    known.changed (known.mergeDiff value) := by
            rw [find?_mergeFields (sorted_changes known canonical.1).nodup_keys,
              find?_changes currentCanonical.1 canonical.1]
            refine changedField_changeOf (fun value found => ?_) fun value found => ?_
            · exact (nullFree _ (Entries.mem_of_find? found)).1
            · have inside := Entries.mem_of_find? found
              exact mergePatch_of_nullFree (canonical.2 _ inside) (nullFree _ inside).2 rfl
          rw [changed_mergeDiff_obj, mergePatch_obj, fields?, Option.getD_some]
          refine same_obj_of_find? (sorted_mergeFields currentCanonical.1 _) canonical.1
            (fun name => ?_) fun name result value changed found => ?_
          · rw [field, Option.isSome_map]
          · have inside := Entries.mem_of_find? found
            rw [field, found, Option.map_some, Option.some.injEq] at changed
            subst changed
            cases before : Entries.find? name known with
            | none => exact same_refl value
            | some old =>
                exact ih _ inside (currentCanonical.2 _ (Entries.mem_of_find? before))
                  (canonical.2 _ inside) (nullFree _ inside).2
  | _ => exact same_changed_of_noObject rfl current

/-! Documents of texts and truth values, as Apps are written. -/

/-- A document made of texts, truth values and objects whose fields are in order. -/
inductive Plain : Json → Prop where
  | bool (value : Bool) : Plain (.bool value)
  | str (text : String) : Plain (.str text)
  | obj {fields : List (String × Json)} (sorted : Entries.Sorted fields)
      (values : ∀ field ∈ fields, Plain field.2) : Plain (.obj fields)

namespace Plain

variable {document : Json}

theorem canonical (plain : document.Plain) : document.Canonical := by
  induction plain with
  | obj sorted _ ih => exact ⟨sorted, canonicalFields_iff.mpr ih⟩
  | _ => trivial

theorem isNull (plain : document.Plain) : document.isNull = false := by
  cases plain <;> rfl

theorem nullFree (plain : document.Plain) : document.NullFree := by
  induction plain with
  | obj _ values ih =>
      exact nullFreeFields_iff.mpr fun field inside =>
        ⟨(values field inside).isNull, ih field inside⟩
  | _ => trivial

theorem zeroFree (plain : document.Plain) : document.ZeroFree := by
  induction plain with
  | obj _ _ ih => exact zeroFreeFields_iff.mpr ih
  | _ => trivial

/-- Without numbers, documents that are the same are equal. -/
theorem eq_of_same (plain : document.Plain) {other : Json} (same : other.same document = true) :
    other = document :=
  Json.eq_of_same plain.zeroFree same

theorem changed_mergeDiff (plain : document.Plain) {current : Json}
    (canonical : current.Canonical) :
    current.changed (current.mergeDiff document) = document :=
  plain.eq_of_same (same_changed_mergeDiff canonical plain.canonical plain.nullFree)

theorem ofFields {fields : List (String × Json)} (values : ∀ field ∈ fields, field.2.Plain) :
    (Json.ofFields fields).Plain := by
  refine .obj (Entries.Sorted.foldl_insert List.Pairwise.nil) fun field inside => ?_
  rcases Entries.mem_foldl_insert inside with given | none
  · exact values field given
  · cases none

theorem ofPresent {fields : List (String × Option Json)}
    (values : ∀ field ∈ fields, ∀ value ∈ field.2, value.Plain) :
    (Json.ofPresent fields).Plain := by
  refine ofFields fun field inside => ?_
  obtain ⟨entry, given, there⟩ := List.mem_filterMap.mp inside
  obtain ⟨value, found, rfl⟩ := Option.map_eq_some_iff.mp there
  exact values entry given value found

theorem ofTexts (table : Table String String) : (Json.ofTexts table).Plain := by
  refine .obj (table.sorted.map Json.str) fun field inside => ?_
  obtain ⟨entry, _, rfl⟩ := List.mem_map.mp inside
  exact .str entry.2

end Plain

end Json

end PlatformApps
