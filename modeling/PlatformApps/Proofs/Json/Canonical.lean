/-
# Documents in order

Every document has a form whose objects list their fields by name, each name once. A document
that is in order is that form of itself, and whatever is read as a document is in order.
-/

import PlatformApps.Proofs.Json.MergePatch
import PlatformApps.Proofs.Json.Record

namespace PlatformApps

namespace Json

theorem canonicalItems_iff {items : List Json} :
    CanonicalItems items ↔ ∀ item ∈ items, item.Canonical := by
  induction items with
  | nil => simp [CanonicalItems]
  | cons item rest ih =>
      rw [CanonicalItems, ih, List.forall_mem_cons]

theorem canonicalItems_eq_map (items : List Json) :
    canonicalItems items = items.map canonical := by
  induction items with
  | nil => rfl
  | cons item rest ih => rw [canonicalItems, ih, List.map_cons]

theorem canonicalFields_eq_map (fields : List (String × Json)) :
    canonicalFields fields = fields.map fun field => (field.1, field.2.canonical) := by
  induction fields with
  | nil => rfl
  | cons field rest ih => rw [canonicalFields, ih, List.map_cons]

theorem Canonical.ofFields {fields : List (String × Json)}
    (values : ∀ field ∈ fields, field.2.Canonical) : (Json.ofFields fields).Canonical := by
  refine ⟨Entries.Sorted.foldl_insert List.Pairwise.nil, canonicalFields_iff.mpr ?_⟩
  intro field inside
  rcases Entries.mem_foldl_insert inside with given | none
  · exact values field given
  · cases none

theorem Canonical.ofPresent {fields : List (String × Option Json)}
    (values : ∀ field ∈ fields, ∀ value ∈ field.2, value.Canonical) :
    (Json.ofPresent fields).Canonical := by
  refine Canonical.ofFields fun field inside => ?_
  obtain ⟨entry, listed, there⟩ := List.mem_filterMap.mp inside
  obtain ⟨value, found, rfl⟩ := Option.map_eq_some_iff.mp there
  exact values entry listed value found

/-- Fields in order make up the object that lists them. -/
theorem ofFields_of_sorted {fields : List (String × Json)} (sorted : Entries.Sorted fields) :
    ofFields fields = .obj fields := by
  obtain ⟨given, same, givenSorted, found⟩ :=
    eq_obj_of_ofFields (rfl : ofFields fields = _) sorted.nodup_keys
  rw [same, givenSorted.ext sorted found]

/-- The fields of an object in order, whatever the order in which they are given. -/
theorem eq_obj_of_canonical {document : Json} {fields : List (String × Json)}
    (made : document = .obj fields) (distinct : (fields.map (·.1)).Nodup) :
    ∃ given, document.canonical = .obj given ∧ Entries.Sorted given ∧
      ∀ name, Entries.find? name given = (Entries.find? name fields).map canonical := by
  have names : (canonicalFields fields).map (·.1) = fields.map (·.1) := by
    rw [canonicalFields_eq_map, List.map_map]
    rfl
  obtain ⟨given, same, sorted, found⟩ :=
    eq_obj_of_ofFields (rfl : ofFields (canonicalFields fields) = _) (names ▸ distinct)
  refine ⟨given, ?_, sorted, fun name => ?_⟩
  · rw [made, canonical, same]
  · rw [found, canonicalFields_eq_map, Entries.find?_map]

theorem canonical_canonical (document : Json) : document.canonical.Canonical := by
  induction document using inductionOn with
  | arr items ih =>
      rw [canonical, canonicalItems_eq_map, Canonical]
      exact canonicalItems_iff.mpr (List.forall_mem_map.mpr ih)
  | obj fields ih =>
      rw [canonical, canonicalFields_eq_map]
      exact Canonical.ofFields (List.forall_mem_map.mpr ih)
  | _ => trivial

theorem Canonical.eq {document : Json} (inOrder : document.Canonical) :
    document.canonical = document := by
  induction document using inductionOn with
  | arr items ih =>
      have each := canonicalItems_iff.mp inOrder
      rw [canonical, canonicalItems_eq_map,
        List.map_congr_left fun item inside => ih item inside (each item inside), List.map_id']
  | obj fields ih =>
      have each := canonicalFields_iff.mp inOrder.2
      have same : ∀ field ∈ fields, (field.1, field.2.canonical) = field :=
        fun field inside => Prod.ext rfl (ih field inside (each field inside))
      rw [canonical, canonicalFields_eq_map, List.map_congr_left same, List.map_id',
        ofFields_of_sorted inOrder.1]
  | _ => rfl

end Json

namespace Written

mutual

/-- What is read as a document is in order. -/
theorem canonical_of_toJson? {written : Written} {document : Json}
    (read : written.toJson? = some document) : document.Canonical := by
  cases written with
  | arr items =>
      obtain ⟨values, given, rfl⟩ := Option.map_eq_some_iff.mp read
      exact canonicalItems_of_itemsToJson? given
  | obj fields =>
      obtain ⟨values, given, rfl⟩ := Option.map_eq_some_iff.mp read
      exact .ofFields (canonical_of_fieldsToJson? given)
  | unusable => cases read
  | _ =>
      cases read
      trivial
  termination_by structural written

theorem canonicalItems_of_itemsToJson? {items : List Written} {values : List Json}
    (read : itemsToJson? items = some values) : Json.CanonicalItems values := by
  cases items with
  | nil =>
      cases read
      trivial
  | cons item rest =>
      obtain ⟨value, first, others⟩ := Option.bind_eq_some_iff.mp read
      obtain ⟨tail, given, rfl⟩ := Option.map_eq_some_iff.mp others
      exact ⟨canonical_of_toJson? first, canonicalItems_of_itemsToJson? given⟩
  termination_by structural items

theorem canonical_of_fieldsToJson? {fields : List (String × Written)}
    {values : List (String × Json)} (read : fieldsToJson? fields = some values) :
    ∀ field ∈ values, field.2.Canonical := by
  cases fields with
  | nil =>
      cases read
      exact fun _ inside => nomatch inside
  | cons field rest =>
      obtain ⟨name, written⟩ := field
      obtain ⟨value, first, others⟩ := Option.bind_eq_some_iff.mp read
      obtain ⟨tail, given, rfl⟩ := Option.map_eq_some_iff.mp others
      exact List.forall_mem_cons.mpr
        ⟨canonical_of_toJson? first, canonical_of_fieldsToJson? given⟩
  termination_by structural fields

end

theorem isNull_of_toJson? {written : Written} {document : Json}
    (read : written.toJson? = some document) : document.isNull = written.isNull := by
  cases written with
  | arr items =>
      obtain ⟨values, _, rfl⟩ := Option.map_eq_some_iff.mp read
      rfl
  | obj fields =>
      obtain ⟨values, _, rfl⟩ := Option.map_eq_some_iff.mp read
      rfl
  | unusable => cases read
  | _ =>
      cases read
      rfl

end Written

end PlatformApps
