/-
# Tables made from lists

Where each key stands once, what a table made from a list holds at a key is what the list
holds there, whatever the order of the list. A table is the same again when it is made from
its own entries, and when something is put where it is already.
-/

import PlatformApps.Table

namespace PlatformApps

variable {κ α β : Type} [Key κ]

namespace Entries

theorem Sorted.nodup_keys {entries : List (κ × α)} (sorted : Sorted entries) :
    (entries.map (·.1)).Nodup := by
  rw [List.Nodup, List.pairwise_map]
  refine List.Pairwise.imp (fun {first second} less same => ?_) sorted
  exact Key.irrefl _ (same ▸ less)

theorem find?_eq_none_iff {key : κ} {entries : List (κ × α)} :
    find? key entries = none ↔ key ∉ entries.map (·.1) := by
  induction entries with
  | nil => simp [find?]
  | cons entry rest ih =>
      obtain ⟨other, value⟩ := entry
      by_cases same : key = other
      · simp [find?, same]
      · simp [find?, same, ih]

theorem find?_eq_some_iff {key : κ} {value : α} {entries : List (κ × α)}
    (distinct : (entries.map (·.1)).Nodup) :
    find? key entries = some value ↔ (key, value) ∈ entries := by
  refine ⟨mem_of_find?, fun inside => ?_⟩
  induction entries with
  | nil => cases inside
  | cons entry rest ih =>
      obtain ⟨other, old⟩ := entry
      obtain ⟨alone, others⟩ := List.nodup_cons.mp distinct
      rcases List.mem_cons.mp inside with same | later
      · cases same
        rw [find?, if_pos rfl]
      · have different : key ≠ other := by
          rintro rfl
          exact alone (List.mem_map.mpr ⟨_, later, rfl⟩)
        rw [find?, if_neg different, ih others later]

theorem Sorted.foldl_insert {entries known : List (κ × α)} (sorted : Sorted known) :
    Sorted (entries.foldl (fun known entry => Entries.insert entry.1 entry.2 known) known) := by
  induction entries generalizing known with
  | nil => exact sorted
  | cons entry rest ih => exact ih sorted.insert

theorem mem_foldl_insert {entries known : List (κ × α)} {entry : κ × α}
    (inside : entry ∈ entries.foldl (fun known entry => insert entry.1 entry.2 known) known) :
    entry ∈ entries ∨ entry ∈ known := by
  induction entries generalizing known with
  | nil => exact .inr inside
  | cons first rest ih =>
      rcases ih inside with later | earlier
      · exact .inl (List.mem_cons_of_mem _ later)
      · rcases mem_insert earlier with same | before
        · exact .inl (same ▸ List.mem_cons_self)
        · exact .inr before

/-- Entries with different keys may be added in any order. -/
theorem find?_foldl_insert {entries : List (κ × α)} (distinct : (entries.map (·.1)).Nodup)
    (known : List (κ × α)) (key : κ) :
    find? key (entries.foldl (fun known entry => insert entry.1 entry.2 known) known) =
      (find? key entries).or (find? key known) := by
  induction entries generalizing known with
  | nil => rfl
  | cons entry rest ih =>
      obtain ⟨other, value⟩ := entry
      obtain ⟨alone, distinct⟩ := List.nodup_cons.mp distinct
      rw [List.foldl_cons, ih distinct, find?_insert, find?]
      split
      · rename_i same
        subst same
        rw [find?_eq_none_iff.mpr alone, Option.none_or, Option.some_or]
      · rfl

/-- Values are changed where they stand. -/
theorem find?_map (change : α → β) (entries : List (κ × α)) (key : κ) :
    find? key (entries.map fun entry => (entry.1, change entry.2)) =
      (find? key entries).map change := by
  induction entries with
  | nil => rfl
  | cons entry rest ih =>
      obtain ⟨other, value⟩ := entry
      simp only [List.map_cons, find?, ih]
      split <;> rfl

theorem Sorted.map {entries : List (κ × α)} (sorted : Sorted entries) (change : α → β) :
    Sorted (entries.map fun entry => (entry.1, change entry.2)) :=
  List.pairwise_map.mpr sorted

/-- Of entries with different keys, those that are wanted. -/
theorem find?_filter {entries : List (κ × α)} (distinct : (entries.map (·.1)).Nodup)
    (isWanted : κ × α → Bool) (key : κ) :
    find? key (entries.filter isWanted) =
      (find? key entries).filter fun value => isWanted (key, value) := by
  induction entries with
  | nil => rfl
  | cons entry rest ih =>
      obtain ⟨other, value⟩ := entry
      obtain ⟨alone, others⟩ := List.nodup_cons.mp distinct
      rw [List.filter_cons, find?]
      by_cases same : key = other
      · subst same
        rw [if_pos rfl, Option.filter_some]
        split
        · rw [find?, if_pos rfl]
        · rw [ih others, find?_eq_none_iff.mpr alone]
          rfl
      · rw [if_neg same, ← ih others]
        split
        · rw [find?, if_neg same]
        · rfl

theorem Sorted.filter {entries : List (κ × α)} (sorted : Sorted entries)
    (isWanted : κ × α → Bool) : Sorted (entries.filter isWanted) :=
  List.Pairwise.filter isWanted sorted

/-- Sorted entries with the same keys list them alike. -/
theorem Sorted.keys_ext {first : List (κ × α)} {second : List (κ × β)}
    (firstSorted : Sorted first) (secondSorted : Sorted second)
    (same : ∀ key, (find? key first).isSome = (find? key second).isSome) :
    first.map (·.1) = second.map (·.1) := by
  have blank {γ : Type} (value : Option γ) :
      value.map (fun _ => ()) = if value.isSome then some () else none := by
    cases value <;> rfl
  have units : (first.map fun entry => (entry.1, ())) = second.map fun entry => (entry.1, ()) := by
    refine (firstSorted.map fun _ => ()).ext (secondSorted.map fun _ => ()) fun key => ?_
    rw [find?_map fun _ => (), find?_map fun _ => (), blank, blank, same key]
  have keys := congrArg (List.map (·.1)) units
  rwa [List.map_map, List.map_map] at keys

omit [Key κ] in
theorem nodup_keys_filterMap {entries : List (κ × Option α)}
    (distinct : (entries.map (·.1)).Nodup) :
    ((entries.filterMap fun entry => entry.2.map (entry.1, ·)).map (·.1)).Nodup := by
  rw [List.Nodup, List.pairwise_map, List.pairwise_filterMap]
  refine (List.pairwise_map.mp distinct).imp fun {first second} different => ?_
  intro one given other alsoGiven
  obtain ⟨_, _, rfl⟩ := Option.map_eq_some_iff.mp given
  obtain ⟨_, _, rfl⟩ := Option.map_eq_some_iff.mp alsoGiven
  exact different

/-- Of entries with values that may be absent, those that are there. -/
theorem find?_filterMap {entries : List (κ × Option α)} (distinct : (entries.map (·.1)).Nodup)
    (key : κ) :
    find? key (entries.filterMap fun entry => entry.2.map (entry.1, ·)) =
      (find? key entries).join := by
  induction entries with
  | nil => rfl
  | cons entry rest ih =>
      obtain ⟨other, value⟩ := entry
      obtain ⟨alone, others⟩ := List.nodup_cons.mp distinct
      rw [List.filterMap_cons]
      cases value with
      | none =>
          rw [Option.map_none, ih others, find?]
          split
          · rename_i same
            subst same
            rw [find?_eq_none_iff.mpr alone]
            rfl
          · rfl
      | some value =>
          rw [Option.map_some, find?, find?, ih others]
          split <;> rfl

end Entries

namespace Table

theorem toList_ofList (entries : List (κ × α)) :
    (ofList entries).toList =
      entries.foldl (fun known entry => Entries.insert entry.1 entry.2 known) [] := by
  have added (table : Table κ α) :
      (entries.foldl (fun table entry => table.insert entry.1 entry.2) table).toList =
        entries.foldl (fun known entry => Entries.insert entry.1 entry.2 known) table.toList := by
    induction entries generalizing table with
    | nil => rfl
    | cons entry rest ih => exact ih _
  exact added empty

theorem find?_ofList {entries : List (κ × α)} (distinct : (entries.map (·.1)).Nodup) (key : κ) :
    (ofList entries).find? key = Entries.find? key entries := by
  rw [find?, toList_ofList, Entries.find?_foldl_insert distinct, Entries.find?, Option.or_none]

theorem ofList_toList (table : Table κ α) : ofList table.toList = table :=
  ext fun key => find?_ofList table.sorted.nodup_keys key

/-- There is nothing to change where the value is there already. -/
theorem insert_of_present {table : Table κ α} {key : κ} {value : α}
    (present : table.find? key = some value) : table.insert key value = table := by
  apply ext
  intro other
  rw [find?_insert]
  split
  · rename_i same
    rw [same, present]
  · rfl

end Table

end PlatformApps
