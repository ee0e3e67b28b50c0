/-
# Records read from documents

What is written field by field can be read field by field. An object in which no name is
repeated reads as a record, each of whose fields is what is found under its name; and a table
of texts reads as it was.
-/

import PlatformApps.Json.Record
import PlatformApps.Proofs.Table

namespace PlatformApps

namespace Json

/-- The fields of an object, whatever the order in which they are given. -/
theorem eq_obj_of_ofFields {document : Json} {fields : List (String × Json)}
    (made : document = ofFields fields) (distinct : (fields.map (·.1)).Nodup) :
    ∃ given, document = .obj given ∧ Entries.Sorted given ∧
      ∀ name, Entries.find? name given = Entries.find? name fields := by
  refine ⟨_, made, Entries.Sorted.foldl_insert List.Pairwise.nil, fun name => ?_⟩
  rw [Entries.find?_foldl_insert distinct, Entries.find?, Option.or_none]

/-- Whoever looks into two objects that are equal finds the same. -/
theorem find?_eq_of_ofFields {one other : List (String × Json)}
    (distinct : (one.map (·.1)).Nodup) (distinctOther : (other.map (·.1)).Nodup)
    (same : ofFields one = ofFields other) (name : String) :
    Entries.find? name one = Entries.find? name other := by
  obtain ⟨fields, oneSame, _, oneFound⟩ := eq_obj_of_ofFields rfl distinct
  obtain ⟨_, otherSame, _, otherFound⟩ := eq_obj_of_ofFields rfl distinctOther
  rw [oneSame, otherSame] at same
  cases same
  rw [← oneFound, otherFound]

/-- The fields of an object that leaves absent ones out. -/
theorem eq_obj_of_ofPresent {document : Json} {fields : List (String × Option Json)}
    (made : document = ofPresent fields) (distinct : (fields.map (·.1)).Nodup) :
    ∃ present, document = .obj present ∧ Entries.Sorted present ∧
      ∀ name, Entries.find? name present = (Entries.find? name fields).join := by
  obtain ⟨present, same, sorted, found⟩ :=
    eq_obj_of_ofFields made (Entries.nodup_keys_filterMap distinct)
  exact ⟨present, same, sorted, fun name =>
    (found name).trans (Entries.find?_filterMap distinct name)⟩

end Json

namespace Written

/-! What is read is read from somewhere. -/

section Reads

variable {α β : Type} {read : Written → Option α}

theorem reads_of_mapM {item : β → Option α} {items : List β} {values : List α}
    (given : items.mapM item = some values) :
    ∀ value ∈ values, ∃ source ∈ items, item source = some value := by
  induction items generalizing values with
  | nil =>
      cases given
      exact fun _ inside => nomatch inside
  | cons first rest ih =>
      rw [List.mapM_cons] at given
      obtain ⟨head, reads, others⟩ := Option.bind_eq_some_iff.mp given
      obtain ⟨tail, further, same⟩ := Option.bind_eq_some_iff.mp others
      cases same
      intro value inside
      rcases List.mem_cons.mp inside with rfl | later
      · exact ⟨first, List.mem_cons_self, reads⟩
      · obtain ⟨source, among, found⟩ := ih further value later
        exact ⟨source, List.mem_cons_of_mem _ among, found⟩

variable {fields : List (String × Written)} {name : String}

theorem reads_of_required? {value : α} (given : required? fields name read = some value) :
    ∃ written, read written = some value := by
  obtain ⟨values, each, last⟩ := Option.bind_eq_some_iff.mp given
  obtain ⟨source, _, reads⟩ := reads_of_mapM each value (List.mem_of_getLast? last)
  exact ⟨source, reads⟩

theorem reads_of_optional? {value : α} (given : optional? fields name read = some (some value)) :
    ∃ written, written.isNull = false ∧ read written = some value := by
  obtain ⟨values, each, last⟩ := Option.map_eq_some_iff.mp given
  obtain ⟨source, _, reads⟩ := reads_of_mapM each (some value)
    (List.mem_of_getLast? (Option.join_eq_some_iff.mp last))
  rw [nullable?] at reads
  split at reads
  · cases reads
  · rename_i notNull
    obtain ⟨_, reads, same⟩ := Option.map_eq_some_iff.mp reads
    cases same
    exact ⟨source, eq_false_of_ne_true notNull, reads⟩

theorem reads_of_list? {written : Written} {values : List α}
    (given : list? read written = some values) :
    ∀ value ∈ values, ∃ item, read item = some value := by
  cases written with
  | arr items =>
      intro value inside
      obtain ⟨item, _, reads⟩ := reads_of_mapM given value inside
      exact ⟨item, reads⟩
  | _ => cases given

end Reads

variable {α : Type} {fields : List (String × Json)}

theorem isNull_ofJson (document : Json) : (ofJson document).isNull = document.isNull := by
  cases document <;> rfl

theorem valuesOf_ofFields (distinct : (fields.map (·.1)).Nodup) (name : String) :
    valuesOf (ofFields fields) name = ((Entries.find? name fields).map ofJson).toList := by
  induction fields with
  | nil => rfl
  | cons field rest ih =>
      obtain ⟨other, value⟩ := field
      obtain ⟨alone, others⟩ := List.nodup_cons.mp distinct
      have tail := ih others
      rw [valuesOf] at tail ⊢
      rw [ofFields, List.filter_cons, Entries.find?]
      by_cases same : name = other
      · subst same
        rw [Entries.find?_eq_none_iff.mpr alone, Option.map_none, Option.toList_none] at tail
        rw [beq_self_eq_true, if_pos rfl, if_pos rfl, List.map_cons, tail]
        rfl
      · rw [if_neg (by simpa using Ne.symm same), if_neg same, tail]

theorem required?_ofFields (distinct : (fields.map (·.1)).Nodup) (name : String)
    (read : Written → Option α) :
    required? (ofFields fields) name read =
      (Entries.find? name fields).bind fun value => read (ofJson value) := by
  rw [required?, valuesOf_ofFields distinct]
  cases Entries.find? name fields with
  | none => rfl
  | some value =>
      cases given : read (ofJson value) <;> simp [given]

/-- What a field is read as that may be absent. -/
def fieldAs? (read : Written → Option α) (field : Option Json) : Option (Option α) :=
  field.elim (some none) fun value => nullable? read (ofJson value)

theorem optional?_ofFields (distinct : (fields.map (·.1)).Nodup) (name : String)
    (read : Written → Option α) :
    optional? (ofFields fields) name read = fieldAs? read (Entries.find? name fields) := by
  rw [optional?, valuesOf_ofFields distinct]
  cases Entries.find? name fields with
  | none => rfl
  | some value =>
      rw [fieldAs?]
      cases given : nullable? read (ofJson value) <;> simp [given]

theorem defaulted?_ofFields (distinct : (fields.map (·.1)).Nodup) (name : String) (default : α)
    (read : Written → Option α) :
    defaulted? (ofFields fields) name default read =
      (Entries.find? name fields).elim (some default) fun value => read (ofJson value) := by
  rw [defaulted?, valuesOf_ofFields distinct]
  cases Entries.find? name fields with
  | none => rfl
  | some value =>
      cases given : read (ofJson value) <;> simp [given]

section ReadAs

variable {β : Type} {read : Written → Option α} {write : β → Json} {readAs : β → α}
  (reads : ∀ value, read (ofJson (write value)) = some (readAs value))

include reads in
/-- A field that is written when it has a value is read as its value is. -/
theorem fieldAs?_map_of_reads (notNull : ∀ value, (write value).isNull = false)
    (value : Option β) : fieldAs? read (value.map write) = some (value.map readAs) := by
  cases value with
  | none => rfl
  | some value =>
      rw [Option.map_some, fieldAs?, Option.elim_some, nullable?, isNull_ofJson, notNull, reads]
      rfl

include reads in
/-- A list is read item by item. -/
theorem list?_arr (values : List β) :
    list? read (ofJson (.arr (values.map write))) = some (values.map readAs) := by
  rw [ofJson, list?]
  induction values with
  | nil => rfl
  | cons value rest ih =>
      rw [List.map_cons, ofItems, List.mapM_cons, reads, ih]
      rfl

end ReadAs

section Readable

variable {read : Written → Option α} {write : α → Json}
  (reads : ∀ value, read (ofJson (write value)) = some value)

include reads in
theorem required?_of_written (distinct : (fields.map (·.1)).Nodup) {name : String} {value : α}
    (there : Entries.find? name fields = some (write value)) :
    required? (ofFields fields) name read = some value := by
  rw [required?_ofFields distinct, there, Option.bind_some, reads]

include reads in
/-- A field that is written when it has a value is read as it was. -/
theorem fieldAs?_map (notNull : ∀ value, (write value).isNull = false) (value : Option α) :
    fieldAs? read (value.map write) = some value := by
  have given := fieldAs?_map_of_reads reads notNull value
  rwa [Option.map_id'] at given

include reads in
theorem optional?_of_written (notNull : ∀ value, (write value).isNull = false)
    (distinct : (fields.map (·.1)).Nodup) {name : String} {value : Option α}
    (there : Entries.find? name fields = value.map write) :
    optional? (ofFields fields) name read = some value := by
  rw [optional?_ofFields distinct, there, fieldAs?_map reads notNull]

include reads in
theorem defaulted?_of_written (distinct : (fields.map (·.1)).Nodup) {name : String} {value : α}
    (default : α) (there : Entries.find? name fields = some (write value)) :
    defaulted? (ofFields fields) name default read = some value := by
  rw [defaulted?_ofFields distinct, there, Option.elim_some, reads]

include reads in
theorem list?_of_written (values : List α) :
    list? read (ofJson (.arr (values.map write))) = some values := by
  have given := list?_arr reads values
  rwa [List.map_id'] at given

end Readable

/-- A text that is left out when it is empty is read as it was. -/
theorem defaulted?_of_filled (distinct : (fields.map (·.1)).Nodup) {name text : String}
    (there : Entries.find? name fields = if text.isEmpty then none else some (.str text)) :
    defaulted? (ofFields fields) name "" text? = some text := by
  rw [defaulted?_ofFields distinct, there]
  split
  · rename_i empty
    rw [String.isEmpty_iff.mp empty]
    rfl
  · rfl

/-- An object in which no name is repeated is a record, whatever its fields are called. -/
theorem declared?_ofJson (distinct : (fields.map (·.1)).Nodup) (names : List String) :
    (ofJson (.obj fields)).declared? names = some (ofFields fields) := by
  have once : (names.all fun name =>
      (ofFields fields).countP (fun field => field.1 == name) ≤ 1) = true := by
    refine List.all_eq_true.mpr fun name _ => decide_eq_true ?_
    have one := congrArg List.length (valuesOf_ofFields distinct name)
    rw [valuesOf, List.length_map, ← List.countP_eq_length_filter] at one
    rw [one]
    cases Entries.find? name fields <;> simp
  rw [ofJson, declared?, if_pos once]

theorem record?_ofJson (distinct : (fields.map (·.1)).Nodup) (names : List String) :
    (ofJson (.obj fields)).record? names = some (ofFields fields) :=
  declared?_ofJson distinct names

theorem wholeRecord?_ofJson (distinct : (fields.map (·.1)).Nodup) (names : List String) :
    (ofJson (.obj fields)).wholeRecord? names = some (ofFields fields) :=
  declared?_ofJson distinct names

theorem text?_str (text : String) : text? (ofJson (.str text)) = some text := rfl

theorem bool?_bool (value : Bool) : bool? (ofJson (.bool value)) = some value := rfl

theorem texts?_ofStrings (texts : List String) :
    texts? (ofJson (.ofStrings texts)) = some texts :=
  list?_of_written text?_str texts

theorem int64?_int (value : Int64) : int64? (ofJson (.int value.toInt)) = some value := by
  have low := value.le_toInt
  have high := value.toInt_lt
  rw [int64?, ofJson, intWithin?, if_pos (by omega), Option.map_some, Int64.ofInt_toInt]

theorem int32?_toInt (value : Int32) : int32? (ofJson (.int value.toInt)) = some value := by
  have low := value.le_toInt
  have high := value.toInt_lt
  rw [int32?, ofJson, intWithin?, if_pos (by omega), Option.map_some, Int32.ofInt_toInt]

/-- A table is read value by value. -/
theorem table?_obj {read : Written → Option α} {write : α → Json}
    (reads : ∀ value, read (ofJson (write value)) = some value) (table : Table String α) :
    table? read (ofJson (.obj (table.toList.map fun entry => (entry.1, write entry.2)))) =
      some table := by
  have each (entries : List (String × α)) :
      (ofFields (entries.map fun entry => (entry.1, write entry.2))).mapM
        (fun field => (read field.2).map (field.1, ·)) = some entries := by
    induction entries with
    | nil => rfl
    | cons entry rest ih =>
        rw [List.map_cons, ofFields, List.mapM_cons, reads, ih]
        rfl
  rw [ofJson, table?, each, Option.map_some, Table.ofList_toList]

theorem textTable?_ofTexts (table : Table String String) :
    textTable? (ofJson (.ofTexts table)) = some table :=
  table?_obj text?_str table

end Written

end PlatformApps
