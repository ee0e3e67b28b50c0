/-
# Documents that are the same

Two documents are the same when they stand for the same value: the two floating-point zeros are
one number, and all else is compared as it is written. Objects are the same just when they have
the same fields under the same names. A document without a floating-point zero is the same as
itself only.
-/

import PlatformApps.Json.Basic
import PlatformApps.Proofs.Table

namespace PlatformApps

namespace Json

/-- Induction over documents: of a list or an object every part is known. -/
@[elab_as_elim]
theorem inductionOn {motive : Json → Prop} (document : Json) (null : motive .null)
    (bool : ∀ value, motive (.bool value)) (int : ∀ value, motive (.int value))
    (float : ∀ value, motive (.float value)) (str : ∀ text, motive (.str text))
    (arr : ∀ items, (∀ item ∈ items, motive item) → motive (.arr items))
    (obj : ∀ fields, (∀ field ∈ fields, motive field.2) → motive (.obj fields)) :
    motive document :=
  @Json.rec motive (fun items => ∀ item ∈ items, motive item)
    (fun fields => ∀ field ∈ fields, motive field.2) (fun field => motive field.2)
    null bool int float str arr obj
    (fun _ inside => nomatch inside)
    (fun _ _ first others => List.forall_mem_cons.mpr ⟨first, others⟩)
    (fun _ inside => nomatch inside)
    (fun _ _ first others => List.forall_mem_cons.mpr ⟨first, others⟩)
    (fun _ _ value => value) document

theorem eq_obj_of_fields? {document : Json} {fields : List (String × Json)}
    (object : document.fields? = some fields) : document = .obj fields := by
  cases document <;> cases object
  rfl

theorem sameFields_of_forall {first second : List (String × Json)}
    (names : first.map (·.1) = second.map (·.1))
    (values : ∀ field ∈ first, ∀ other ∈ second, field.1 = other.1 →
      field.2.same other.2 = true) : sameFields first second = true := by
  induction first generalizing second with
  | nil =>
      obtain rfl := List.map_eq_nil_iff.mp names.symm
      rfl
  | cons field rest ih =>
      cases second with
      | nil => cases names
      | cons other others =>
          obtain ⟨name, value⟩ := field
          obtain ⟨otherName, otherValue⟩ := other
          obtain ⟨sameName, names⟩ := List.cons.inj names
          have one := values _ List.mem_cons_self _ List.mem_cons_self sameName
          have tail := ih names fun field inside other alsoInside =>
            values field (List.mem_cons_of_mem _ inside) other (List.mem_cons_of_mem _ alsoInside)
          simp only at sameName one
          rw [sameFields, sameName, one, tail, beq_self_eq_true]
          rfl

/-- Objects are the same where each field of the one is the same in the other. -/
theorem same_obj_of_find? {first second : List (String × Json)}
    (firstSorted : Entries.Sorted first) (secondSorted : Entries.Sorted second)
    (names : ∀ name, (Entries.find? name first).isSome = (Entries.find? name second).isSome)
    (values : ∀ name value other, Entries.find? name first = some value →
      Entries.find? name second = some other → value.same other = true) :
    (Json.obj first).same (.obj second) = true := by
  refine sameFields_of_forall (firstSorted.keys_ext secondSorted names)
    fun field inside other alsoInside sameName => ?_
  refine values field.1 _ _ (Entries.find?_of_mem firstSorted inside) ?_
  rw [sameName]
  exact Entries.find?_of_mem secondSorted alsoInside

theorem same_refl (document : Json) : document.same document = true := by
  induction document using inductionOn with
  | null => rfl
  | bool value => rw [same, beq_self_eq_true]
  | int value => rw [same, beq_self_eq_true]
  | float value => rw [same, decide_eq_true rfl, Bool.true_or]
  | str text => rw [same, beq_self_eq_true]
  | arr items ih =>
      rw [same]
      induction items with
      | nil => rfl
      | cons item rest ihRest =>
          obtain ⟨first, others⟩ := List.forall_mem_cons.mp ih
          rw [sameItems, first, ihRest others]
          rfl
  | obj fields ih =>
      rw [same]
      induction fields with
      | nil => rfl
      | cons field rest ihRest =>
          obtain ⟨name, value⟩ := field
          obtain ⟨first, others⟩ := List.forall_mem_cons.mp ih
          rw [sameFields, first, ihRest others, beq_self_eq_true]
          rfl

/-- Whoever looks into two objects that are the same finds nothing in both or the same in both. -/
theorem find?_of_sameFields {first second : List (String × Json)}
    (same : sameFields first second = true) (name : String) :
    (Entries.find? name first = none ∧ Entries.find? name second = none) ∨
      ∃ value other, Entries.find? name first = some value ∧
        Entries.find? name second = some other ∧ value.same other = true := by
  induction first generalizing second with
  | nil =>
      cases second with
      | nil => exact .inl ⟨rfl, rfl⟩
      | cons => cases same
  | cons field rest ih =>
      cases second with
      | nil => cases same
      | cons other others =>
          obtain ⟨own, value⟩ := field
          obtain ⟨otherName, otherValue⟩ := other
          rw [sameFields, Bool.and_eq_true, Bool.and_eq_true, beq_iff_eq] at same
          obtain ⟨⟨rfl, here⟩, later⟩ := same
          by_cases found : name = own
          · exact .inr ⟨value, otherValue, by simp [Entries.find?, found],
              by simp [Entries.find?, found], here⟩
          · simpa [Entries.find?, found] using ih later

/-! Where being the same is being equal. -/

mutual

/-- No floating-point number of the document is zero. -/
def ZeroFree : Json → Prop
  | .float value => value.mantissa ≠ 0
  | .arr items => ZeroFreeItems items
  | .obj fields => ZeroFreeFields fields
  | _ => True
  termination_by structural document => document

def ZeroFreeItems : List Json → Prop
  | [] => True
  | item :: rest => ZeroFree item ∧ ZeroFreeItems rest
  termination_by structural items => items

def ZeroFreeFields : List (String × Json) → Prop
  | [] => True
  | (_, value) :: rest => ZeroFree value ∧ ZeroFreeFields rest
  termination_by structural fields => fields

end

theorem zeroFreeFields_iff {fields : List (String × Json)} :
    ZeroFreeFields fields ↔ ∀ field ∈ fields, field.2.ZeroFree := by
  induction fields with
  | nil => simp [ZeroFreeFields]
  | cons field rest ih => rw [ZeroFreeFields, ih, List.forall_mem_cons]

theorem eq_of_sameItems {items others : List Json} (zeroFree : ZeroFreeItems items)
    (each : ∀ item ∈ items, ∀ {other : Json}, item.ZeroFree → other.same item = true →
      other = item) (same : sameItems others items = true) : others = items := by
  induction items generalizing others with
  | nil =>
      cases others with
      | nil => rfl
      | cons => cases same
  | cons item rest ih =>
      cases others with
      | nil => cases same
      | cons other others =>
          obtain ⟨first, later⟩ := List.forall_mem_cons.mp each
          rw [sameItems, Bool.and_eq_true] at same
          rw [first zeroFree.1 same.1, ih zeroFree.2 later same.2]

theorem eq_of_sameFields {fields others : List (String × Json)} (zeroFree : ZeroFreeFields fields)
    (each : ∀ field ∈ fields, ∀ {other : Json}, field.2.ZeroFree → other.same field.2 = true →
      other = field.2) (same : sameFields others fields = true) : others = fields := by
  induction fields generalizing others with
  | nil =>
      cases others with
      | nil => rfl
      | cons => cases same
  | cons field rest ih =>
      cases others with
      | nil => cases same
      | cons other others =>
          obtain ⟨name, value⟩ := field
          obtain ⟨otherName, otherValue⟩ := other
          obtain ⟨first, later⟩ := List.forall_mem_cons.mp each
          rw [sameFields, Bool.and_eq_true, Bool.and_eq_true, beq_iff_eq] at same
          rw [same.1.1, first zeroFree.1 same.1.2, ih zeroFree.2 later same.2]

/-- Without a floating-point zero, documents that are the same are equal. -/
theorem eq_of_same {document other : Json} (zeroFree : document.ZeroFree)
    (same : other.same document = true) : other = document := by
  induction document using inductionOn generalizing other with
  | null =>
      cases other with
      | null => rfl
      | _ => cases same
  | bool value =>
      cases other with
      | bool other => rw [beq_iff_eq.mp same]
      | _ => cases same
  | int value =>
      cases other with
      | int other => rw [beq_iff_eq.mp same]
      | _ => cases same
  | float value =>
      cases other with
      | float other =>
          have isOther : value.mantissa ≠ 0 := zeroFree
          simpa [Json.same, isOther] using same
      | _ => cases same
  | str text =>
      cases other with
      | str other => rw [beq_iff_eq.mp same]
      | _ => cases same
  | arr items ih =>
      cases other with
      | arr others => rw [eq_of_sameItems zeroFree ih same]
      | _ => cases same
  | obj fields ih =>
      cases other with
      | obj others => rw [eq_of_sameFields zeroFree ih same]
      | _ => cases same

end Json

end PlatformApps
