/-
# The difference undoes itself in the patch

Comparing two documents and applying the difference are inverse to each other. Nothing is found
to change just when the documents are the same. Otherwise the difference leads from the one to
the other, and neither the document reached nor the one that was wanted is changed by it once
more. The two directions meet field by field, through `changeOf` and `changedField`.
-/

import PlatformApps.Proofs.Json.MergePatch

namespace PlatformApps

namespace Json

/-- An object of which a patch leaves each field as it is stays as it is. -/
theorem mergePatch_obj_of_unchanged {fields changes : List (String × Json)}
    (sorted : Entries.Sorted fields) (distinct : (changes.map (·.1)).Nodup)
    (unchanged : ∀ name, changedField (Entries.find? name fields) (Entries.find? name changes) =
      Entries.find? name fields) :
    (Json.obj fields).mergePatch (.obj changes) = .obj fields := by
  rw [mergePatch_obj, fields?, Option.getD_some]
  congr 1
  apply (sorted_mergeFields sorted changes).ext sorted
  intro name
  rw [find?_mergeFields distinct, unchanged]

/-- A document without `null` in its objects is not changed by itself. -/
theorem mergePatch_self {document : Json} (canonical : document.Canonical)
    (nullFree : document.NullFree) : document.mergePatch document = document := by
  induction document using inductionOn with
  | obj fields ih =>
      rw [Canonical, canonicalFields_iff] at canonical
      rw [NullFree, nullFreeFields_iff] at nullFree
      apply mergePatch_obj_of_unchanged canonical.1 canonical.1.nodup_keys
      intro name
      cases found : Entries.find? name fields with
      | none => rfl
      | some value =>
          have inside := Entries.mem_of_find? found
          obtain ⟨notNull, valueNullFree⟩ := nullFree _ inside
          rw [changedField, if_neg (by rw [notNull]; decide), Option.getD_some,
            ih _ inside (canonical.2 _ inside) valueNullFree]
  | _ => rfl

/-- A patch applied once more changes nothing more, whatever it sets or removes. -/
theorem mergePatch_mergePatch {document patch : Json} (canonical : document.Canonical)
    (patchCanonical : patch.Canonical) :
    (document.mergePatch patch).mergePatch patch = document.mergePatch patch := by
  induction patch using inductionOn generalizing document with
  | obj changes ih =>
      rw [Canonical, canonicalFields_iff] at patchCanonical
      have distinct := patchCanonical.1.nodup_keys
      have known := canonical.fields
      rw [mergePatch_obj document]
      apply mergePatch_obj_of_unchanged (sorted_mergeFields known.1 changes) distinct
      intro name
      rw [find?_mergeFields distinct]
      cases stated : Entries.find? name changes with
      | none => rfl
      | some change =>
          have inside := Entries.mem_of_find? stated
          rw [changedField, changedField]
          split
          · rfl
          · rw [Option.getD_some,
              ih _ inside (known.getD_find? name) (patchCanonical.2 _ inside)]
  | _ => rfl

/-! What the difference of two documents is. -/

variable {current desired patch : Json}

/-- Between documents that are the same there is no difference. -/
theorem mergeDiff_eq_none_of_same (currentCanonical : current.Canonical)
    (canonical : desired.Canonical) (same : current.same desired = true) :
    current.mergeDiff desired = none := by
  induction desired using inductionOn generalizing current with
  | obj wanted ih =>
      cases current with
      | obj known =>
          rw [Canonical, canonicalFields_iff] at currentCanonical canonical
          have nothing : changes known wanted = [] := by
            apply (sorted_changes known canonical.1).ext List.Pairwise.nil
            intro name
            rw [find?_changes currentCanonical.1 canonical.1]
            rcases find?_of_sameFields same name with
              ⟨absent, unwanted⟩ | ⟨value, other, there, found, alike⟩
            · rw [absent, unwanted]
              rfl
            · have inside := Entries.mem_of_find? found
              rw [there, found]
              exact ih _ inside (currentCanonical.2 _ (Entries.mem_of_find? there))
                (canonical.2 _ inside) alike
          rw [mergeDiff_obj, nothing]
          rfl
      | _ => cases same
  | _ => rw [mergeDiff_of_noObject rfl, if_pos same]

/-- The difference has its objects in order, as the documents have theirs. -/
theorem Canonical.mergeDiff (currentCanonical : current.Canonical)
    (canonical : desired.Canonical) (differs : current.mergeDiff desired = some patch) :
    patch.Canonical := by
  induction desired using inductionOn generalizing current patch with
  | obj wanted ih =>
      cases object : current.fields? with
      | none =>
          rw [Json.mergeDiff, object] at differs
          exact Option.some.inj differs ▸ canonical
      | some known =>
          obtain rfl := eq_obj_of_fields? object
          rw [mergeDiff_obj, Option.ite_none_left_eq_some] at differs
          obtain rfl := Option.some.inj differs.2
          rw [Canonical, canonicalFields_iff] at currentCanonical canonical
          have sorted := sorted_changes known canonical.1
          refine ⟨sorted, canonicalFields_iff.mpr fun field inside => ?_⟩
          have change := Entries.find?_of_mem sorted inside
          rw [find?_changes currentCanonical.1 canonical.1] at change
          cases before : Entries.find? field.1 known with
          | none =>
              rw [before, changeOf] at change
              exact canonical.2 _ (Entries.mem_of_find? change)
          | some old =>
              rw [before] at change
              cases after : Entries.find? field.1 wanted with
              | none =>
                  rw [after, changeOf, Option.some.injEq] at change
                  rw [← change]
                  trivial
              | some value =>
                  rw [after] at change
                  have insideWanted := Entries.mem_of_find? after
                  exact ih _ insideWanted (currentCanonical.2 _ (Entries.mem_of_find? before))
                    (canonical.2 _ insideWanted) change
  | _ =>
      rw [mergeDiff_of_noObject rfl, Option.ite_none_left_eq_some] at differs
      exact Option.some.inj differs.2 ▸ canonical

/-- What is wanted is not changed by the difference that leads to it. -/
theorem changed_mergeDiff_of_reached (currentCanonical : current.Canonical)
    (canonical : desired.Canonical) (nullFree : desired.NullFree) :
    desired.changed (current.mergeDiff desired) = desired := by
  induction desired using inductionOn generalizing current with
  | obj wanted ih =>
      cases object : current.fields? with
      | none =>
          rw [mergeDiff, object]
          exact mergePatch_self canonical nullFree
      | some known =>
          obtain rfl := eq_obj_of_fields? object
          rw [Canonical, canonicalFields_iff] at currentCanonical canonical
          rw [NullFree, nullFreeFields_iff] at nullFree
          rw [changed_mergeDiff_obj]
          apply mergePatch_obj_of_unchanged canonical.1
            (sorted_changes known canonical.1).nodup_keys
          intro name
          rw [find?_changes currentCanonical.1 canonical.1]
          cases found : Entries.find? name wanted with
          | none => cases Entries.find? name known <;> rfl
          | some value =>
              have inside := Entries.mem_of_find? found
              obtain ⟨notNull, valueNullFree⟩ := nullFree _ inside
              have valueCanonical := canonical.2 _ inside
              cases before : Entries.find? name known with
              | none =>
                  rw [changeOf, changedField, if_neg (by rw [notNull]; decide), Option.getD_some,
                    mergePatch_self valueCanonical valueNullFree]
              | some old =>
                  have oldCanonical := currentCanonical.2 _ (Entries.mem_of_find? before)
                  rw [changeOf, changedField_mergeDiff notNull,
                    ih _ inside oldCanonical valueCanonical valueNullFree]
  | _ =>
      rw [mergeDiff_of_noObject rfl]
      split
      · rfl
      · exact mergePatch_of_noObject rfl _

/-- There is no difference just when the documents are the same; where there is one, the patch
leads to the desired document and changes neither it nor what was reached once more. -/
theorem mergeDiff_inverse (currentCanonical : current.Canonical)
    (canonical : desired.Canonical) (nullFree : desired.NullFree) :
    (current.mergeDiff desired = none ↔ current.same desired = true) ∧
      ∀ patch, current.mergeDiff desired = some patch →
        (current.mergePatch patch).same desired = true ∧
        (desired.ZeroFree → current.mergePatch patch = desired) ∧
        desired.mergePatch patch = desired ∧
        (current.mergePatch patch).mergePatch patch = current.mergePatch patch := by
  have reaches := same_changed_mergeDiff currentCanonical canonical nullFree
  constructor
  · constructor
    · intro nothing
      rwa [nothing] at reaches
    · exact mergeDiff_eq_none_of_same currentCanonical canonical
  · intro patch differs
    have keeps := changed_mergeDiff_of_reached currentCanonical canonical nullFree
    rw [differs] at reaches keeps
    exact ⟨reaches, fun zeroFree => eq_of_same zeroFree reaches, keeps,
      mergePatch_mergePatch currentCanonical (currentCanonical.mergeDiff canonical differs)⟩

/-- At every depth something is added, replaced or removed, and a list with a `null` inside
takes the place of an object. -/
theorem mergeDiff_inverse_nested :
    let current := obj [("kept", .int 1), ("list", obj [("inner", true)]),
      ("object", .arr [.null]), ("old", obj [("a", "x")]),
      ("tree", obj [("leaf", .null), ("left", "l"), ("right", obj [("b", "y")])])]
    let desired := obj [("kept", .int 1), ("list", .arr [obj [("inner", .null)]]),
      ("new", obj [("c", obj [])]), ("object", obj [("d", "z")]),
      ("tree", obj [("left", obj [("e", false)]), ("right", obj [])])]
    let patch := obj [("list", .arr [obj [("inner", .null)]]), ("new", obj [("c", obj [])]),
      ("object", obj [("d", "z")]), ("old", .null),
      ("tree", obj [("leaf", .null), ("left", obj [("e", false)]),
        ("right", obj [("b", .null)])])]
    current.mergeDiff desired = some patch ∧ current.mergePatch patch = desired ∧
      desired.mergePatch patch = desired := by
  intro current desired patch
  have differs : current.mergeDiff desired = some patch := by decide +kernel
  have currentCanonical : current.Canonical := by
    simp only [current, Canonical, CanonicalFields, CanonicalItems, Entries.Sorted]
    decide
  have canonical : desired.Canonical := by
    simp only [desired, Canonical, CanonicalFields, CanonicalItems, Entries.Sorted]
    decide
  have nullFree : desired.NullFree := by
    simp [desired, NullFree, NullFreeFields, isNull]
  have zeroFree : desired.ZeroFree := by
    simp [desired, ZeroFree, ZeroFreeFields, ZeroFreeItems]
  obtain ⟨-, toDesired, keeps, -⟩ :=
    (mergeDiff_inverse currentCanonical canonical nullFree).2 patch differs
  exact ⟨differs, toDesired zeroFree, keeps⟩

end Json

end PlatformApps
