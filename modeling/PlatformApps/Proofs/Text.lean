/-
# Cutting texts

What the functions that cut a text yield is what the text was put together from: an ending
that is taken off was there, a text is cut at the first occurrence of a character, and the parts
between all its occurrences are without it.
-/

import PlatformApps.Text.Blank

namespace PlatformApps.Text

theorem withoutEnding?_eq_some_iff {ending text rest : String} :
    withoutEnding? ending text = some rest ↔ text = rest ++ ending := by
  rw [← String.toList_inj, String.toList_append]
  constructor
  · intro found
    simp only [withoutEnding?] at found
    split at found
    · rename_i ends
      cases found
      have whole := List.take_append_drop (text.toList.length - ending.toList.length) text.toList
      rw [ends.2] at whole
      rw [String.toList_ofList, whole]
    · cases found
  · intro joined
    have before : text.toList.length - ending.toList.length = rest.toList.length := by
      rw [joined, List.length_append, Nat.add_sub_cancel]
    have ends : ending.toList.length ≤ text.toList.length ∧
        text.toList.drop (text.toList.length - ending.toList.length) = ending.toList := by
      rw [before, joined, List.drop_left, List.length_append]
      exact ⟨Nat.le_add_left _ _, rfl⟩
    simp only [withoutEnding?]
    rw [if_pos ends, before, joined, List.take_left, String.ofList_toList]

theorem cutAt?_eq_some_iff {char : Char} {chars before behind : List Char} :
    cutAt? char chars = some (before, behind) ↔
      chars = before ++ char :: behind ∧ char ∉ before := by
  induction chars generalizing before with
  | nil => simp [cutAt?]
  | cons first rest ih =>
      by_cases same : first = char
      · subst same
        have found : cutAt? first (first :: rest) = some ([], rest) := by
          simp [cutAt?]
        rw [found, Option.some.injEq, Prod.mk.injEq]
        constructor
        · rintro ⟨rfl, rfl⟩
          exact ⟨rfl, List.not_mem_nil⟩
        · rintro ⟨joined, apart⟩
          cases before with
          | nil => exact ⟨rfl, (List.cons.inj joined).2⟩
          | cons other others =>
              rw [(List.cons.inj joined).1] at apart
              exact absurd List.mem_cons_self apart
      · have later : cutAt? char (first :: rest) =
            (cutAt? char rest).map fun found => (first :: found.1, found.2) := by
          have differs : (first != char) = true := bne_iff_ne.mpr same
          simp only [cutAt?, List.dropWhile_cons, List.takeWhile_cons, differs, if_true]
          split <;> rfl
        rw [later, Option.map_eq_some_iff]
        constructor
        · rintro ⟨⟨front, tail⟩, cut, joined⟩
          cases joined
          obtain ⟨rfl, apart⟩ := ih.mp cut
          refine ⟨rfl, fun inside => ?_⟩
          exact (List.mem_cons.mp inside).elim (fun equal => same equal.symm) apart
        · rintro ⟨joined, apart⟩
          cases before with
          | nil => exact absurd (List.cons.inj joined).1 same
          | cons other others =>
              obtain ⟨rfl, rest⟩ := List.cons.inj joined
              have apart : char ∉ others := fun inside => apart (List.mem_cons_of_mem _ inside)
              exact ⟨(others, behind), ih.mpr ⟨rest, apart⟩, rfl⟩

theorem notMem_of_mem_splitOn {mark : Char} {chars part : List Char}
    (inside : part ∈ chars.splitOn mark) : mark ∉ part := by
  induction chars generalizing part with
  | nil =>
      rw [List.splitOn_nil, List.mem_singleton] at inside
      rw [inside]
      exact List.not_mem_nil
  | cons char rest ih =>
      rw [List.splitOn_cons_eq_if_modifyHead] at inside
      split at inside
      · rcases List.mem_cons.mp inside with rfl | later
        · exact List.not_mem_nil
        · exact ih later
      · rename_i different
        obtain ⟨first, others, parts_eq⟩ :=
          List.exists_cons_of_ne_nil (List.splitOn_ne_nil mark rest)
        rw [parts_eq] at ih
        rw [parts_eq, List.modifyHead_cons] at inside
        rcases List.mem_cons.mp inside with rfl | later
        · intro among
          rcases List.mem_cons.mp among with rfl | among
          · exact different (beq_self_eq_true _)
          · exact ih List.mem_cons_self among
        · exact ih (List.mem_cons_of_mem _ later)

/-- Where each part is read just as what it is the written form of, all parts are. -/
theorem mapM_eq_some_iff {α β : Type} {read : α → Option β} {write : β → α} {fits : β → Prop}
    (reads : ∀ {part value}, read part = some value ↔ part = write value ∧ fits value)
    {parts : List α} {values : List β} :
    parts.mapM read = some values ↔ parts = values.map write ∧ ∀ value ∈ values, fits value := by
  induction parts generalizing values with
  | nil => cases values <;> simp
  | cons part rest ih =>
      rw [List.mapM_cons]
      cases values with
      | nil => simp [Option.bind_eq_some_iff]
      | cons value others =>
          simp only [Option.bind_eq_bind, Option.bind_eq_some_iff, reads, ih, Option.pure_def,
            Option.some.injEq, List.cons.injEq, List.map_cons, List.forall_mem_cons]
          constructor
          · rintro ⟨_, ⟨rfl, fit⟩, _, ⟨rfl, fits⟩, rfl, rfl⟩
            exact ⟨⟨rfl, rfl⟩, fit, fits⟩
          · rintro ⟨⟨rfl, rfl⟩, fit, fits⟩
            exact ⟨value, ⟨rfl, fit⟩, others, ⟨rfl, fits⟩, rfl, rfl⟩

end PlatformApps.Text
