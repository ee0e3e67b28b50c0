/-
# What the text of a selector says

Whoever gets a selector as a text cuts it at its commas and each part at its first equals sign.
What is read so has the text that was read, and a selector is read from its text just when that
shows where keys and requirements end. Labels satisfy a text just when they satisfy what is read
from it. Of the objects that a selector matches, one more requirement and its opposite take each
object once.
-/

import Mathlib.Data.List.Basic
import PlatformApps.Proofs.Store.Apps
import PlatformApps.Proofs.Text

namespace PlatformApps

namespace Requirement

/-- Can the end of the key be told from the text? No equals sign comes before it, and no
exclamation mark that would be taken for a part of the sign. -/
def ShowsKey : Requirement → Prop
  | .equals key _ => '=' ∉ key.toList ∧ ∀ other, key ≠ other ++ "!"
  | .differs key _ => '=' ∉ key.toList

/-- Is the key without the characters that divide a text, and the value without commas? -/
def Plain : Requirement → Prop
  | .equals key value | .differs key value =>
    (',' ∉ key.toList ∧ '=' ∉ key.toList ∧ '!' ∉ key.toList) ∧ ',' ∉ value.toList

instance : DecidablePred Plain
  | .equals _ _ | .differs _ _ => inferInstanceAs (Decidable ((_ ∧ _ ∧ _) ∧ _))

theorem Plain.showsKey {requirement : Requirement} (plain : requirement.Plain) :
    requirement.ShowsKey := by
  cases requirement with
  | equals key value =>
      obtain ⟨⟨-, noEquals, noMark⟩, -⟩ := plain
      refine ⟨noEquals, ?_⟩
      rintro other rfl
      exact noMark (by simp)
  | differs key value => exact plain.1.2.1

theorem Plain.noComma {requirement : Requirement} (plain : requirement.Plain) :
    ',' ∉ requirement.render.toList := by
  cases requirement with
  | equals key value => simp [render, plain.1.1, plain.2]
  | differs key value => simp [render, plain.1.1, plain.2]

theorem holds_differs (labels : Labels) (key value : String) :
    (differs key value).holds labels = !(equals key value).holds labels := rfl

theorem holds_differs_of_missing {labels : Labels} {key : String}
    (missing : labels.find? key = none) (value : String) :
    (differs key value).holds labels = true := by
  rw [holds, missing]
  rfl

end Requirement

/-- What a part of a selector's text says: a key, a sign and a value. -/
structure Clause where
  key : String
  isNegated : Bool
  value : String

namespace Clause

/-- The clause with these texts on the sides of its first equals sign. An exclamation mark right
before that belongs to the sign. -/
def ofSides (front value : String) : Clause :=
  match Text.withoutEnding? "!" front with
  | some key => ⟨key, true, value⟩
  | none => ⟨front, false, value⟩

def read? (part : List Char) : Option Clause :=
  (Text.cutAt? '=' part).map fun sides => ofSides (String.ofList sides.1) (String.ofList sides.2)

/-- The clauses of a text. An empty text has none, though cutting it yields an empty part. -/
def ofText? (text : String) : Option (List Clause) :=
  if text = "" then some [] else (text.toList.splitOn ',').mapM read?

/-- Do labels satisfy the clause? Where its label is missing, they do just when it is negated. -/
def holds (labels : Labels) (clause : Clause) : Bool :=
  match labels.find? clause.key with
  | some found => (found == clause.value) != clause.isNegated
  | none => clause.isNegated

def requirement : Clause → Requirement
  | ⟨key, true, value⟩ => .differs key value
  | ⟨key, false, value⟩ => .equals key value

/-- What stands before the first equals sign. -/
def front : Clause → String
  | ⟨key, true, _⟩ => key ++ "!"
  | ⟨key, false, _⟩ => key

theorem render_requirement (clause : Clause) :
    clause.requirement.render = clause.front ++ "=" ++ clause.value := by
  obtain ⟨key, _ | _, value⟩ := clause
  · rfl
  · have sign : "!=" = "!" ++ "=" := rfl
    simp only [requirement, Requirement.render, front, sign, String.append_assoc]

theorem showsKey_requirement_iff {clause : Clause} : clause.requirement.ShowsKey ↔
    '=' ∉ clause.front.toList ∧
      (clause.isNegated = false → ∀ other, clause.key ≠ other ++ "!") := by
  obtain ⟨key, _ | _, value⟩ := clause <;> simp [requirement, Requirement.ShowsKey, front]

theorem holds_requirement (labels : Labels) (clause : Clause) :
    clause.requirement.holds labels = clause.holds labels := by
  obtain ⟨key, isNegated, value⟩ := clause
  rcases found : labels.find? key with _ | _ <;> cases isNegated <;>
    simp [requirement, Requirement.holds, holds, found, bne]

theorem ofSides_eq_iff {front value : String} {clause : Clause} :
    ofSides front value = clause ↔ front = clause.front ∧ value = clause.value ∧
      (clause.isNegated = false → ∀ other, clause.key ≠ other ++ "!") := by
  constructor
  · rintro rfl
    rw [ofSides]
    split
    · rename_i key ends
      exact ⟨Text.withoutEnding?_eq_some_iff.mp ends, rfl, nofun⟩
    · rename_i kept
      refine ⟨rfl, rfl, fun _ other ends => ?_⟩
      cases kept.symm.trans (Text.withoutEnding?_eq_some_iff.mpr ends)
  · rintro ⟨rfl, rfl, endless⟩
    obtain ⟨key, _ | _, value⟩ := clause
    · have kept : Text.withoutEnding? "!" key = none :=
        Option.eq_none_iff_forall_ne_some.mpr fun other found =>
          endless rfl other (Text.withoutEnding?_eq_some_iff.mp found)
      simp only [ofSides, front, kept]
    · have ends : Text.withoutEnding? "!" (key ++ "!") = some key :=
        Text.withoutEnding?_eq_some_iff.mpr rfl
      simp only [ofSides, front, ends]

/-- A part is read as a clause just when it is the text of that, and shows where its key ends. -/
theorem read?_eq_some_iff {part : List Char} {clause : Clause} :
    read? part = some clause ↔
      part = clause.requirement.render.toList ∧ clause.requirement.ShowsKey := by
  rw [read?, Option.map_eq_some_iff, render_requirement, showsKey_requirement_iff]
  constructor
  · rintro ⟨⟨before, behind⟩, cut, sides⟩
    obtain ⟨front_eq, value_eq, endless⟩ := ofSides_eq_iff.mp sides
    obtain ⟨rfl, apart⟩ := Text.cutAt?_eq_some_iff.mp cut
    rw [← front_eq, ← value_eq]
    exact ⟨by simp, by simpa using apart, endless⟩
  · rintro ⟨rfl, apart, endless⟩
    refine ⟨(clause.front.toList, clause.value.toList), ?cut, ?sides⟩
    case cut => exact Text.cutAt?_eq_some_iff.mpr ⟨by simp, apart⟩
    case sides => exact ofSides_eq_iff.mpr ⟨by simp, by simp, endless⟩

theorem requirement_surjective : Function.Surjective requirement
  | .equals key value => ⟨⟨key, false, value⟩, rfl⟩
  | .differs key value => ⟨⟨key, true, value⟩, rfl⟩

theorem intercalate_render_eq_empty_iff {clauses : List Clause} :
    ",".intercalate (clauses.map fun clause => clause.requirement.render) = "" ↔ clauses = [] := by
  cases clauses with
  | nil => simp
  | cons clause rest => cases rest <;> simp [render_requirement]

/-- A text is read as clauses just when it is their text, and shows where they and their keys
end. -/
theorem ofText?_eq_some_iff {text : String} {clauses : List Clause} :
    ofText? text = some clauses ↔
      text = ",".intercalate (clauses.map fun clause => clause.requirement.render) ∧
        ∀ clause ∈ clauses,
          clause.requirement.ShowsKey ∧ ',' ∉ clause.requirement.render.toList := by
  rw [ofText?]
  split
  · rename_i empty
    rw [empty, eq_comm (a := ""), intercalate_render_eq_empty_iff, Option.some.injEq, eq_comm]
    exact ⟨fun none => ⟨none, by simp [none]⟩, And.left⟩
  · rename_i filled
    -- what is left to compare are the parts of the text with the texts of the clauses
    rw [Text.mapM_eq_some_iff read?_eq_some_iff]
    constructor
    · rintro ⟨parts_eq, shows⟩
      refine ⟨?_, fun clause inside => ⟨shows clause inside, ?_⟩⟩
      · rw [← String.toList_inj, String.toList_intercalate, List.map_map]
        exact (List.intercalate_splitOn ',').symm.trans (congrArg _ parts_eq)
      · have among : clause.requirement.render.toList ∈ text.toList.splitOn ',' := by
          rw [parts_eq]
          exact List.mem_map_of_mem inside
        exact Text.notMem_of_mem_splitOn among
    · rintro ⟨rfl, shows⟩
      refine ⟨?_, fun clause inside => (shows clause inside).1⟩
      rw [String.toList_intercalate, List.map_map]
      refine List.splitOn_intercalate ',' (List.forall_mem_map.mpr fun clause inside => ?_) ?_
      · exact (shows clause inside).2
      -- without a clause there would be one empty part
      · exact mt List.map_eq_nil_iff.mp (mt intercalate_render_eq_empty_iff.mpr filled)

end Clause

namespace Selector

/-- Reads a selector. -/
def ofText? (text : String) : Option Selector :=
  (Clause.ofText? text).map fun clauses => ⟨clauses.map Clause.requirement⟩

/-- Do labels satisfy a text, clause by clause? -/
def evaluate? (text : String) (labels : Labels) : Option Bool :=
  (Clause.ofText? text).map fun clauses => clauses.all (Clause.holds labels)

/-- Do commas in the text stand between requirements only, and do those show their keys? -/
def Legible (selector : Selector) : Prop :=
  ∀ requirement ∈ selector.requirements,
    requirement.ShowsKey ∧ ',' ∉ requirement.render.toList

def Plain (selector : Selector) : Prop :=
  ∀ requirement ∈ selector.requirements, requirement.Plain

instance : DecidablePred Plain := fun selector => List.decidableBAll _ selector.requirements

/-- What a text says of labels is what the selector read from it says of them. -/
theorem evaluate?_eq_map_isMatch (text : String) (labels : Labels) :
    evaluate? text labels = (ofText? text).map fun selector => selector.isMatch labels := by
  rw [evaluate?, ofText?, Option.map_map]
  congr 1
  funext clauses
  rw [Function.comp_apply, isMatch, List.all_map]
  congr 1
  funext clause
  exact (clause.holds_requirement labels).symm

/-- A text is read as a selector just when it is the text of that, and shows where everything in
it ends. -/
theorem ofText?_eq_some_iff {text : String} {selector : Selector} :
    ofText? text = some selector ↔ text = selector.render ∧ selector.Legible := by
  constructor
  · intro given
    obtain ⟨clauses, found, rfl⟩ := Option.map_eq_some_iff.mp given
    obtain ⟨written, shows⟩ := Clause.ofText?_eq_some_iff.mp found
    refine ⟨?_, List.forall_mem_map.mpr shows⟩
    rw [render, List.map_map]
    exact written
  · rintro ⟨rfl, legible⟩
    obtain ⟨requirements⟩ := selector
    obtain ⟨clauses, rfl⟩ := List.map_surjective_iff.mpr Clause.requirement_surjective requirements
    have found : Clause.ofText? (render ⟨clauses.map Clause.requirement⟩) = some clauses := by
      refine Clause.ofText?_eq_some_iff.mpr ⟨?_, List.forall_mem_map.mp legible⟩
      rw [render, List.map_map]
      rfl
    rw [ofText?, found, Option.map_some]

/-- A key that ends with an exclamation mark loses it to the sign. -/
example : ofText? (render ⟨[.equals "tier!" "a"]⟩) = some ⟨[.differs "tier" "a"]⟩ := by
  decide +kernel

theorem Plain.legible {selector : Selector} (plain : selector.Plain) : selector.Legible := by
  intro requirement inside
  exact ⟨(plain requirement inside).showsKey, (plain requirement inside).noComma⟩

theorem Legible.evaluate?_render {selector : Selector} (legible : selector.Legible)
    (labels : Labels) :
    evaluate? selector.render labels = some (selector.isMatch labels) := by
  rw [evaluate?_eq_map_isMatch, ofText?_eq_some_iff.mpr ⟨rfl, legible⟩, Option.map_some]

/-- Selectors that are told from their texts have the same text only if they are the same. -/
theorem Legible.eq_of_render_eq {selector other : Selector} (legible : selector.Legible)
    (also : other.Legible) (same : selector.render = other.render) : selector = other := by
  have read := ofText?_eq_some_iff.mpr ⟨same, also⟩
  exact Option.some.inj ((ofText?_eq_some_iff.mpr ⟨rfl, legible⟩).symm.trans read)

/-! ## One more requirement, and its opposite -/

/-- A selector that asks for one thing more. -/
def adding (base : Selector) (requirement : Requirement) : Selector :=
  ⟨base.requirements ++ [requirement]⟩

/-- The objects that a selector matches. -/
def among {α : Type} (selector : Selector) (labelsOf : α → Labels) (objects : List α) : List α :=
  objects.filter fun object => selector.isMatch (labelsOf object)

@[simp] theorem isMatch_adding (base : Selector) (requirement : Requirement) (labels : Labels) :
    (base.adding requirement).isMatch labels =
      (base.isMatch labels && requirement.holds labels) := by
  rw [isMatch, adding, List.all_append, List.all_cons, List.all_nil, Bool.and_true, isMatch]

theorem among_adding {α : Type} (base : Selector) (requirement : Requirement)
    (labelsOf : α → Labels) (objects : List α) :
    (base.adding requirement).among labelsOf objects =
      (base.among labelsOf objects).filter fun object =>
        requirement.holds (labelsOf object) := by
  rw [among, among, List.filter_filter]
  congr 1
  funext object
  rw [isMatch_adding, Bool.and_comm]

/-- Two selectors share what a third one matches: neither matches anything else, none of it is
matched by both, and of any objects none is lost or taken twice. -/
structure SplitsInto (base one other : Selector) : Prop where
  isMatch_iff : ∀ labels, base.isMatch labels = true ↔
    one.isMatch labels = true ∨ other.isMatch labels = true
  disjoint : ∀ labels, ¬(one.isMatch labels = true ∧ other.isMatch labels = true)
  perm : ∀ {α : Type} (labelsOf : α → Labels) (objects : List α),
    (one.among labelsOf objects ++ other.among labelsOf objects).Perm
      (base.among labelsOf objects)

theorem splitsInto_adding (base : Selector) (key value : String) :
    base.SplitsInto (base.adding (.equals key value)) (base.adding (.differs key value)) where
  isMatch_iff labels := by
    rw [isMatch_adding, isMatch_adding, ← Bool.or_eq_true, ← Bool.and_or_distrib_left,
      Requirement.holds_differs, Bool.or_not_self, Bool.and_true]
  disjoint labels := by
    rw [isMatch_adding, isMatch_adding, Requirement.holds_differs, Bool.and_eq_true,
      Bool.and_eq_true]
    rintro ⟨⟨-, holds⟩, ⟨-, fails⟩⟩
    rw [holds] at fails
    cases fails
  perm labelsOf objects := by
    rw [among_adding, among_adding]
    exact List.filter_append_perm _ _

end Selector

namespace Memory

variable (store : Memory) (space : String)

/-- The Apps of a namespace, in the order of a listing. -/
def appsIn : List App := (store.apps.toList.filter fun entry => entry.1.1 == space).map (·.2)

/-- The Apps of a namespace whose labels satisfy a text. -/
def listedBy (text : String) : List App :=
  (store.appsIn space).filter fun app => Selector.evaluate? text app.labels == some true

theorem listApps_eq_among (selector : Selector) :
    store.listApps space selector = selector.among App.labels (store.appsIn space) := by
  rw [listApps, Selector.among, appsIn, List.filter_map, List.filter_filter]
  congr 2
  funext entry
  exact Bool.and_comm _ _

/-- The text of a selector lists what the selector does. -/
theorem listedBy_render {selector : Selector} (legible : selector.Legible) :
    store.listedBy space selector.render = store.listApps space selector := by
  rw [listApps_eq_among, listedBy, Selector.among]
  congr 1
  funext app
  rw [legible.evaluate?_render]
  cases selector.isMatch app.labels <;> rfl

/-- The Apps of a cluster are the ones that this operator manages and the ones that it does not,
each of them once. -/
theorem managed_append_unmanaged_perm (id : String) :
    (store.listApps space (managedSelector id) ++ store.listApps space (unmanagedSelector id)).Perm
      (store.listApps space ⟨[.equals Label.cluster id]⟩) := by
  rw [listApps_eq_among, listApps_eq_among, listApps_eq_among]
  exact (Selector.splitsInto_adding ⟨[.equals Label.cluster id]⟩ Label.managedBy projectName).perm
    App.labels (store.appsIn space)

end Memory

end PlatformApps
