/-
# Merge patches

A merge patch sets the fields it names, removes those it names with `null`, and
descends into objects; anything that is not an object replaces what was there
(RFC 7386). `mergePatch` applies a patch and `mergeDiff` computes one.
-/

import PlatformApps.Json.Basic

namespace PlatformApps.Json

mutual

/-- The document after a patch. -/
def mergePatch (target : Json) : Json → Json
  | .obj changes => .obj (mergeFields (target.fields?.getD []) changes)
  | replacement => replacement
  termination_by structural patch => patch

/-- The fields of an object after the changes of a patch, taken in order. -/
def mergeFields (fields : List (String × Json)) : List (String × Json) → List (String × Json)
  | [] => fields
  | (name, change) :: rest =>
    mergeFields
      (if change.isNull then Entries.erase name fields
        else
          Entries.insert name (mergePatch ((Entries.find? name fields).getD .null) change) fields)
      rest
  termination_by structural changes => changes

end

mutual

/-- A merge patch that turns `current` into the given document; `none` when they are
the same already. Fields that are not wanted are removed. -/
def mergeDiff (current : Json) : Json → Option Json
  | .obj wanted =>
    match current.fields? with
    | some known =>
      let removals := known.filterMap fun field =>
        if (Entries.find? field.1 wanted).isSome then none else some (field.1, Json.null)
      let changes := removals.foldl (fun changes removal =>
        Entries.insert removal.1 removal.2 changes) (diffFields known wanted)
      if changes.isEmpty then none else some (.obj changes)
    | none => some (.obj wanted)
  | desired => if current.same desired then none else some desired
  termination_by structural desired => desired

/-- The changes of the wanted fields that differ from the known ones. -/
def diffFields (known : List (String × Json)) : List (String × Json) → List (String × Json)
  | [] => []
  | (name, wanted) :: rest =>
    let others := diffFields known rest
    match Entries.find? name known with
    | some current =>
      match mergeDiff current wanted with
      | some change => (name, change) :: others
      | none => others
    | none => (name, wanted) :: others
  termination_by structural fields => fields

end

end PlatformApps.Json
