/-
# Documents

A document is a node together with the nodes that its aliases mean. Anchors are numbered
by how many different names stand in front of them, and an alias means the last node of
the document with the number of its name. A node is read as the type that is wanted: a
scalar is a text whatever it looks like, and an empty one is an object or a list without
entries.
-/

import PlatformApps.Table
import PlatformApps.Yaml.Node

namespace PlatformApps.Yaml

namespace Node

mutual

/-- Numbers the anchors and aliases of a tree, given the numbers of the names in front of
it; nothing when an alias has no anchor in front of it. -/
def number? (known : Table String Nat) : Node String → Option (Node Nat × Table String Nat)
  | .alias name => (known.find? name).map fun number => (.alias number, known)
  | .scalar anchor tag style text =>
    let (number, known) := note known anchor
    some (.scalar number tag style text, known)
  | .list anchor items => do
    let (number, known) := note known anchor
    let (items, known) ← numberItems? known items
    pure (.list number items, known)
  | .map anchor entries => do
    let (number, known) := note known anchor
    let (entries, known) ← numberEntries? known entries
    pure (.map number entries, known)
  termination_by structural node => node

/-- The number of an anchor. -/
def note (known : Table String Nat) : Option String → Option Nat × Table String Nat
  | none => (none, known)
  | some name =>
    let number := known.toList.length
    (some number, known.insert name number)

def numberItems? (known : Table String Nat) :
    List (Node String) → Option (List (Node Nat) × Table String Nat)
  | [] => some ([], known)
  | item :: rest => do
    let (item, known) ← number? known item
    let (rest, known) ← numberItems? known rest
    pure (item :: rest, known)
  termination_by structural items => items

def numberEntries? (known : Table String Nat) :
    List (Node String × Node String) → Option (List (Node Nat × Node Nat) × Table String Nat)
  | [] => some ([], known)
  | (name, value) :: rest => do
    let (name, known) ← number? known name
    let (value, known) ← number? known value
    let (rest, known) ← numberEntries? known rest
    pure ((name, value) :: rest, known)
  termination_by structural entries => entries

end

mutual

/-- The nodes with an anchor, in the order of their beginnings. -/
def anchored : Node Nat → List (Nat × Node Nat)
  | .alias _ => []
  | .scalar anchor tag style text =>
    (anchor.map fun number => (number, Node.scalar anchor tag style text)).toList
  | .list anchor items =>
    (anchor.map fun number => (number, Node.list anchor items)).toList ++ anchoredItems items
  | .map anchor entries =>
    (anchor.map fun number => (number, Node.map anchor entries)).toList ++ anchoredEntries entries
  termination_by structural node => node

def anchoredItems : List (Node Nat) → List (Nat × Node Nat)
  | [] => []
  | item :: rest => anchored item ++ anchoredItems rest
  termination_by structural items => items

def anchoredEntries : List (Node Nat × Node Nat) → List (Nat × Node Nat)
  | [] => []
  | (name, value) :: rest => anchored name ++ anchored value ++ anchoredEntries rest
  termination_by structural entries => entries

end

end Node

/-- The nodes that aliases mean, the last one of a number first. -/
abbrev Targets := List (Nat × Node Nat)

/-- Reads a value from a node of a document. -/
def Reader (α : Type) := Targets → Node Nat → Option α

namespace Reader

/-- The node itself, or the one that an alias means. -/
def resolve (targets : Targets) (node : Node Nat) : Node Nat :=
  match node with
  | .alias number =>
    match targets.find? fun target => target.1 == number with
    | some target => target.2
    | none => .empty
  | other => other

/-- Any scalar, as it is written. -/
def text : Reader String := fun targets node =>
  match resolve targets node with
  | .scalar _ _ _ text => some text
  | _ => none

/-- A truth value without quotes, or a literal block of that type. -/
def truth : Reader Bool := fun targets node =>
  match resolve targets node with
  | .scalar _ tag style text =>
    if style = .plain || (style = .literal && tag == some "tag:yaml.org,2002:bool") then
      Word.truth? text
    else none
  | _ => none

/-- A value, or nothing where a word without quotes says so. A node of the null type has
to be such a word; one of another type never is. -/
def nullable {α : Type} (reader : Reader α) : Reader (Option α) := fun targets node =>
  match resolve targets node with
  | .scalar _ tag style text =>
    let isNull := Word.isNull text
    if style ≠ .plain then (reader targets node).map some
    else
      match tag with
      | none => if isNull then some none else (reader targets node).map some
      | some tag =>
        if tag ≠ "tag:yaml.org,2002:null" then (reader targets node).map some
        else if isNull && !text.isEmpty then some none else none
  | _ => (reader targets node).map some

/-- The entries of an object. -/
def entries : Reader (List (Node Nat × Node Nat)) := fun targets node =>
  match resolve targets node with
  | .map _ entries => some entries
  | .scalar _ _ style text => if style = .plain && text.isEmpty then some [] else none
  | _ => none

/-- The items of a list. -/
def list {α : Type} (reader : Reader α) : Reader (List α) := fun targets node =>
  match resolve targets node with
  | .list _ items => items.mapM (reader targets)
  | .scalar _ _ style text => if style = .plain && text.isEmpty then some [] else none
  | _ => none

/-- An object with free names; the last value of a repeated name stays. -/
def table {α : Type} (reader : Reader α) : Reader (Table String α) := fun targets node => do
  let found ← entries targets node
  let read ← found.mapM fun entry => do
    pure (← text targets entry.1, ← reader targets entry.2)
  pure (Table.ofList read)

/-- The fields of a record with the given names. Other fields are ignored; a repeated
one of the names is a fault. -/
def fields (names : List String) : Reader (List (String × Node Nat)) := fun targets node => do
  let found ← entries targets node
  let named ← found.mapM fun entry => do pure (← text targets entry.1, entry.2)
  let known := named.filter fun field => names.contains field.1
  if (known.map (·.1)).Nodup then some known else none

/-- A field of a record, or its default where it is absent. -/
def defaulted {α : Type} (targets : Targets) (fields : List (String × Node Nat)) (name : String)
    (default : α) (reader : Reader α) : Option α :=
  match fields.find? fun field => field.1 == name with
  | some field => reader targets field.2
  | none => some default

/-- Reads the only document of a text; a text without a document is an empty scalar. -/
def read? {α : Type} (reader : Reader α) (text : String) : Option α := do
  let node ← Node.ofText? text
  let (node, _) ← (node.getD .empty).number? ∅
  reader node.anchored.reverse node

end Reader

end PlatformApps.Yaml
