/-
# Nodes

A document is a tree of scalars, lists and objects. A node can be given a name (an
anchor) under which aliases mean it; here an alias is still a name. Missing nodes are empty
plain scalars.
-/

import PlatformApps.Yaml.Tokens

namespace PlatformApps.Yaml

/-- Trees whose names are of a type `ν`. -/
inductive Node (ν : Type) where
  | alias (name : ν)
  | scalar (anchor : Option ν) (tag : Option String) (style : Style) (text : String)
  | list (anchor : Option ν) (items : List (Node ν))
  | map (anchor : Option ν) (entries : List (Node ν × Node ν))
  deriving Inhabited

namespace Node

/-- What stands for nothing. -/
def empty {ν : Type} : Node ν := .scalar none none .plain ""

/-- Abbreviations for types in a document. -/
abbrev Handles := List (String × String)

/-- The full name of a type. -/
def fullTag? (handles : Handles) (handle suffix : String) : Option String :=
  if handle.isEmpty then some suffix
  else (handles.find? fun entry => entry.1 == handle).map fun entry => entry.2 ++ suffix

/-- Name and type in front of a node, in either order. -/
structure Properties where
  anchor : Option String := none
  tag : Option String := none

def properties? (handles : Handles) : List Token → Option (Properties × List Token)
  | .anchor name :: .tag handle suffix :: rest
  | .tag handle suffix :: .anchor name :: rest => do
    pure (⟨some name, ← fullTag? handles handle suffix⟩, rest)
  | .anchor name :: rest => some (⟨some name, none⟩, rest)
  | .tag handle suffix :: rest => do pure (⟨none, ← fullTag? handles handle suffix⟩, rest)
  | rest => some ({}, rest)

/-- Where a node stands. -/
inductive Place where
  /-- Between brackets. -/
  | flow
  /-- In a block. -/
  | block
  /-- As a field name or value in a block, where a list needs no indentation. -/
  | field
  deriving DecidableEq

def startsWith (expected : List Token) (tokens : List Token) : Bool :=
  tokens.head?.any expected.contains

/-- Properties with no node behind them; without properties a node has to follow. -/
def bare? (properties : Properties) (rest : List Token) : Option (Node String × List Token) :=
  if properties.anchor.isNone && properties.tag.isNone then none
  else some (.scalar properties.anchor properties.tag .plain "", rest)

mutual

/-- A node at the front of the tokens. The fuel bounds the number of steps; every node
and every sign takes a token, so the number of tokens, taken four times, is enough. -/
def read? (handles : Handles) : Nat → Place → List Token → Option (Node String × List Token)
  | 0, _, _ => none
  | fuel + 1, place, tokens =>
    match tokens with
    | .alias name :: rest => some (.alias name, rest)
    | _ => do
      let (properties, rest) ← properties? handles tokens
      match rest with
      | .scalar style text :: rest =>
        pure (.scalar properties.anchor properties.tag style text, rest)
      | .listStart :: rest =>
        let (items, rest) ← flowItems? handles fuel true rest
        pure (.list properties.anchor items, rest)
      | .mapStart :: rest =>
        let (entries, rest) ← flowEntries? handles fuel true rest
        pure (.map properties.anchor entries, rest)
      | .blockEntry :: _ =>
        if place = .field then
          let (items, rest) ← looseItems? handles fuel rest
          pure (.list properties.anchor items, rest)
        else bare? properties rest
      | .blockListStart :: inner =>
        if place = .flow then bare? properties rest
        else
          let (items, rest) ← blockItems? handles fuel inner
          pure (.list properties.anchor items, rest)
      | .blockMapStart :: inner =>
        if place = .flow then bare? properties rest
        else
          let (entries, rest) ← blockEntries? handles fuel inner
          pure (.map properties.anchor entries, rest)
      | _ => bare? properties rest

/-- A node, or nothing where one of the given tokens follows. -/
def orEmpty? (handles : Handles) (fuel : Nat) (place : Place) (ends : List Token)
    (tokens : List Token) : Option (Node String × List Token) :=
  match fuel with
  | 0 => none
  | fuel + 1 =>
    if startsWith ends tokens then some (.empty, tokens) else read? handles fuel place tokens

/-- Items behind the beginning of a block list, up to its end. -/
def blockItems? (handles : Handles) : Nat → List Token → Option (List (Node String) × List Token)
  | 0, _ => none
  | fuel + 1, tokens =>
    match tokens with
    | .blockEntry :: rest => do
      let (item, rest) ← orEmpty? handles fuel .block [.blockEntry, .blockEnd] rest
      let (items, rest) ← blockItems? handles fuel rest
      pure (item :: items, rest)
    | .blockEnd :: rest => some ([], rest)
    | _ => none

/-- Items of a list that is not indented; it ends with the last dash. -/
def looseItems? (handles : Handles) : Nat → List Token → Option (List (Node String) × List Token)
  | 0, _ => none
  | fuel + 1, tokens =>
    match tokens with
    | .blockEntry :: rest => do
      let (item, rest) ← orEmpty? handles fuel .block [.blockEntry, .key, .value, .blockEnd] rest
      let (items, rest) ← looseItems? handles fuel rest
      pure (item :: items, rest)
    | _ => some ([], tokens)

/-- A value behind a colon; without a colon it is missing. -/
def fieldValue? (handles : Handles) (fuel : Nat) (place : Place) (ends : List Token)
    (tokens : List Token) : Option (Node String × List Token) :=
  match fuel with
  | 0 => none
  | fuel + 1 =>
    match tokens with
    | .value :: rest => orEmpty? handles fuel place ends rest
    | _ => some (.empty, tokens)

/-- Entries behind the beginning of a block object, up to its end. -/
def blockEntries? (handles : Handles) :
    Nat → List Token → Option (List (Node String × Node String) × List Token)
  | 0, _ => none
  | fuel + 1, tokens =>
    match tokens with
    | .key :: rest => do
      let (name, rest) ← orEmpty? handles fuel .field [.key, .value, .blockEnd] rest
      let (value, rest) ← fieldValue? handles fuel .field [.key, .value, .blockEnd] rest
      let (entries, rest) ← blockEntries? handles fuel rest
      pure ((name, value) :: entries, rest)
    | .blockEnd :: rest => some ([], rest)
    | _ => none

/-- Items between square brackets, each after the first behind a comma. An item may be a
single field. -/
def flowItems? (handles : Handles) :
    Nat → Bool → List Token → Option (List (Node String) × List Token)
  | 0, _, _ => none
  | fuel + 1, isFirst, tokens =>
    let behindComma : Option (List Token) :=
      if isFirst then some tokens
      else
        match tokens with
        | .flowEntry :: rest => some rest
        | _ => none
    match tokens, behindComma with
    | .listEnd :: rest, _ => some ([], rest)
    | _, none => none
    | _, some (.listEnd :: rest) => some ([], rest)
    | _, some (.key :: rest) => do
      let (name, rest) ←
        if startsWith [.value, .flowEntry, .listEnd] rest then some (.empty, rest.drop 1)
        else read? handles fuel .flow rest
      let (value, rest) ← fieldValue? handles fuel .flow [.flowEntry, .listEnd] rest
      let (items, rest) ← flowItems? handles fuel false rest
      pure (.map none [(name, value)] :: items, rest)
    | _, some rest => do
      let (item, rest) ← read? handles fuel .flow rest
      let (items, rest) ← flowItems? handles fuel false rest
      pure (item :: items, rest)

/-- Entries between curly brackets, each after the first behind a comma. An entry without
a key sign is a name without a value. -/
def flowEntries? (handles : Handles) :
    Nat → Bool → List Token → Option (List (Node String × Node String) × List Token)
  | 0, _, _ => none
  | fuel + 1, isFirst, tokens =>
    let behindComma : Option (List Token) :=
      if isFirst then some tokens
      else
        match tokens with
        | .flowEntry :: rest => some rest
        | _ => none
    match tokens, behindComma with
    | .mapEnd :: rest, _ => some ([], rest)
    | _, none => none
    | _, some (.mapEnd :: rest) => some ([], rest)
    | _, some (.key :: rest) => do
      let (name, rest) ← orEmpty? handles fuel .flow [.value, .flowEntry, .mapEnd] rest
      let (value, rest) ← fieldValue? handles fuel .flow [.flowEntry, .mapEnd] rest
      let (entries, rest) ← flowEntries? handles fuel false rest
      pure ((name, value) :: entries, rest)
    | _, some rest => do
      let (name, rest) ← read? handles fuel .flow rest
      let (entries, rest) ← flowEntries? handles fuel false rest
      pure ((name, .empty) :: entries, rest)

end

/-- The directives in front of a document: at most one version, 1.1 or 1.2, and at most
one meaning for each abbreviation. -/
def directives? (version : Bool) (handles : Handles) :
    List Token → Option (Handles × List Token)
  | .version major minor :: rest =>
    if version || major ≠ 1 || (minor ≠ 1 && minor ≠ 2) then none
    else directives? true handles rest
  | .tagHandle handle leading :: rest =>
    if handles.any fun entry => entry.1 == handle then none
    else directives? version (handles ++ [(handle, leading)]) rest
  | rest => some (handles, rest)

/-- The abbreviations that every document knows. -/
def usualHandles : Handles := [("!", "!"), ("!!", "tag:yaml.org,2002:")]

def isDirective : Token → Bool
  | .version .. | .tagHandle .. => true
  | _ => false

/-- The only document of a text: nothing for a text without one, a fault when there is a
second one. -/
def ofTokens? (tokens : List Token) : Option (Option (Node String)) :=
  match tokens with
  | [] => some none
  | first :: _ => do
    let (handles, body) ← directives? false [] tokens
    let handles := handles ++ usualHandles
    let fuel := 4 * tokens.length + 4
    let (node, rest) ←
      if first = .documentStart || isDirective first then
        match body with
        | .documentStart :: body =>
          match body with
          | [] | .documentStart :: _ | .documentEnd :: _ => some (.empty, body)
          | next :: _ =>
            if isDirective next then some (.empty, body) else read? handles fuel .block body
        | _ => none
      else read? handles fuel .block tokens
    if rest.all (· = .documentEnd) then some (some node) else none

/-- The only document of a text. -/
def ofText? (text : String) : Option (Option (Node String)) :=
  (Tokens.ofText? text).bind ofTokens?

end Node

end PlatformApps.Yaml
