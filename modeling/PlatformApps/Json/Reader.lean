/-
# Reading JSON

Reading has two passes, each one walk over its input: characters are grouped into
tokens, and tokens are folded into a written document by a stack of open brackets. What
is well-formed but unusable is noted as such, for only some readers need it: a text with
half of a character that takes two code units, a number out of range, and a bracket
inside of 127 others.
-/

import PlatformApps.Json.Numeral
import PlatformApps.Json.Written

namespace PlatformApps

namespace Json

inductive Token where
  | openArray
  | closeArray
  | openObject
  | closeObject
  | comma
  | colon
  /-- A text, unless it has half a character. -/
  | text (content : Option String)
  | word (content : List Char)

/-- Where the grouping of characters stands. Collected characters are in reverse; a text
is collected as code points, halves of characters among them. -/
inductive LexState where
  | between
  | word (reversed : List Char)
  | text (reversed : List Nat)
  | escape (reversed : List Nat)
  /-- Inside `\uXXXX`: digits still to come, and the value so far. -/
  | code (reversed : List Nat) (missing value : Nat)

private def punctuation? (char : Char) : Option Token :=
  if char = '[' then some .openArray
  else if char = ']' then some .closeArray
  else if char = '{' then some .openObject
  else if char = '}' then some .closeObject
  else if char = ',' then some .comma
  else if char = ':' then some .colon
  else none

def isBlank (char : Char) : Bool := char = ' ' || char = '\n' || char = '\t' || char = '\r'

def hexValue? (char : Char) : Option Nat :=
  if '0' ≤ char ∧ char ≤ '9' then some (char.toNat - 48)
  else if 'a' ≤ char ∧ char ≤ 'f' then some (char.toNat - 87)
  else if 'A' ≤ char ∧ char ≤ 'F' then some (char.toNat - 55)
  else none

private def simpleEscape? (char : Char) : Option Char :=
  if char = '"' ∨ char = '\\' ∨ char = '/' then some char
  else if char = 'b' then some '\x08'
  else if char = 'f' then some '\x0c'
  else if char = 'n' then some '\n'
  else if char = 'r' then some '\r'
  else if char = 't' then some '\t'
  else none

def isFirstHalf (code : Nat) : Bool := 0xD800 ≤ code && code < 0xDC00

def isSecondHalf (code : Nat) : Bool := 0xDC00 ≤ code && code < 0xE000

/-- The characters of code points in reverse, where a first half goes together with the
second half behind it. The second half under way is kept until its first half is met. -/
def joinHalves (behind : List Char) (second : Option Nat) : List Nat → Option (List Char)
  | [] => if second.isSome then none else some behind
  | code :: rest =>
    match second with
    | some low =>
      if isFirstHalf code then
        joinHalves (Char.ofNat (0x10000 + (code - 0xD800) * 0x400 + (low - 0xDC00)) :: behind)
          none rest
      else none
    | none =>
      if isSecondHalf code then joinHalves behind (some code) rest
      else if isFirstHalf code then none
      else joinHalves (Char.ofNat code :: behind) none rest

/-- One character outside of texts: the tokens it ends or is, and the next state. -/
private def outside (pending : List Token) (char : Char) : Option (List Token × LexState) :=
  if isBlank char then some (pending, .between)
  else if char = '"' then some (pending, .text [])
  else match punctuation? char with
    | some token => some (pending ++ [token], .between)
    | none => none

/-- One step of grouping. -/
def LexState.step (state : LexState) (char : Char) : Option (List Token × LexState) :=
  match state with
  | .between =>
    match outside [] char with
    | some result => some result
    | none => some ([], .word [char])
  | .word reversed =>
    match outside [.word reversed.reverse] char with
    | some result => some result
    | none => some ([], .word (char :: reversed))
  | .text reversed =>
    if char = '"' then some ([.text ((joinHalves [] none reversed).map String.ofList)], .between)
    else if char = '\\' then some ([], .escape reversed)
    else if char.toNat < 0x20 then none
    else some ([], .text (char.toNat :: reversed))
  | .escape reversed =>
    if char = 'u' then some ([], .code reversed 4 0)
    else (simpleEscape? char).map fun plain => ([], .text (plain.toNat :: reversed))
  | .code reversed missing value =>
    (hexValue? char).map fun digit =>
      let value := value * 16 + digit
      if missing ≤ 1 then ([], .text (value :: reversed))
      else ([], .code reversed (missing - 1) value)

/-- The tokens of a text after those already found, or nothing when a text or an escape
is broken. -/
def tokens? (state : LexState) (reversed : List Token) : List Char → Option (List Token)
  | [] =>
    match state with
    | .between => some reversed.reverse
    | .word chars => some ((.word chars.reverse :: reversed).reverse)
    | _ => none
  | char :: rest =>
    match state.step char with
    | some (found, next) => tokens? next (found.reverse ++ reversed) rest
    | none => none

/-- A word that stands for a value. -/
def word? (chars : List Char) : Option Written :=
  if chars = ['n', 'u', 'l', 'l'] then some .null
  else if chars = ['t', 'r', 'u', 'e'] then some (.bool true)
  else if chars = ['f', 'a', 'l', 's', 'e'] then some (.bool false)
  else
    (Numeral.ofChars? chars).map fun
    | .int value => .int value
    | .float value => .float value
    | .tooLarge => .unusable

/-- Fields of an object, last first; a name with half a character is nothing. -/
abbrev FieldStack := List (Option String × Written)

/-- An open bracket with what it holds so far. -/
inductive Frame where
  | array (reversed : List Written)
  | object (fields : FieldStack) (name : Option String)

/-- What may come next. -/
inductive Awaiting where
  | value
  | valueOrClose
  | nameOrClose
  | name (fields : FieldStack)
  | colon (fields : FieldStack) (name : Option String)
  | separator (frame : Frame)
  | nothing (written : Written)

/-- The state once a value is complete. -/
private def complete (value : Written) : List Frame → List Frame × Awaiting
  | [] => ([], .nothing value)
  | .array reversed :: outer => (outer, .separator (.array (value :: reversed)))
  | .object fields name :: outer => (outer, .separator (.object ((name, value) :: fields) name))

/-- How many brackets may be open around a bracket that is to be used. -/
def deepest : Nat := 126

/-- The state once a bracket is closed, inside of those that are still open. -/
private def close (value : Written) (outer : List Frame) : List Frame × Awaiting :=
  complete (if deepest < outer.length then .unusable else value) outer

/-- The object of the fields, which all need a name. -/
private def objectOf (fields : FieldStack) : Written :=
  match fields.reverse.mapM fun field => field.1.map (·, field.2) with
  | some fields => .obj fields
  | none => .unusable

/-- A token where a value is expected. -/
private def startValue (open_ : List Frame) : Token → Option (List Frame × Awaiting)
  | .text (some content) => some (complete (.str content) open_)
  | .text none => some (complete .unusable open_)
  | .word content => (word? content).map (complete · open_)
  | .openArray => some (.array [] :: open_, .valueOrClose)
  | .openObject => some (open_, .nameOrClose)
  | _ => none

/-- Folds tokens into a document. -/
def assemble (open_ : List Frame) (awaiting : Awaiting) : List Token → Option Written
  | [] =>
    match awaiting with
    | .nothing written => some written
    | _ => none
  | token :: rest =>
    match awaiting, token with
    | .value, token => do
      let (open_, awaiting) ← startValue open_ token
      assemble open_ awaiting rest
    | .valueOrClose, .closeArray =>
      let (open_, awaiting) := close (.arr []) (open_.drop 1)
      assemble open_ awaiting rest
    | .valueOrClose, token => do
      let (open_, awaiting) ← startValue open_ token
      assemble open_ awaiting rest
    | .nameOrClose, .closeObject =>
      let (open_, awaiting) := close (.obj []) open_
      assemble open_ awaiting rest
    | .nameOrClose, .text name => assemble open_ (.colon [] name) rest
    | .name fields, .text name => assemble open_ (.colon fields name) rest
    | .colon fields name, .colon => assemble (.object fields name :: open_) .value rest
    | .separator (.array reversed), .comma => assemble (.array reversed :: open_) .value rest
    | .separator (.array reversed), .closeArray =>
      let (open_, awaiting) := close (.arr reversed.reverse) open_
      assemble open_ awaiting rest
    | .separator (.object fields _), .comma => assemble open_ (.name fields) rest
    | .separator (.object fields _), .closeObject =>
      let (open_, awaiting) := close (objectOf fields) open_
      assemble open_ awaiting rest
    | _, _ => none

end Json

/-- What a text says. -/
def Written.parse? (text : String) : Option Written := do
  let tokens ← Json.tokens? .between [] text.toList
  Json.assemble [] .value tokens

/-- The document a text stands for. -/
def Json.parse? (text : String) : Option Json := (Written.parse? text).bind Written.toJson?

end PlatformApps
