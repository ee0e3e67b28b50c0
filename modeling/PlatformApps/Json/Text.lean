/-
# JSON as text

The compact form: no blanks, fields in the order of the object, and only the escapes
that JSON requires.
-/

import PlatformApps.Json.Basic

namespace PlatformApps.Json

private def hexDigit (value : Nat) : Char := (Nat.toDigits 16 value).headD '0'

/-- A character inside a JSON string. -/
def escapeChar (char : Char) : List Char :=
  if char = '"' then ['\\', '"']
  else if char = '\\' then ['\\', '\\']
  else if char = '\n' then ['\\', 'n']
  else if char = '\r' then ['\\', 'r']
  else if char = '\t' then ['\\', 't']
  else if char = '\x08' then ['\\', 'b']
  else if char = '\x0c' then ['\\', 'f']
  else if char.toNat < 0x20 then
    ['\\', 'u', '0', '0', hexDigit (char.toNat / 16), hexDigit (char.toNat % 16)]
  else [char]

/-- A text in quotes. -/
def quote (text : String) : String :=
  "\"" ++ String.ofList (text.toList.flatMap escapeChar) ++ "\""

/-- Numbers keep positional notation for sixteen digits before the point and for four
zeros behind it. -/
def numberLayout : Binary64.Layout := ⟨16, -5⟩

mutual

/-- The compact text of a document. -/
def render : Json → String
  | .null => "null"
  | .bool true => "true"
  | .bool false => "false"
  | .int value => toString value
  | .float value => value.render numberLayout
  | .str text => quote text
  | .arr [] => "[]"
  | .arr (item :: rest) => "[" ++ render item ++ renderItems rest ++ "]"
  | .obj [] => "\x7b\x7d"
  | .obj ((name, value) :: rest) =>
    "\x7b" ++ quote name ++ ":" ++ render value ++ renderFields rest ++ "\x7d"
  termination_by structural document => document

def renderItems : List Json → String
  | [] => ""
  | item :: rest => "," ++ render item ++ renderItems rest
  termination_by structural items => items

def renderFields : List (String × Json) → String
  | [] => ""
  | (name, value) :: rest => "," ++ quote name ++ ":" ++ render value ++ renderFields rest
  termination_by structural fields => fields

end

end PlatformApps.Json
