/-
# Documents as YAML text

Block style with two blanks for each level; lists stand at the level of their field, and
the first field of an object in a list stands behind the dash. Fields keep the order of
the object. Lines are never folded.
-/

import PlatformApps.Json.Text
import PlatformApps.Yaml.Style

namespace PlatformApps.Yaml

/-- A number in upper-case hexadecimal digits of a fixed width. -/
def hexadecimal (width value : Nat) : List Char :=
  let digits := (Nat.toDigits 16 value).map Char.toUpper
  List.replicate (width - digits.length) '0' ++ digits

/-- A character between double quotes. -/
def escape (char : Char) : List Char :=
  let code := char.toNat
  let letter? : Option Char :=
    match code with
    | 0x00 => some '0'
    | 0x07 => some 'a'
    | 0x08 => some 'b'
    | 0x09 => some 't'
    | 0x0A => some 'n'
    | 0x0B => some 'v'
    | 0x0C => some 'f'
    | 0x0D => some 'r'
    | 0x1B => some 'e'
    | 0x22 => some '"'
    | 0x5C => some '\\'
    | 0x85 => some 'N'
    | 0x2028 => some 'L'
    | 0x2029 => some 'P'
    | _ => none
  match letter? with
  | some letter => ['\\', letter]
  | none =>
    if isVisible char then [char]
    else if code ≤ 0xFF then '\\' :: 'x' :: hexadecimal 2 code
    else if code ≤ 0xFFFF then '\\' :: 'u' :: hexadecimal 4 code
    else '\\' :: 'U' :: hexadecimal 8 code

def pad (indent : Nat) : List Char := List.replicate indent ' '

/-- Characters of several lines, each line that is not empty behind a padding. `fresh`
tells whether a line begins here. -/
def padLines (indent : Nat) (write : Char → List Char) : (fresh : Bool) → List Char → List Char
  | _, [] => []
  | fresh, char :: rest =>
    if isBreak char then char :: padLines indent write true rest
    else (if fresh then pad indent else []) ++ write char ++ padLines indent write false rest

/-- Between single quotes a quote is written twice. -/
def doubleQuote (char : Char) : List Char := if char = '\'' then ['\'', '\''] else [char]

def singleQuoted (indent : Nat) (chars : List Char) : List Char :=
  let closing := if chars.getLast?.any isBreak then pad indent else []
  '\'' :: padLines indent doubleQuote false chars ++ closing ++ ['\'']

/-- The mark in front of a block that says which line feeds at its end are kept: none,
one, or all. -/
def keeping (chars : List Char) : List Char :=
  match chars.reverse with
  | [] => ['-']
  | last :: before =>
    if !isBreak last then ['-'] else if before.head?.all isBreak then ['+'] else []

/-- A block of lines with its final line feed. -/
def literal (indent : Nat) (chars : List Char) : List Char :=
  let opening := if chars.head?.any (fun char => char == ' ' || isBreak char) then ['2'] else []
  let closing := if chars.getLast?.any isBreak then [] else ['\n']
  '|' :: opening ++ keeping chars ++ ['\n'] ++ padLines indent (fun char => [char]) true chars ++
    closing

/-- The text of a field name. -/
def fieldName (name : String) : String :=
  match Style.of true name with
  | .plain => name
  | .single => String.ofList (singleQuoted 0 name.toList)
  | _ => "\"" ++ String.ofList (name.toList.flatMap escape) ++ "\""

/-- A text as a value, with the line feed behind it. -/
def textValue (indent : Nat) (text : String) : String :=
  match Style.of false text with
  | .plain => text ++ "\n"
  | .single => String.ofList (singleQuoted indent text.toList) ++ "\n"
  | .literal => String.ofList (literal indent text.toList)
  | .double | .folded => "\"" ++ String.ofList (text.toList.flatMap escape) ++ "\"\n"

def spaces (indent : Nat) : String := String.ofList (pad indent)

/-- Anything but an object or a list, with the line feed behind it. -/
def leaf (indent : Nat) : Json → String
  | .null => "null\n"
  | .bool value => if value then "true\n" else "false\n"
  | .int value => toString value ++ "\n"
  | .float value => value.render Json.numberLayout ++ "\n"
  | .str text => textValue indent text
  | .arr _ => "[]\n"
  | .obj _ => "\x7b\x7d\n"

mutual

/-- What stands behind the name of a field in an object at an indentation. -/
def behindName (indent : Nat) : Json → String
  | .arr (item :: rest) =>
    "\n" ++ spaces indent ++ "-" ++ behindDash indent item ++ items indent rest
  | .obj ((name, value) :: rest) =>
    "\n" ++ spaces (indent + 2) ++ fieldName name ++ ":" ++ behindName (indent + 2) value ++
      fields (indent + 2) rest
  | other => " " ++ leaf (indent + 2) other
  termination_by structural document => document

/-- What stands behind the dash of an item in a list at an indentation. -/
def behindDash (indent : Nat) : Json → String
  | .arr (item :: rest) => " -" ++ behindDash (indent + 2) item ++ items (indent + 2) rest
  | .obj ((name, value) :: rest) =>
    " " ++ fieldName name ++ ":" ++ behindName (indent + 2) value ++ fields (indent + 2) rest
  | other => " " ++ leaf (indent + 2) other
  termination_by structural document => document

def items (indent : Nat) : List Json → String
  | [] => ""
  | item :: rest => spaces indent ++ "-" ++ behindDash indent item ++ items indent rest
  termination_by structural items => items

def fields (indent : Nat) : List (String × Json) → String
  | [] => ""
  | (name, value) :: rest =>
    spaces indent ++ fieldName name ++ ":" ++ behindName indent value ++ fields indent rest
  termination_by structural fields => fields

end

/-- The YAML text of a document. -/
def render : Json → String
  | .arr (item :: rest) => items 0 (item :: rest)
  | .obj (field :: rest) => fields 0 (field :: rest)
  | other => leaf 2 other

end PlatformApps.Yaml
