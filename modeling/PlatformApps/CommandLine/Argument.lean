/-
# Arguments of a command

An option is given as `--name value` or `--name=value`, a switch as `--name`, each at most
once. A value that starts with a hyphen needs the second form. Options that are not given
are taken from the environment, then from their defaults. The value of an option is
examined when the next option begins or the arguments end, so of two faults the one
further left does not always win.
-/

import PlatformApps.Table
import PlatformApps.Text.Blank

namespace PlatformApps.CommandLine

/-- Why arguments are refused, or what is shown instead of running a command. -/
inductive Refusal where
  | help
  | helpForNothing
  | version
  | unknownArgument
  | unknownCommand
  | missingOption
  | missingValue
  | unusableValue
  /-- None of the values that there are. -/
  | impossibleValue
  | needlessValue
  | repeatedOption
  deriving DecidableEq, Repr

/-- What an option is given. -/
inductive ValueKind where
  | text
  /-- A text that is not empty. -/
  | path
  /-- A number of 16 bits. -/
  | port
  /-- Nothing: a switch is on when it is there. -/
  | switch
  deriving DecidableEq, Repr

structure OptionSpec where
  name : String
  /-- Environment variable that stands in for the option. -/
  standIn : Option String := none
  kind : ValueKind := .text
  default : Option String := none
  isRequired : Bool := false

/-- A signed decimal number. -/
def signed? (text : String) : Option Int :=
  let digits (chars : List Char) : Option Int :=
    if !chars.isEmpty && chars.all Char.isDigit then
      some (chars.foldl (fun value char => value * 10 + ((char.toNat - 48 : Nat) : Int)) 0)
    else none
  match text.toList with
  | '-' :: rest => (digits rest).map fun value => -value
  | '+' :: rest => digits rest
  | chars => digits chars

def portOf? (text : String) : Option Nat :=
  (signed? text).bind fun value =>
    if 0 ≤ value ∧ value ≤ 65535 then some value.toNat else none

/-- Refuses a value that is not of its kind. -/
def ValueKind.examine (kind : ValueKind) (value : String) : Except Refusal Unit :=
  match kind with
  | .text => .ok ()
  | .path => if value.isEmpty then .error .missingValue else .ok ()
  | .port => if (portOf? value).isSome then .ok () else .error .unusableValue
  | .switch => if value = "true" ∨ value = "false" then .ok () else .error .impossibleValue

/-- Options by name, with their values. -/
abbrev Given := Table String String

/-- An option whose value has not been examined yet. -/
structure Pending where
  spec : OptionSpec
  value : Option String := none

structure Progress where
  given : Given := ∅
  pending : Option Pending := none

namespace Progress

/-- Takes an option for given. -/
def accept (given : Given) (spec : OptionSpec) (value : String) : Except Refusal Given :=
  if given.contains spec.name then .error .repeatedOption
  else do
    spec.kind.examine value
    pure (given.insert spec.name value)

/-- Examines what is pending. -/
def settle (progress : Progress) : Except Refusal Given :=
  match progress.pending with
  | none => .ok progress.given
  | some ⟨_, none⟩ => .error .missingValue
  | some ⟨spec, some value⟩ => accept progress.given spec value

end Progress

/-- The forms that an argument may have. -/
inductive ArgumentForm where
  /-- Two hyphens and nothing else: no options follow. -/
  | separator
  | long (name : String) (value : Option String)
  /-- One hyphen with letters behind it. -/
  | short (letters : List Char)
  | plain

def ArgumentForm.of (argument : String) : ArgumentForm :=
  match argument.toList with
  | ['-', '-'] => .separator
  | '-' :: '-' :: rest =>
    match Text.cutAt? '=' rest with
    | some (name, value) => .long (String.ofList name) (some (String.ofList value))
    | none => .long (String.ofList rest) none
  | '-' :: letter :: rest => .short (letter :: rest)
  | _ => .plain

/-- Options that are given among the arguments of a command. -/
def given (specs : List OptionSpec) : List String → Progress → Except Refusal Given
  | [], progress => progress.settle
  | argument :: rest, progress =>
    match ArgumentForm.of argument with
    | .separator => if rest.isEmpty then progress.settle else .error .unknownArgument
    | .short ('h' :: _) => progress.settle.bind fun _ => .error .help
    | .short _ => .error .unknownArgument
    | .long name value =>
      match specs.find? fun spec => spec.name = name with
      | none =>
        if name ≠ "help" then .error .unknownArgument
        else if value.isSome then .error .needlessValue
        else progress.settle.bind fun _ => .error .help
      | some spec =>
        match spec.kind, value with
        | .switch, some _ => .error .needlessValue
        | .switch, none => do
          given specs rest { given := ← Progress.accept (← progress.settle) spec "true" }
        | _, some value => do
          given specs rest { given := ← Progress.accept (← progress.settle) spec value }
        | _, none => do
          given specs rest { given := ← progress.settle, pending := some { spec } }
    | .plain =>
      match progress.pending with
      | some ⟨spec, none⟩ =>
        given specs rest { progress with pending := some ⟨spec, some argument⟩ }
      | _ => .error .unknownArgument

/-- Adds what the environment says about options that are not given. -/
def fromEnvironment (environment : String → Option String) :
    List OptionSpec → Given → Except Refusal Given
  | [], given => .ok given
  | spec :: rest, given =>
    match given.find? spec.name, spec.standIn.bind environment with
    | none, some value => do
      spec.kind.examine value
      fromEnvironment environment rest (given.insert spec.name value)
    | _, _ => fromEnvironment environment rest given

/-- Adds defaults; an option without one may be required. -/
def withDefaults (specs : List OptionSpec) (given : Given) : Except Refusal Given :=
  let missing := specs.filter fun spec => !given.contains spec.name
  if missing.any fun spec => spec.isRequired && spec.default.isNone then .error .missingOption
  else .ok (missing.foldl (fun given spec =>
    match spec.default with
    | some value => given.insert spec.name value
    | none => given) given)

/-- Values of the options of a command. -/
def readOptions (specs : List OptionSpec) (environment : String → Option String)
    (arguments : List String) : Except Refusal Given := do
  let given ← given specs arguments {}
  withDefaults specs (← fromEnvironment environment specs given)

end PlatformApps.CommandLine
