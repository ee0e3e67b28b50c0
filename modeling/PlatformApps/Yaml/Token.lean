/-
# Tokens

The words of a YAML text: scalars, the names and types in front of them, the signs of
lists and objects, and the beginnings and ends of blocks that indentation implies.
-/

import PlatformApps.Text.Utf8
import PlatformApps.Yaml.Scalar

namespace PlatformApps.Yaml

inductive Token where
  | version (major minor : Nat)
  /-- An abbreviation for types. -/
  | tagHandle (handle leading : String)
  | documentStart
  | documentEnd
  | blockListStart
  | blockMapStart
  | blockEnd
  | listStart
  | listEnd
  | mapStart
  | mapEnd
  /-- The dash of a block list. -/
  | blockEntry
  /-- The comma between brackets. -/
  | flowEntry
  | key
  | value
  | alias (name : String)
  | anchor (name : String)
  | tag (handle suffix : String)
  | scalar (style : Style) (text : String)
  deriving DecidableEq, Repr

namespace Token

/-- The name behind an anchor or alias sign; something that can end a name must follow. -/
def name? (spots : List Spot) : Option (String × List Spot) :=
  let (name, rest) := Spot.run Spot.isNameChar spots
  let ends := Spot.isGap rest || rest.head?.any fun spot =>
    ['?', ':', ',', ']', '\x7d', '%', '@', '\x60'].contains spot.char
  if name.isEmpty || !ends then none else some (String.ofList name, rest)

/-- Characters of a type's address; between angle brackets also some brackets. -/
def isAddressChar (verbatim : Bool) (char : Char) : Bool :=
  Spot.isNameChar char ||
    [';', '/', '?', ':', '@', '&', '=', '+', '$', '.', '%', '!', '~', '*', '\'', '(', ')'].contains
      char || (verbatim && [',', '[', ']'].contains char)

/-- The bytes of an address with percent signs and two digits for some of them. -/
def addressBytes? : List Char → Option (List UInt8)
  | [] => some []
  | '%' :: high :: low :: rest => do
    let high ← Word.digit? 16 high
    let low ← Word.digit? 16 low
    pure (UInt8.ofNat (high * 16 + low) :: (← addressBytes? rest))
  | char :: rest => if char = '%' then none else do
    pure (UInt8.ofNat char.toNat :: (← addressBytes? rest))

/-- An address, which may be empty. -/
def address? (verbatim : Bool) (spots : List Spot) : Option (String × List Spot) := do
  let (chars, rest) := Spot.run (isAddressChar verbatim) spots
  let bytes ← addressBytes? chars
  pure (← Text.Utf8.decode? bytes, rest)

/-- Refuses an empty text. -/
def nonEmpty? (read : Option (String × List Spot)) : Option (String × List Spot) :=
  read.filter fun (text, _) => !text.isEmpty

/-- An exclamation mark with a name between it and a second one, if there is one. -/
def handle? : List Spot → Option (String × List Spot)
  | [] => none
  | spot :: rest =>
    if spot.char = '!' then
      let (name, behind) := Spot.run Spot.isNameChar rest
      match behind with
      | next :: more =>
        if next.char = '!' then some (String.ofList ('!' :: name ++ ['!']), more)
        else some (String.ofList ('!' :: name), behind)
      | [] => some (String.ofList ('!' :: name), [])
    else none

/-- A type: an address between angle brackets, an abbreviation with the rest of the
address, or a local name. -/
def tag? (flow : Bool) (spots : List Spot) : Option (Token × List Spot) := do
  let (token, rest) ←
    match spots with
    | bang :: open_ :: inner =>
      if bang.char = '!' ∧ open_.char = '<' then do
        let (address, rest) ← nonEmpty? (address? true inner)
        match rest with
        | close :: behind => if close.char = '>' then some (Token.tag "" address, behind) else none
        | [] => none
      else readNamed spots
    | _ => readNamed spots
  let ends := Spot.isGap rest || (flow && Spot.startsWith ',' rest)
  if ends then some (token, rest) else none
where
  readNamed (spots : List Spot) : Option (Token × List Spot) := do
    let (handle, rest) ← handle? spots
    if handle.length > 1 ∧ handle.endsWith "!" then
      let (suffix, rest) ← nonEmpty? (address? false rest)
      pure (.tag handle suffix, rest)
    else
      let (suffix, rest) ← address? false rest
      let suffix := (handle.drop 1).toString ++ suffix
      pure (if suffix.isEmpty then .tag "" "!" else .tag "!" suffix, rest)

/-- At most nine digits. -/
def versionNumber? (spots : List Spot) : Option (Nat × List Spot) :=
  let (digits, rest) := Spot.run Char.isDigit spots
  if digits.length > 9 then none else (Word.natural? 10 digits).map (·, rest)

/-- A directive behind its percent sign, with its whole line. -/
def directive? (spots : List Spot) : Option (Token × List Spot) := do
  let (name, rest) := Spot.run Spot.isNameChar spots
  if !Spot.isGap rest then none
  else
    let rest := Spot.dropBlanks rest
    let (token, rest) ←
      if name = "YAML".toList then do
        let (major, rest) ← versionNumber? rest
        match rest with
        | point :: rest =>
          if point.char = '.' then
            let (minor, rest) ← versionNumber? rest
            pure (Token.version major minor, rest)
          else none
        | [] => none
      else if name = "TAG".toList then do
        let (handle, rest) ← handle? rest
        if handle.length > 1 ∧ !handle.endsWith "!" then none
        else
          match rest with
          | [] => none
          | spot :: _ =>
            if spot.isBlank then
              let (leading, rest) ← nonEmpty? (address? true (Spot.dropBlanks rest))
              if Spot.isGap rest then pure (Token.tagHandle handle leading, rest) else none
            else none
      else none
    pure (token, ← Spot.lineEnd? rest)

end Token

end PlatformApps.Yaml
