/-
# Places in a YAML text

Indentation carries structure, so every character is read together with its line and its
column. Line ends of all kinds are the same line feed here, except the two separators of
Unicode, which stay what they are.
-/

import PlatformApps.Yaml.Style

namespace PlatformApps.Yaml

/-- A character and where it stands; lines and columns count from zero. -/
structure Spot where
  char : Char
  line : Nat
  column : Nat
  deriving Repr

namespace Spot

/-- May the character occur in a text at all? -/
def isAllowed (char : Char) : Bool :=
  let code := char.toNat
  code == 9 || code == 0xA || code == 0xD || (0x20 ≤ code && code ≤ 0x7E) || code == 0x85 ||
    (0xA0 ≤ code && code != 0xFFFE && code != 0xFFFF)

/-- One line feed for a carriage return, with or without a line feed behind it, and for a
next-line control. -/
def unifyBreaks : List Char → List Char
  | [] => []
  | '\r' :: '\n' :: rest => '\n' :: unifyBreaks rest
  | char :: rest => (if char = '\r' ∨ char.toNat = 0x85 then '\n' else char) :: unifyBreaks rest

def place (line column : Nat) : List Char → List Spot
  | [] => []
  | char :: rest =>
    ⟨char, line, column⟩ ::
      if isBreak char then place (line + 1) 0 rest else place line (column + 1) rest

/-- The places of a text. -/
def ofText? (text : String) : Option (List Spot) :=
  let chars := text.toList
  if chars.all isAllowed then some (place 0 0 (unifyBreaks chars)) else none

/-- A byte order mark at the beginning of a line. -/
def isOrderMark (spot : Spot) : Bool := spot.column == 0 && spot.char.toNat == 0xFEFF

/-- A space or a tabulator. -/
def isBlank (spot : Spot) : Bool := spot.char == ' ' || spot.char == '\t'

def endsLine (spot : Spot) : Bool := isBreak spot.char

/-- Nothing, a blank or a line end stands here. -/
def isGap (spots : List Spot) : Bool :=
  match spots with
  | [] => true
  | spot :: _ => spot.isBlank || spot.endsLine

/-- A mark of three equal characters at the beginning of a line and on its own. -/
def isMarker (char : Char) (spots : List Spot) : Bool :=
  match spots with
  | a :: b :: c :: rest =>
    a.column == 0 && a.char == char && b.char == char && c.char == char && isGap rest
  | _ => false

/-- A document ends or begins here. -/
def isDocumentMarker (spots : List Spot) : Bool := isMarker '-' spots || isMarker '.' spots

/-- The longest run of characters that satisfy a test, and what is behind it. -/
def run (test : Char → Bool) (spots : List Spot) : List Char × List Spot :=
  ((spots.takeWhile fun spot => test spot.char).map Spot.char,
    spots.dropWhile fun spot => test spot.char)

def dropBlanks (spots : List Spot) : List Spot := spots.dropWhile isBlank

/-- Is the next character this one? -/
def startsWith (char : Char) (spots : List Spot) : Bool :=
  spots.head?.any fun spot => spot.char == char

/-- A letter, a digit, a hyphen or an underscore. -/
def isNameChar (char : Char) : Bool := char.isAlphanum || char == '-' || char == '_'

/-- The rest of a line that may hold a comment and nothing else, with its line end. -/
def lineEnd? (spots : List Spot) : Option (List Spot) :=
  let behind := dropBlanks spots
  let behind :=
    if startsWith '#' behind then behind.dropWhile (fun spot => !spot.endsLine) else behind
  match behind with
  | [] => some []
  | spot :: rest => if spot.endsLine then some rest else none

end Spot

end PlatformApps.Yaml
