/-
# Reading scalars

A scalar in quotes or without them may go over several lines; the white space around
each line end is then folded. A block keeps its lines behind a common indentation. Each
function takes the characters from the scalar's first one on and gives its text and
what is behind it, or nothing when the scalar is malformed.
-/

import PlatformApps.Yaml.Spot

namespace PlatformApps.Yaml.Scalar

/-- What a run of blanks and line ends stands for inside a scalar: itself within a line;
across lines the blanks vanish, a single line feed becomes a space, and otherwise one line
feed is taken away. -/
def foldRun (run : List Char) : List Char :=
  match run.filter isBreak with
  | [] => run
  | first :: more =>
    if first = '\n' then (if more.isEmpty then [' '] else more) else first :: more

/-- In front of what is read next. -/
def prepend {β : Type} (chars : List Char) (read : Option (List Char × β)) :
    Option (List Char × β) :=
  read.map fun (text, rest) => (chars ++ text, rest)

/-- Behind an opening single quote. Two quotes stand for one. -/
def single (run : List Char) : List Spot → Option (List Char × List Spot)
  | [] => none
  | spot :: rest =>
    if spot.isBlank || spot.endsLine then single (run ++ [spot.char]) rest
    else if Spot.isDocumentMarker (spot :: rest) then none
    else if spot.char = '\'' then
      match rest with
      | next :: rest' =>
        if next.char = '\'' then prepend (foldRun run ++ ['\'']) (single [] rest')
        else some (foldRun run, next :: rest')
      | [] => some (foldRun run, [])
    else prepend (foldRun run ++ [spot.char]) (single [] rest)

/-- The character of a one-letter escape. -/
def escaped? (letter : Char) : Option Char :=
  match letter with
  | '0' => some (Char.ofNat 0)
  | 'a' => some (Char.ofNat 7)
  | 'b' => some (Char.ofNat 8)
  | 't' | '\t' => some '\t'
  | 'n' => some '\n'
  | 'v' => some (Char.ofNat 0xB)
  | 'f' => some (Char.ofNat 0xC)
  | 'r' => some '\r'
  | 'e' => some (Char.ofNat 0x1B)
  | ' ' => some ' '
  | '"' => some '"'
  | '/' => some '/'
  | '\\' => some '\\'
  | 'N' => some (Char.ofNat 0x85)
  | '_' => some (Char.ofNat 0xA0)
  | 'L' => some (Char.ofNat 0x2028)
  | 'P' => some (Char.ofNat 0x2029)
  | _ => none

/-- How many digits an escape by number has. -/
def escapeWidth? (letter : Char) : Option Nat :=
  match letter with
  | 'x' => some 2
  | 'u' => some 4
  | 'U' => some 8
  | _ => none

/-- What is under way inside double quotes. -/
inductive Pending where
  /-- Blanks and line ends not yet folded. -/
  | run (chars : List Char)
  /-- The same behind an escaped line end: blanks vanish, further line ends stay. -/
  | joined (breaks : List Char)
  | escape
  | digits (missing value : Nat)

/-- Behind an opening double quote. -/
def double (pending : Pending) : List Spot → Option (List Char × List Spot)
  | [] => none
  | spot :: rest =>
    let char := spot.char
    match pending with
    | .escape =>
      if spot.endsLine then double (.joined []) rest
      else
        match escaped? char, escapeWidth? char with
        | some meant, _ => prepend [meant] (double (.run []) rest)
        | none, some width => double (.digits width 0) rest
        | none, none => none
    | .digits missing value =>
      match Word.digit? 16 char with
      | none => none
      | some digit =>
        let value := value * 16 + digit
        if missing ≤ 1 then
          if value.isValidChar then prepend [Char.ofNat value] (double (.run []) rest) else none
        else double (.digits (missing - 1) value) rest
    | .run chars =>
      if spot.isBlank || spot.endsLine then double (.run (chars ++ [char])) rest
      else if Spot.isDocumentMarker (spot :: rest) then none
      else if char = '"' then some (foldRun chars, rest)
      else if char = '\\' then prepend (foldRun chars) (double .escape rest)
      else prepend (foldRun chars ++ [char]) (double (.run []) rest)
    | .joined breaks =>
      if spot.isBlank then double (.joined breaks) rest
      else if spot.endsLine then double (.joined (breaks ++ [char])) rest
      else if Spot.isDocumentMarker (spot :: rest) then none
      else if char = '"' then some (breaks, rest)
      else if char = '\\' then prepend breaks (double .escape rest)
      else prepend (breaks ++ [char]) (double (.run []) rest)

/-- Characters that structure lists and objects in brackets. -/
def isFlowIndicator (char : Char) : Bool :=
  char == ',' || char == '[' || char == ']' || char == '\x7b' || char == '\x7d'

/-- A scalar without quotes. Inside brackets (`flow`) it also ends at their indicators;
outside it ends at a line indented less than `least`. The answer tells whether the scalar
was followed by a line end. -/
def plain (flow : Bool) (least : Int) (run : List Char) :
    List Spot → Option (List Char × List Spot × Bool)
  | [] => some ([], [], run.any isBreak)
  | spot :: rest =>
    let char := spot.char
    let stop := some ([], spot :: rest, run.any isBreak)
    if spot.isBlank || spot.endsLine then
      if char = '\t' ∧ run.any isBreak ∧ (spot.column : Int) < least then none
      else plain flow least (run ++ [char]) rest
    else if !run.isEmpty && ((!flow && (spot.column : Int) < least) ||
        Spot.isDocumentMarker (spot :: rest) || char = '#') then stop
    else if flow && char = ':' && rest.head?.any
        (fun next => isFlowIndicator next.char || next.char == '?') then none
    else if (char = ':' && Spot.isGap rest) || (flow && isFlowIndicator char) then stop
    else prepend (foldRun run ++ [char]) (plain flow least [] rest)

/-- Which line feeds at the end of a block are kept. -/
inductive Chomping where
  | strip
  | clip
  | keep
  deriving DecidableEq

/-- The mark for the line feeds at the end, if there is one. -/
def cutChomping : List Spot → Chomping × List Spot
  | [] => (.clip, [])
  | spot :: rest =>
    if spot.char = '+' then (.keep, rest)
    else if spot.char = '-' then (.strip, rest)
    else (.clip, spot :: rest)

/-- A digit that states the indentation, zero when there is none; a zero may not be
stated. -/
def cutIndentation? : List Spot → Option (Nat × List Spot)
  | [] => some (0, [])
  | spot :: rest =>
    if spot.char = '0' then none
    else if spot.char.isDigit then some (spot.char.toNat - 48, rest)
    else some (0, spot :: rest)

/-- The marks of a block, in either order, up to the end of their line. -/
def blockHeader? (spots : List Spot) : Option (Chomping × Nat × List Spot) := do
  let (chomping, rest) := cutChomping spots
  let marked := chomping ≠ .clip
  let (indentation, rest) ← cutIndentation? rest
  let (chomping, rest) := if marked ∨ indentation = 0 then (chomping, rest) else cutChomping rest
  pure (chomping, indentation, ← Spot.lineEnd? rest)

/-- The lines of a text, each with its line end; the last one has none and may be empty. -/
def lines : List Spot → List (List Spot)
  | [] => [[]]
  | spot :: rest =>
    if spot.endsLine then [spot] :: lines rest
    else
      match lines rest with
      | [] => [[spot]]
      | line :: more => (spot :: line) :: more

def leadingSpaces (line : List Spot) : Nat :=
  (line.takeWhile fun spot => spot.char == ' ').length

/-- The indentation of a block that states none: that of its first line with text, or of a
longer line of spaces above it. -/
def detectIndentation? : List (List Spot) → Option Nat
  | [] => some 0
  | line :: more =>
    let spaces := leadingSpaces line
    match line.drop spaces with
    | [] => some spaces
    | spot :: _ =>
      if spot.char = '\t' then none
      else if spot.endsLine then (detectIndentation? more).map (max spaces)
      else some spaces

/-- What has been read of a block. -/
structure Block where
  text : List Char := []
  /-- Line end of the last line with text. -/
  held : List Char := []
  /-- Line ends of the empty lines behind it. -/
  breaks : List Char := []
  /-- The last line with text begins with a blank. -/
  indented : Bool := false

/-- A further line of text. Joining lines replaces the line end between two lines that do
not begin with a blank. -/
def Block.push (block : Block) (isFolded : Bool) (body : List Spot) : Block :=
  let indented := body.head?.any Spot.isBlank
  let between :=
    if isFolded && block.held == ['\n'] && !block.indented && !indented then
      if block.breaks.isEmpty then [' '] else block.breaks
    else block.held ++ block.breaks
  let (text, ending) := body.span fun spot => !spot.endsLine
  { text := block.text ++ between ++ text.map Spot.char
    held := ending.map Spot.char
    breaks := []
    indented }

/-- The lines of a block with the given indentation, and what is behind them. -/
def blockLines (isFolded : Bool) (indentation : Nat) :
    List (List Spot) → Block → Option (Block × List Spot)
  | [], block => some (block, [])
  | line :: more, block =>
    let spaces := min indentation (leadingSpaces line)
    let body := line.drop spaces
    match body with
    | [] => some (block, more.flatten)
    | spot :: _ =>
      if spot.char = '\t' ∧ spaces < indentation then none
      else if spot.endsLine then
        blockLines isFolded indentation more { block with breaks := block.breaks ++ [spot.char] }
      else if spaces < indentation then some (block, body ++ more.flatten)
      else blockLines isFolded indentation more (block.push isFolded body)

/-- Behind the indicator of a block inside a collection with an indentation. -/
def block (isFolded : Bool) (indent : Int) (spots : List Spot) :
    Option (List Char × List Spot) := do
  let (chomping, stated, rest) ← blockHeader? spots
  let body := lines rest
  let indentation ←
    if stated ≠ 0 then pure ((max indent 0).toNat + stated)
    else (detectIndentation? body).map fun found => max (max found (indent + 1).toNat) 1
  let (block, rest) ← blockLines isFolded indentation body {}
  let ending :=
    match chomping with
    | .strip => []
    | .clip => block.held
    | .keep => block.held ++ block.breaks
  pure (block.text ++ ending, rest)

end PlatformApps.Yaml.Scalar
