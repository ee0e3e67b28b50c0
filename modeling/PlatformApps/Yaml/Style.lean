/-
# Ways to write a text

A text is written plainly where that reads back as the same text, in single quotes where
it does not, in double quotes where some character needs an escape, and as a block of
lines when it contains line feeds. `Style.of` decides, by properties of the characters
and of neighbouring characters.
-/

import PlatformApps.Yaml.Word

namespace PlatformApps.Yaml

inductive Style where
  | plain
  | single
  | double
  | literal
  /-- A block whose lines are joined when it is read. -/
  | folded
  deriving DecidableEq, Repr

/-- Does the character end a line? -/
def isBreak (char : Char) : Bool :=
  let code := char.toNat
  code == 0xA || code == 0xD || code == 0x85 || code == 0x2028 || code == 0x2029

/-- Does the character separate words? -/
def isSeparator (char : Char) : Bool := char == ' ' || char == '\t' || isBreak char

/-- Can the character be written without an escape? -/
def isVisible (char : Char) : Bool :=
  let code := char.toNat
  code == 0xA || (0x20 ≤ code && code ≤ 0x7E) ||
    (0xA0 ≤ code && code != 0xFEFF && code != 0xFFFE && code != 0xFFFF)

/-- Some two neighbouring characters satisfy the tests. -/
def hasPair (first second : Char → Bool) (chars : List Char) : Bool :=
  (chars.zip (chars.drop 1)).any fun pair => first pair.1 && second pair.2

/-- Some character that satisfies the test is followed by a separator or by nothing. -/
def hasBeforeSeparator (test : Char → Bool) (chars : List Char) : Bool :=
  hasPair test isSeparator chars || (chars.getLast?.any test)

/-- Characters with a meaning of their own at the front of a word. -/
def indicators : List Char :=
  ['#', ',', '[', ']', '\x7b', '\x7d', '&', '*', '!', '|', '>', '\'', '"', '%', '@', '\x60']

/-- Would the text, written plainly, be taken for something with structure? -/
def looksStructured (chars : List Char) : Bool :=
  let opensBadly :=
    match chars with
    | [] => false
    | first :: rest =>
      indicators.contains first || ((first == '?' || first == '-') && rest.head?.all isSeparator)
  opensBadly || ['-', '-', '-'].isPrefixOf chars || ['.', '.', '.'].isPrefixOf chars ||
    hasBeforeSeparator (· == ':') chars || hasPair isSeparator (· == '#') chars

def startsOrEndsWith (test : Char → Bool) (chars : List Char) : Bool :=
  chars.head?.any test || chars.getLast?.any test

/-- Some character needs an escape, or a space stands before a line end. -/
def needsEscapes (chars : List Char) : Bool :=
  chars.any (fun char => !isVisible char) || hasPair (· == ' ') isBreak chars

namespace Style

/-- A block of lines keeps the text; it would lose a space at its end. -/
def literalAllowed (chars : List Char) : Bool :=
  !chars.isEmpty && !needsEscapes chars && !(chars.getLast?.any (· == ' '))

/-- Single quotes keep the text; a reader would drop spaces that open a further line. -/
def singleAllowed (chars : List Char) : Bool :=
  !needsEscapes chars && !hasPair isBreak (· == ' ') chars

/-- The bare characters keep the text. -/
def plainAllowed (chars : List Char) : Bool :=
  singleAllowed chars && !chars.any isBreak && !startsOrEndsWith (· == ' ') chars &&
    !looksStructured chars

/-- The style of a text. On a single line, as for a field name, there are no blocks and
nothing is continued on a further line. -/
def of (singleLine : Bool) (text : String) : Style :=
  let chars := text.toList
  if singleLine && chars.any isBreak then .double
  else if chars.contains '\n' then
    if literalAllowed chars then .literal else .double
  else if Word.isText text && plainAllowed chars then .plain
  else if singleAllowed chars then .single
  else .double

end Style

end PlatformApps.Yaml
