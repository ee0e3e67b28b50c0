/-
# The tokens of a text

Blocks are delimited by indentation, and a field name is known only when its colon comes.
So the state remembers the open indentations and, for each level of brackets, the place
where a field name may have begun; the colon then puts the key sign in front of that
place. A field name stays on one line and within 1024 characters.
-/

import PlatformApps.Yaml.Token

namespace PlatformApps.Yaml

/-- A place where a field name may have begun. -/
structure Candidate where
  /-- How many tokens stand in front of it. -/
  index : Nat
  line : Nat
  column : Nat
  /-- Nothing else can stand here: no colon is a fault. -/
  isRequired : Bool

structure Tokens where
  /-- Newest first. -/
  newest : List Token := []
  count : Nat := 0
  /-- Indentation of the innermost open block, -1 outside all blocks. -/
  indent : Int := -1
  outerIndents : List Int := []
  candidate : Option Candidate := none
  /-- Candidates of the levels around the open brackets. -/
  outerCandidates : List (Option Candidate) := []
  /-- May a field name begin here? -/
  keyAllowed : Bool := true

namespace Tokens

/-- Inside brackets, where indentation has no meaning. -/
def isFlow (tokens : Tokens) : Bool := !tokens.outerCandidates.isEmpty

def push (tokens : Tokens) (token : Token) : Tokens :=
  { tokens with newest := token :: tokens.newest, count := tokens.count + 1 }

/-- Puts a token in front of those from an index on. -/
def insertAt (tokens : Tokens) (index : Nat) (token : Token) : Tokens :=
  let behind := tokens.count - index
  { tokens with
    newest := tokens.newest.take behind ++ token :: tokens.newest.drop behind
    count := tokens.count + 1 }

/-- Opens a block when the column is further right than the innermost one. -/
def openBlock (tokens : Tokens) (column : Nat) (index : Nat) (token : Token) : Tokens :=
  if !tokens.isFlow && tokens.indent < column then
    { tokens.insertAt index token with
      indent := column, outerIndents := tokens.indent :: tokens.outerIndents }
  else tokens

/-- Closes the blocks further right than the column. -/
def closeBlocks (column : Int) (tokens : Tokens) : Tokens :=
  if tokens.isFlow then tokens else go tokens tokens.outerIndents
where
  go (tokens : Tokens) : List Int → Tokens
    | [] => tokens
    | outer :: more =>
      if column < tokens.indent then
        go { tokens.push .blockEnd with indent := outer, outerIndents := more } more
      else tokens

/-- No field name begins at the candidate's place; a fault when one has to. -/
def dropCandidate? (tokens : Tokens) : Option Tokens :=
  if tokens.candidate.any Candidate.isRequired then none
  else some { tokens with candidate := none }

/-- Remembers that a field name may begin here. -/
def noteCandidate? (tokens : Tokens) (spot : Spot) : Option Tokens :=
  if tokens.keyAllowed then do
    let tokens ← tokens.dropCandidate?
    pure { tokens with candidate := some {
      index := tokens.count
      line := spot.line
      column := spot.column
      isRequired := !tokens.isFlow && tokens.indent == (spot.column : Int) } }
  else some tokens

/-- Forgets candidates that are too far away. -/
def forgetStale? (tokens : Tokens) (spot : Spot) : Option Tokens := do
  let check (candidate : Option Candidate) : Option (Option Candidate) :=
    match candidate with
    | none => some none
    | some known =>
      if known.line < spot.line ∨ known.column + 1024 < spot.column then
        if known.isRequired then none else some none
      else some candidate
  pure { tokens with
    candidate := ← check tokens.candidate
    outerCandidates := ← tokens.outerCandidates.mapM check }

/-- Skips blanks, comments and line ends. A line end outside brackets lets a field name
begin; a tabulator may not stand where one can begin. A byte order mark in front of a line
takes a column. -/
def skip (flow : Bool) : (comment keyAllowed : Bool) → List Spot → Bool × List Spot
  | _, keyAllowed, [] => (keyAllowed, [])
  | comment, keyAllowed, spot :: rest =>
    if spot.endsLine then skip flow false (keyAllowed || !flow) rest
    else if comment then skip flow true keyAllowed rest
    else if spot.isOrderMark || spot.char = ' ' || (spot.char = '\t' && (flow || !keyAllowed)) then
      skip flow false keyAllowed rest
    else if spot.char = '#' then skip flow true keyAllowed rest
    else (keyAllowed, spot :: rest)

/-- A directive or a document marker: all blocks end in front of it. -/
def pushOutside? (tokens : Tokens) (token : Token) : Option Tokens := do
  let tokens ← (tokens.closeBlocks (-1)).dropCandidate?
  pure { tokens.push token with keyAllowed := false }

def openBracket? (tokens : Tokens) (spot : Spot) (token : Token) : Option Tokens := do
  let tokens ← tokens.noteCandidate? spot
  pure { tokens.push token with
    candidate := none
    outerCandidates := tokens.candidate :: tokens.outerCandidates
    keyAllowed := true }

def closeBracket? (tokens : Tokens) (token : Token) : Option Tokens := do
  let tokens ← tokens.dropCandidate?
  let tokens :=
    match tokens.outerCandidates with
    | [] => tokens
    | outer :: more => { tokens with candidate := outer, outerCandidates := more }
  pure { tokens.push token with keyAllowed := false }

/-- The sign of a list item or of a field name, which opens a block where none is open. -/
def pushSign? (tokens : Tokens) (spot : Spot) (opening sign : Token) : Option Tokens := do
  let allowed := tokens.isFlow || tokens.keyAllowed
  if !allowed then none
  else (tokens.openBlock spot.column tokens.count opening).dropCandidate?.map (·.push sign)

/-- The colon. It makes a field name of what stands at the candidate's place. -/
def pushValue? (tokens : Tokens) (spot : Spot) : Option Tokens :=
  match tokens.candidate with
  | some known =>
    let tokens := (tokens.insertAt known.index .key).openBlock known.column known.index
      .blockMapStart
    some { tokens.push .value with candidate := none, keyAllowed := false }
  | none =>
    if !tokens.isFlow && !tokens.keyAllowed then none
    else
      let tokens :=
        if tokens.isFlow then tokens else tokens.openBlock spot.column tokens.count .blockMapStart
      some { tokens.push .value with keyAllowed := !tokens.isFlow }

/-- A name, a type or a scalar on which a field name may end. -/
def pushWord? (tokens : Tokens) (spot : Spot) (token : Token) : Option Tokens := do
  let tokens ← tokens.noteCandidate? spot
  pure { tokens.push token with keyAllowed := false }

/-- May a plain scalar begin with this character? -/
def startsPlain (flow : Bool) (spot : Spot) (rest : List Spot) : Bool :=
  let char := spot.char
  let blankBehind := rest.head?.any Spot.isBlank
  if char = '-' then !blankBehind
  else if char = '?' || char = ':' then !flow && !Spot.isGap rest
  else !spot.isBlank && !indicators.contains char

/-- Reads the token that begins at a character, after all skipping. -/
def next? (tokens : Tokens) (spot : Spot) (rest : List Spot) : Option (Tokens × List Spot) := do
  let flow := tokens.isFlow
  let char := spot.char
  let here := spot :: rest
  if spot.column = 0 ∧ char = '%' then
    let (token, behind) ← Token.directive? rest
    pure (← tokens.pushOutside? token, behind)
  else if Spot.isMarker '-' here then pure (← tokens.pushOutside? .documentStart, rest.drop 2)
  else if Spot.isMarker '.' here then pure (← tokens.pushOutside? .documentEnd, rest.drop 2)
  else if char = '[' then pure (← tokens.openBracket? spot .listStart, rest)
  else if char = '\x7b' then pure (← tokens.openBracket? spot .mapStart, rest)
  else if char = ']' then pure (← tokens.closeBracket? .listEnd, rest)
  else if char = '\x7d' then pure (← tokens.closeBracket? .mapEnd, rest)
  else if char = ',' then
    let tokens ← tokens.dropCandidate?
    pure ({ tokens.push .flowEntry with keyAllowed := true }, rest)
  else if char = '-' ∧ Spot.isGap rest then
    let tokens ← tokens.pushSign? spot .blockListStart .blockEntry
    pure ({ tokens with keyAllowed := true }, rest)
  else if char = '?' ∧ (flow ∨ Spot.isGap rest) then
    let tokens ← tokens.pushSign? spot .blockMapStart .key
    pure ({ tokens with keyAllowed := !flow }, rest)
  else if char = ':' ∧ (flow ∨ Spot.isGap rest) then pure (← tokens.pushValue? spot, rest)
  else if char = '*' then
    let (name, behind) ← Token.name? rest
    pure (← tokens.pushWord? spot (.alias name), behind)
  else if char = '&' then
    let (name, behind) ← Token.name? rest
    pure (← tokens.pushWord? spot (.anchor name), behind)
  else if char = '!' then
    let (token, behind) ← Token.tag? flow here
    pure (← tokens.pushWord? spot token, behind)
  else if (char = '|' ∨ char = '>') ∧ !flow then
    let tokens ← tokens.dropCandidate?
    let isFolded := char = '>'
    let (text, behind) ← Scalar.block isFolded tokens.indent rest
    let style := if isFolded then Style.folded else .literal
    pure ({ tokens.push (.scalar style (String.ofList text)) with keyAllowed := true }, behind)
  else if char = '\'' then
    let (text, behind) ← Scalar.single [] rest
    pure (← tokens.pushWord? spot (.scalar .single (String.ofList text)), behind)
  else if char = '"' then
    let (text, behind) ← Scalar.double (.run []) rest
    pure (← tokens.pushWord? spot (.scalar .double (String.ofList text)), behind)
  else if startsPlain flow spot rest then
    let (text, behind, ranOver) ← Scalar.plain flow (tokens.indent + 1) [] here
    let tokens ← tokens.pushWord? spot (.scalar .plain (String.ofList text))
    pure ({ tokens with keyAllowed := ranOver }, behind)
  else none

/-- Reads tokens to the end of the text; each one takes at least one character. -/
def read? : Nat → Tokens → List Spot → Option Tokens
  | 0, _, _ => none
  | fuel + 1, tokens, spots =>
    let (keyAllowed, spots) := skip tokens.isFlow false tokens.keyAllowed spots
    let tokens := { tokens with keyAllowed }
    match spots with
    | [] => (tokens.closeBlocks (-1)).dropCandidate?
    | spot :: rest => do
      let tokens ← tokens.forgetStale? spot
      let (tokens, behind) ← (tokens.closeBlocks spot.column).next? spot rest
      read? fuel tokens behind

/-- The tokens of a text. -/
def ofText? (text : String) : Option (List Token) := do
  let spots ← Spot.ofText? text
  let tokens ← read? (spots.length + 1) {} spots
  pure tokens.newest.reverse

end Tokens

end PlatformApps.Yaml
