/-
# Numbers as JSON writes them

A number without point and exponent is an integer as far as 64 bits reach. Every other
number is a floating-point number, taken in within one word: its leading digits, as many
as 64 bits hold, are rounded, and what the point and the exponent make of them is one
multiplication or division by a rounded power of ten. So a number with many digits may
come out as a neighbour of the nearest floating-point number. Digits beyond the word
count for the size of a number only.
-/

import PlatformApps.Binary64

namespace PlatformApps.Json

/-- A number as it is taken in. -/
inductive Numeral where
  | int (value : Int)
  | float (value : Binary64)
  /-- Beyond the range of floating-point numbers. -/
  | tooLarge
  deriving DecidableEq

namespace Numeral

private def isDigit (char : Char) : Bool := decide ('0' ≤ char) && decide (char ≤ '9')

private def digitsValue (chars : List Char) : Nat :=
  chars.foldl (fun value char => value * 10 + (char.toNat - 48)) 0

/-- The exponent part of a number: nothing, or `e`, a sign and digits. -/
private def exponent? : List Char → Option (Option Int)
  | [] => some none
  | mark :: rest =>
    if mark ≠ 'e' ∧ mark ≠ 'E' then none
    else
      let (negative, digits) := match rest with
        | '-' :: digits => (true, digits)
        | '+' :: digits => (false, digits)
        | digits => (false, digits)
      if digits.isEmpty ∨ ¬ digits.all isDigit then none
      else some (some (if negative then -(digitsValue digits : Int) else digitsValue digits))

/-- A number taken apart. -/
structure Parts where
  negative : Bool
  /-- Digits before the point. -/
  whole : List Char
  /-- Digits behind the point. -/
  places : List Char
  /-- Nothing where there is neither point nor exponent. -/
  exponent : Option Int

/-- The parts of a number. A leading zero stands alone, and a point has digits on both
sides. -/
def parts? (chars : List Char) : Option Parts := do
  let (negative, unsigned) := match chars with
    | '-' :: rest => (true, rest)
    | rest => (false, rest)
  let whole := unsigned.takeWhile isDigit
  let rest := unsigned.dropWhile isDigit
  if whole.isEmpty ∨ (whole.length ≠ 1 ∧ whole.head? = some '0') then failure
  let (places, rest, pointed) := match rest with
    | '.' :: behind => (behind.takeWhile isDigit, behind.dropWhile isDigit, true)
    | rest => ([], rest, false)
  if pointed ∧ places.isEmpty then failure
  let exponent ← exponent? rest
  pure {
    negative, whole, places
    exponent := if pointed then some (exponent.getD 0) else exponent }

/-- Appends digits to a number as long as the result has 64 bits; yields the digits that
are left as well. -/
def fill (value : Nat) : List Char → Nat × List Char
  | [] => (value, [])
  | char :: rest =>
    let longer := value * 10 + (char.toNat - 48)
    if longer < Nat.pow 2 64 then fill longer rest else (value, char :: rest)

/-- The greatest power of ten that is a floating-point number. -/
def widestPower : Nat := 308

/-- A power of ten, rounded. -/
def powerOfTen? (exponent : Nat) : Option Binary64 := Binary64.ofNat? (Nat.pow 10 exponent)

/-- A number divided by a power of ten, by one division for every 308 places. -/
def shrink? (value : Binary64) (places : Nat) : Option Binary64 :=
  if places ≤ widestPower then (powerOfTen? places).bind value.div?
  else if value.mantissa = 0 then some value
  else ((powerOfTen? widestPower).bind value.div?).bind fun smaller =>
    shrink? smaller (places - widestPower)
  termination_by places
  decreasing_by simp [widestPower] at *; omega

/-- A number of 64 bits, rounded, times a power of ten. -/
def scaled? (value : Nat) (exponent : Int) : Option Binary64 :=
  (Binary64.ofNat? value).bind fun rounded =>
    if exponent < 0 then shrink? rounded (-exponent).toNat
    else if exponent ≤ widestPower then (powerOfTen? exponent.toNat).bind rounded.mul?
    else if value = 0 then some rounded
    else none

/-- The floating-point number of the parts. -/
def rounded (parts : Parts) : Numeral :=
  let (leading, unread) := fill 0 parts.whole
  let (value, ignored) := fill leading parts.places
  let kept : Int := (parts.places.length : Int) - ignored.length
  match scaled? value ((unread.length : Int) - kept + parts.exponent.getD 0) with
  | some number => .float { number with negative := parts.negative }
  | none => .tooLarge

/-- What the parts stand for. There is no negative integer zero. -/
def ofParts (parts : Parts) : Numeral :=
  let value := digitsValue parts.whole
  let isExact :=
    if parts.negative then decide (value ≠ 0 ∧ value ≤ Nat.pow 2 63)
    else decide (value < Nat.pow 2 64)
  if parts.exponent.isNone && isExact then
    .int (if parts.negative then -(value : Int) else value)
  else rounded parts

/-- The number that a word stands for, if it is one. -/
def ofChars? (chars : List Char) : Option Numeral := (parts? chars).map ofParts

end Numeral

end PlatformApps.Json
