/-
# Finite binary floating-point numbers

A number is kept as a sign, a mantissa and a power of two, in the one normal form
that a value has, so equality of numbers is equality of records. Arithmetic goes
through exact rationals and one rounding step; the decimal text is the shortest one
that reads back. Nothing here depends on the machine's own floating-point unit.
-/

namespace PlatformApps

/-- The number `± mantissa * 2 ^ exponent` with at most 53 significant bits. -/
structure Binary64 where
  negative : Bool
  mantissa : Nat
  exponent : Int
  deriving DecidableEq, Repr, Inhabited

namespace Binary64

/-- The least exponent: subnormal numbers and zero are kept at it. -/
def minExponent : Int := -1074

/-- The greatest exponent a finite number of 53 bits may have. -/
def maxExponent : Int := 971

def zero : Binary64 := ⟨false, 0, minExponent⟩

/-- Splits `num / den * 2 ^ -exponent` into numerator and denominator. -/
def scaled (num den : Nat) (exponent : Int) : Nat × Nat :=
  if 0 ≤ exponent then (num, den <<< exponent.toNat) else (num <<< (-exponent).toNat, den)

/-- Quotient rounded to the nearest integer, a half going to the even neighbour. -/
def divNearestEven (num den : Nat) : Nat :=
  let quotient := num / den
  let twice := 2 * (num % den)
  if twice < den then quotient
  else if den < twice then quotient + 1
  else quotient + quotient % 2

/-- The exponent at which `num / den` has 53 significant bits, or the least one. -/
def exponentFor (num den : Nat) : Int :=
  let guess : Int := (Nat.log2 num : Int) - (Nat.log2 den : Int)
  let (n, d) := scaled num den guess
  max (if d ≤ n then guess - 52 else guess - 53) minExponent

/-- The number nearest to `± num / den`; `none` when that is beyond the finite range. -/
def ofFraction (negative : Bool) (num den : Nat) : Option Binary64 :=
  if num = 0 then some { zero with negative }
  else
    let exponent := exponentFor num den
    let (n, d) := scaled num den exponent
    let mantissa := divNearestEven n d
    let (mantissa, exponent) :=
      if mantissa = Nat.pow 2 53 then (Nat.pow 2 52, exponent + 1) else (mantissa, exponent)
    if maxExponent < exponent then none else some ⟨negative, mantissa, exponent⟩

/-- The exact value. -/
def toRat (x : Binary64) : Rat :=
  let magnitude : Rat :=
    if 0 ≤ x.exponent then ((x.mantissa <<< x.exponent.toNat : Nat) : Rat)
    else mkRat x.mantissa (1 <<< (-x.exponent).toNat)
  if x.negative then -magnitude else magnitude

/-- Rounds an exact value. -/
def round (value : Rat) : Option Binary64 :=
  ofFraction (decide (value < 0)) value.num.natAbs value.den

/-- Magnitude as numerator and denominator. -/
def fraction (x : Binary64) : Nat × Nat :=
  if 0 ≤ x.exponent then (x.mantissa <<< x.exponent.toNat, 1)
  else (x.mantissa, 1 <<< (-x.exponent).toNat)

/-- The integer, rounded. -/
def ofInt? (value : Int) : Option Binary64 := ofFraction (decide (value < 0)) value.natAbs 1

def ofNat? (value : Nat) : Option Binary64 := ofInt? value

/-- Product, rounded once; nothing beyond the finite range. -/
def mul? (x y : Binary64) : Option Binary64 :=
  let (num, den) := x.fraction
  let (otherNum, otherDen) := y.fraction
  ofFraction (x.negative != y.negative) (num * otherNum) (den * otherDen)

/-- Quotient, rounded once; nothing beyond the finite range, and nothing by zero. -/
def div? (x y : Binary64) : Option Binary64 :=
  let (num, den) := x.fraction
  let (otherNum, otherDen) := y.fraction
  if otherNum = 0 then none
  else ofFraction (x.negative != y.negative) (num * otherDen) (den * otherNum)

/-- Sum, rounded once; a sum beyond the finite range stays at the first operand. -/
def add (x y : Binary64) : Binary64 :=
  (round (x.toRat + y.toRat)).getD x

/-- The number nearest to `± digits * 10 ^ exponent`. Exponents so large or small that
no digit can matter are decided without computing the power. -/
def ofDecimal (negative : Bool) (digits : Nat) (exponent : Int) : Option Binary64 :=
  let width : Int := (Nat.toDigits 10 digits).length
  if digits = 0 then some { zero with negative }
  else if exponent + width < -330 then some { zero with negative }
  else if 310 < exponent + width then none
  else if 0 ≤ exponent then ofFraction negative (digits * Nat.pow 10 exponent.toNat) 1
  else ofFraction negative digits (Nat.pow 10 (-exponent).toNat)

/-- The least `shift` with `den ≤ num * 10 ^ shift`, looked for in `fuel` steps. -/
def leadingShift (num den : Nat) : Nat → Nat → Nat
  | 0, shift => shift
  | fuel + 1, shift => if den ≤ num then shift else leadingShift (num * 10) den fuel (shift + 1)

/-- The power of ten of the leading digit of a positive magnitude. -/
def decimalExponent (num den : Nat) : Int :=
  if den ≤ num then ((Nat.toDigits 10 (num / den)).length : Int) - 1
  else -(leadingShift num den 400 0 : Int)

/-- Does `digits * 10 ^ place` round to the magnitude `mantissa * 2 ^ exponent`? The
interval of such values reaches half a unit to both sides, less below a power of two,
and holds its ends exactly when the mantissa is even. -/
def roundsTo (x : Binary64) (digits : Nat) (place : Int) : Bool :=
  let (num, den) :=
    if 0 ≤ place then (digits * Nat.pow 10 place.toNat, 1)
    else (digits, Nat.pow 10 (-place).toNat)
  let (n, d) := scaled (4 * num) den x.exponent
  let low :=
    if x.mantissa = Nat.pow 2 52 ∧ minExponent < x.exponent then 4 * x.mantissa - 1
    else 4 * x.mantissa - 2
  let high := 4 * x.mantissa + 2
  if x.mantissa % 2 = 0 then low * d ≤ n ∧ n ≤ high * d else low * d < n ∧ n < high * d

/-- The neighbour of the magnitude on the grid of multiples of `10 ^ place` that rounds
to it, the nearer one when both do. -/
def gridPoint? (x : Binary64) (place : Int) : Option Nat :=
  let (num, den) := x.fraction
  let (n, d) :=
    if 0 ≤ place then (num, den * Nat.pow 10 place.toNat)
    else (num * Nat.pow 10 (-place).toNat, den)
  let below := n / d
  match x.roundsTo below place, x.roundsTo (below + 1) place with
  | true, true => some (if 2 * (n % d) ≤ d then below else below + 1)
  | true, false => some below
  | false, true => some (below + 1)
  | false, false => none

/-- Tries grids of growing fineness, one more digit at each step. -/
def shortestFrom (x : Binary64) (leading : Int) : Nat → Int → Nat × Int
  | 0, place => ((x.gridPoint? place).getD 0, place)
  | fuel + 1, place =>
    match x.gridPoint? place with
    | some digits => if digits = 0 then shortestFrom x leading fuel (place - 1) else (digits, place)
    | none => shortestFrom x leading fuel (place - 1)

/-- Removes the zeros at the end of a digit string, raising the place for each. -/
def stripZeros : Nat → Nat → Int → Nat × Int
  | 0, digits, place => (digits, place)
  | fuel + 1, digits, place =>
    if digits ≠ 0 ∧ digits % 10 = 0 then stripZeros fuel (digits / 10) (place + 1)
    else (digits, place)

/-- The fewest digits, with their place, that read back as a non-zero magnitude. -/
def shortest (x : Binary64) : Nat × Int :=
  let (num, den) := x.fraction
  let leading := decimalExponent num den
  let (digits, place) := shortestFrom x leading 17 leading
  stripZeros 20 digits place

/-- Where positional notation gives way to an exponent. -/
structure Layout where
  /-- Most digits before the point. -/
  widest : Int
  /-- Least position of the leading digit, counted from the point. -/
  narrowest : Int

private def zeros (count : Int) : String :=
  String.ofList (List.replicate count.toNat '0')

/-- Decimal text of `digits * 10 ^ place`; an integral value keeps one zero after the
point. -/
def Layout.write (layout : Layout) (digits : Nat) (place : Int) : String :=
  let text := Nat.toDigits 10 digits
  let point : Int := (text.length : Int) + place
  if 0 ≤ place ∧ point ≤ layout.widest then
    String.ofList text ++ zeros place ++ ".0"
  else if 0 < point ∧ point ≤ layout.widest then
    String.ofList (text.take point.toNat) ++ "." ++ String.ofList (text.drop point.toNat)
  else if layout.narrowest < point ∧ point ≤ 0 then
    "0." ++ zeros (-point) ++ String.ofList text
  else
    let mark := "e" ++ toString (point - 1)
    if text.length = 1 then String.ofList text ++ mark
    else String.ofList (text.take 1) ++ "." ++ String.ofList (text.drop 1) ++ mark

/-- Decimal text of a number whose magnitude has the given digits. -/
def renderBy (digitsOf : Binary64 → Nat × Int) (layout : Layout) (x : Binary64) : String :=
  let sign := if x.negative then "-" else ""
  if x.mantissa = 0 then sign ++ "0.0"
  else
    let (digits, place) := digitsOf x
    sign ++ layout.write digits place

/-- The shortest decimal text that reads back. -/
def render : Layout → Binary64 → String := renderBy shortest

end Binary64

end PlatformApps
