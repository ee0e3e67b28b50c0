/-
# Decimal digits by rough scaling

The digits of a number are found from its product with a power of ten, both kept to 64
bits. The product is a little off, so the interval of values that read back is made a
little narrower: what is found always reads back, but now and then it has a digit more
than it needs, or is not the nearest of its length.
-/

import PlatformApps.Binary64

namespace PlatformApps.Binary64

/-- The number `significand * 2 ^ exponent`, of which 64 bits are kept. -/
structure Rough where
  significand : Nat
  exponent : Int
  deriving DecidableEq, Repr

namespace Rough

/-- The number with its highest bit in the highest place of 64. -/
def normal (x : Rough) : Rough :=
  let shift := 63 - Nat.log2 x.significand
  ⟨x.significand <<< shift, x.exponent - shift⟩

/-- Product, rounded to 64 bits, a half upwards. -/
def mul (x y : Rough) : Rough :=
  ⟨(x.significand * y.significand + Nat.pow 2 63) >>> 64, x.exponent + y.exponent + 64⟩

/-- The power of ten, rounded. -/
def powerOfTen (power : Int) : Rough :=
  let (num, den) :=
    if 0 ≤ power then (Nat.pow 10 power.toNat, 1) else (1, Nat.pow 10 (-power).toNat)
  let guess : Int := (Nat.log2 num : Int) - (Nat.log2 den : Int)
  let (n, d) := scaled num den guess
  let exponent := if d ≤ n then guess - 63 else guess - 64
  let (n, d) := scaled num den exponent
  ⟨divNearestEven n d, exponent⟩

/-- Every eighth power of ten is in use. This is the one that brings a number with this
exponent close to one whose integral part has up to nine digits. -/
def scalingPower (exponent : Int) : Int :=
  let least : Int := 347 - (61 + exponent) * 30102999566398114 / Int.pow 10 17
  8 * (least / 8 + 1) - 348

end Rough

/-- The magnitude. -/
def rough (x : Binary64) : Rough := ⟨x.mantissa, x.exponent⟩

/-- The upper end of the interval of values that read back. -/
def upperEnd (x : Binary64) : Rough := (Rough.mk (2 * x.mantissa + 1) (x.exponent - 1)).normal

/-- The lower end, on the scale of the upper one. -/
def lowerEnd (x : Binary64) : Rough :=
  let scale := x.upperEnd.exponent
  if x.mantissa = Nat.pow 2 52 then
    ⟨(4 * x.mantissa - 1) <<< (x.exponent - 2 - scale).toNat, scale⟩
  else ⟨(2 * x.mantissa - 1) <<< (x.exponent - 1 - scale).toNat, scale⟩

namespace Rough

/-- Takes units off the last digit as long as that brings the digits closer to the value.
`rest` is how far the digits lie below the upper end, `width` how wide the interval is,
`aim` how far below the upper end the value is. -/
def approach (width aim unit : Nat) : (fuel digits rest : Nat) → Nat
  | 0, digits, _ => digits
  | fuel + 1, digits, rest =>
    if rest < aim ∧ unit ≤ width - rest ∧
        (rest + unit < aim ∨ rest + unit - aim < aim - rest) then
      approach width aim unit fuel (digits - 1) (rest + unit)
    else digits

/-- Digits behind the point, until what is left is within the interval. The point is at
bit `point`. From the ninth digit on the last one stays as it is. -/
def fractionDigits (point : Nat) :
    (fuel digits rest width aim : Nat) → (place : Int) → Nat × Int
  | 0, digits, _, _, _, place => (digits, place)
  | fuel + 1, digits, rest, width, aim, place =>
    let rest := 10 * rest
    let width := 10 * width
    let aim := 10 * aim
    let digits := 10 * digits + (rest >>> point)
    let rest := rest % Nat.pow 2 point
    if rest < width then
      (approach width (if place < -7 then 0 else aim) (Nat.pow 2 point) 10 digits rest,
        place - 1)
    else fractionDigits point fuel digits rest width aim (place - 1)

/-- Digits before the point from the leading one on, and then those behind it. -/
def digitsFrom (point fraction width aim : Nat) :
    (wanted digits integral : Nat) → Nat × Int
  | 0, digits, _ => fractionDigits point 20 digits fraction width aim 0
  | wanted + 1, digits, integral =>
    let unit := Nat.pow 10 wanted
    let digits := 10 * digits + integral / unit
    let integral := integral % unit
    let rest := (integral <<< point) + fraction
    if rest ≤ width then (approach width aim (unit <<< point) 10 digits rest, wanted)
    else digitsFrom point fraction width aim wanted digits integral

end Rough

/-- Digits that read back as a non-zero magnitude, with the place of the last one. -/
def roughDigits (x : Binary64) : Nat × Int :=
  let power := Rough.scalingPower x.upperEnd.exponent
  let factor := Rough.powerOfTen power
  let value := x.rough.normal.mul factor
  let high := (x.upperEnd.mul factor).significand - 1
  let low := (x.lowerEnd.mul factor).significand + 1
  let point := (-value.exponent).toNat
  let integral := high >>> point
  let (digits, place) := Rough.digitsFrom point (high % Nat.pow 2 point) (high - low)
    (high - value.significand) (Nat.toDigits 10 integral).length 0 integral
  (digits, place - power)

/-- A decimal text that reads back. -/
def renderRough : Layout → Binary64 → String := renderBy roughDigits

end PlatformApps.Binary64
