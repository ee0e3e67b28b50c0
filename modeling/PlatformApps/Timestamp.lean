/-
# Points in time

A timestamp is a date of the Gregorian calendar and a time of day in universal time.
It is written as `2024-01-02T03:04:05Z`; reading also takes fractions of a second,
offsets, shorter numbers, and white space between the parts. Leases compare timestamps
by their microseconds since 1970.
-/

import PlatformApps.Text.Blank

namespace PlatformApps

/-- Days of a month in the Gregorian calendar. -/
def daysInMonth (year : Int) (month : Nat) : Nat :=
  if month = 2 then
    if (year % 4 = 0 ∧ year % 100 ≠ 0) ∨ year % 400 = 0 then 29 else 28
  else if month = 4 ∨ month = 6 ∨ month = 9 ∨ month = 11 then 30 else 31

/-- The years that the calendar covers. -/
def earliestYear : Int := -262143

def latestYear : Int := 262142

/-- Components in their ranges; a sixtieth second is a leap second. -/
def CivilRange (year : Int) (month day hour minute second micro : Nat) : Prop :=
  earliestYear ≤ year ∧ year ≤ latestYear ∧ 1 ≤ month ∧ month ≤ 12 ∧
    1 ≤ day ∧ day ≤ daysInMonth year month ∧
    hour ≤ 23 ∧ minute ≤ 59 ∧ second ≤ 60 ∧ micro ≤ 999999

instance (year : Int) (month day hour minute second micro : Nat) :
    Decidable (CivilRange year month day hour minute second micro) := by
  unfold CivilRange
  infer_instance

structure Timestamp where
  year : Int
  month : Nat
  day : Nat
  hour : Nat
  minute : Nat
  second : Nat
  micro : Nat
  inRange : CivilRange year month day hour minute second micro
  deriving DecidableEq

namespace Timestamp

/-- The first second of 1970. -/
def epoch : Timestamp := ⟨1970, 1, 1, 0, 0, 0, 0, by decide⟩

instance : Inhabited Timestamp := ⟨epoch⟩

/-- A timestamp of components that are in range. -/
def ofCivil? (year : Int) (month day hour minute second micro : Nat) : Option Timestamp :=
  if h : CivilRange year month day hour minute second micro then
    some ⟨year, month, day, hour, minute, second, micro, h⟩
  else none

/-- The last digit of a number. -/
def digit (value : Nat) : Char := Char.ofNat (48 + value % 10)

/-- A number below one hundred in two digits. -/
def twoDigits (value : Nat) : List Char := [digit (value / 10), digit value]

/-- A number below ten thousand in four digits. -/
def fourDigits (value : Nat) : List Char := twoDigits (value / 100) ++ twoDigits (value % 100)

/-- A year in four digits; one that has no four digits, or is before the year zero, with
its sign. -/
def yearChars (year : Int) : List Char :=
  let digits := Nat.toDigits 10 year.natAbs
  if 0 ≤ year ∧ year ≤ 9999 then fourDigits year.toNat
  else (if year < 0 then '-' else '+') :: (List.replicate (4 - digits.length) '0' ++ digits)

/-- Date and time of day, as every written form begins. -/
def dateAndTime (time : Timestamp) : List Char :=
  yearChars time.year ++ '-' :: twoDigits time.month ++ '-' :: twoDigits time.day ++
    'T' :: twoDigits time.hour ++ ':' :: twoDigits time.minute ++ ':' :: twoDigits time.second

/-- The written form, at whole seconds. -/
def render (time : Timestamp) : String := String.ofList (dateAndTime time ++ ['Z'])

/-- The written form with six places of a second, as leases use it. -/
def renderMicro (time : Timestamp) : String :=
  String.ofList (dateAndTime time ++ '.' :: twoDigits (time.micro / 10000) ++
    fourDigits (time.micro % 10000) ++ ['Z'])

def isDigit (char : Char) : Bool := decide ('0' ≤ char) && decide (char ≤ '9')

/-- The number that digits stand for. -/
def digitsValue (digits : List Char) : Nat :=
  digits.foldl (fun value char => value * 10 + (char.toNat - 48)) 0

/-- What follows blanks. -/
def skipBlanks (chars : List Char) : List Char := chars.dropWhile Text.isBlank

/-- A number of at least one and at most `width` digits, and what follows it. -/
def readNumber? (width : Nat) (chars : List Char) : Option (Nat × List Char) :=
  let digits := (chars.take width).takeWhile isDigit
  if digits.isEmpty then none else some (digitsValue digits, chars.drop digits.length)

/-- A number of up to two digits behind blanks. -/
def readTwo? (chars : List Char) : Option (Nat × List Char) := readNumber? 2 (skipBlanks chars)

/-- A year behind blanks: up to four digits, or any number of them after a sign. -/
def readYear? (chars : List Char) : Option (Int × List Char) :=
  match skipBlanks chars with
  | '-' :: rest => (readNumber? rest.length rest).map fun (year, rest) => (-(year : Int), rest)
  | '+' :: rest => (readNumber? rest.length rest).map fun (year, rest) => ((year : Int), rest)
  | rest => (readNumber? 4 rest).map fun (year, rest) => ((year : Int), rest)

/-- What follows an expected character. -/
def expect? (wanted : Char → Bool) : List Char → Option (List Char)
  | char :: rest => if wanted char then some rest else none
  | [] => none

/-- What follows a mark behind blanks. -/
def readMark? (mark : Char) (chars : List Char) : Option (List Char) :=
  expect? (· == mark) (skipBlanks chars)

/-- Microseconds of a fraction: its first six digits, filled up with zeros. -/
def microsOf (digits : List Char) : Nat :=
  digitsValue (digits.take 6 ++ List.replicate (6 - digits.length) '0')

/-- A fraction of a second, if there is one. -/
def readFraction? : List Char → Option (Nat × List Char)
  | '.' :: rest =>
    let digits := rest.takeWhile isDigit
    if digits.isEmpty then none else some (microsOf digits, rest.dropWhile isDigit)
  | rest => some (0, rest)

/-- Exactly two digits, and what follows them. -/
def readPair? : List Char → Option (Nat × List Char)
  | tens :: ones :: rest =>
    if isDigit tens && isDigit ones then some (digitsValue [tens, ones], rest) else none
  | _ => none

/-- Minutes east of universal time, and what follows: `Z`, `UTC` in any case, or a sign,
hours and minutes, with colons and blanks between these. -/
def readOffset? : List Char → Option (Int × List Char)
  | 'Z' :: rest | 'z' :: rest => some (0, rest)
  | [] => none
  | sign :: rest =>
    if ((sign :: rest).take 3).map Char.toUpper = ['U', 'T', 'C'] then some (0, rest.drop 2)
    else do
      let (hours, rest) ← readPair? rest
      let (minutes, rest) ← readPair? (rest.dropWhile fun char => char == ':' || Text.isBlank char)
      if 23 < hours ∨ 59 < minutes then none
      else if sign = '+' then some ((hours * 60 + minutes : Nat), rest)
      else if sign = '-' ∨ sign = '−' then some (-(hours * 60 + minutes : Nat), rest)
      else none

/-- The date after a date. -/
def nextDay (year : Int) (month day : Nat) : Int × Nat × Nat :=
  if day < daysInMonth year month then (year, month, day + 1)
  else if month < 12 then (year, month + 1, 1)
  else (year + 1, 1, 1)

/-- The date before a date. -/
def previousDay (year : Int) (month day : Nat) : Int × Nat × Nat :=
  if 1 < day then (year, month, day - 1)
  else if 1 < month then (year, month - 1, daysInMonth year (month - 1))
  else (year - 1, 12, 31)

/-- The timestamp that is `offset` minutes earlier. -/
def moveBack? (time : Timestamp) (offset : Int) : Option Timestamp :=
  let minutes : Int := (time.hour * 60 + time.minute : Nat) - offset
  let (year, month, day) :=
    if minutes < 0 then previousDay time.year time.month time.day
    else if 1440 ≤ minutes then nextDay time.year time.month time.day
    else (time.year, time.month, time.day)
  let ofDay := (minutes % 1440).toNat
  ofCivil? year month day (ofDay / 60) (ofDay % 60) time.second time.micro

/-- Reads a timestamp. -/
def parse? (text : String) : Option Timestamp := do
  let (year, rest) ← readYear? text.toList
  let rest ← readMark? '-' rest
  let (month, rest) ← readTwo? rest
  let rest ← readMark? '-' rest
  let (day, rest) ← readTwo? rest
  let rest ← expect? (fun char => char == 'T' || char == 't' || char == ' ') rest
  let (hour, rest) ← readTwo? rest
  let rest ← readMark? ':' rest
  let (minute, rest) ← readTwo? rest
  let rest ← readMark? ':' rest
  let (second, rest) ← readTwo? rest
  let (micro, rest) ← readFraction? rest
  let (offset, rest) ← readOffset? (skipBlanks rest)
  if (skipBlanks rest).isEmpty then
    let local_ ← ofCivil? year month day hour minute second micro
    if offset = 0 then pure local_ else local_.moveBack? offset
  else none

/-- Days from the first of January 1970 to a date; a year is counted from March, so
that the leap day is its last. -/
def daysSinceEpoch (year : Int) (month day : Nat) : Int :=
  let shifted : Int := if month ≤ 2 then year - 1 else year
  let era := shifted / 400
  let ofEra := shifted % 400
  let monthFromMarch : Int := (month + 9) % 12
  let ofYear := (153 * monthFromMarch + 2) / 5 + (day : Int) - 1
  era * 146097 + (ofEra * 365 + ofEra / 4 - ofEra / 100 + ofYear) - 719468

/-- Microseconds since the first second of 1970. -/
def toMicros (time : Timestamp) : Int :=
  ((daysSinceEpoch time.year time.month time.day * 86400 +
    (time.hour * 3600 + time.minute * 60 + time.second : Nat)) * 1000000) + time.micro

/-- Year, month and day of a count of days since 1970. -/
def dateOfDays (days : Int) : Int × Nat × Nat :=
  let shifted := days + 719468
  let era := shifted / 146097
  let ofEra := (shifted % 146097).toNat
  let yearOfEra := (ofEra - ofEra / 1460 + ofEra / 36524 - ofEra / 146096) / 365
  let ofYear := ofEra - (365 * yearOfEra + yearOfEra / 4 - yearOfEra / 100)
  let monthFromMarch := (5 * ofYear + 2) / 153
  let day := ofYear - (153 * monthFromMarch + 2) / 5 + 1
  let month := if monthFromMarch < 10 then monthFromMarch + 3 else monthFromMarch - 9
  let year := era * 400 + yearOfEra + (if month ≤ 2 then 1 else 0)
  (year, month, day)

/-- The timestamp of a count of microseconds; nothing outside the years of the calendar. -/
def ofMicros? (micros : Int) : Option Timestamp :=
  let (year, month, day) := dateOfDays (micros / 86400000000)
  let ofDay := (micros % 86400000000).toNat
  let second := ofDay / 1000000
  ofCivil? year month day (second / 3600) (second / 60 % 60) (second % 60) (ofDay % 1000000)

end Timestamp

end PlatformApps
