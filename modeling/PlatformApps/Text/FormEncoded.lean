/-
# Names and values in a query

The query of an address lists names with values: `&` stands between two of them, `=` in
front of a value. Blanks are written as `+`, and any byte may be written as `%` and two
hexadecimal digits.
-/

import PlatformApps.Text.Blank
import PlatformApps.Text.Utf8

namespace PlatformApps.Text.FormEncoded

private def hexValue? (byte : UInt8) : Option Nat :=
  let code := byte.toNat
  if 48 ≤ code ∧ code ≤ 57 then some (code - 48)
  else if 65 ≤ code ∧ code ≤ 70 then some (code - 55)
  else if 97 ≤ code ∧ code ≤ 102 then some (code - 87)
  else none

/-- The bytes that are meant. A `%` without two digits stands for itself. -/
def plainBytes : List UInt8 → List UInt8
  | 37 :: high :: low :: rest =>
    match hexValue? high, hexValue? low with
    | some high, some low => UInt8.ofNat (high * 16 + low) :: plainBytes rest
    | _, _ => 37 :: plainBytes (high :: low :: rest)
  | byte :: rest => byte :: plainBytes rest
  | [] => []

/-- A name or a value. -/
def decode (chars : List Char) : String :=
  let blanked := chars.map fun char => if char = '+' then ' ' else char
  Utf8.decodeLossy (plainBytes (Utf8.encode (String.ofList blanked)))

/-- The parts between the occurrences of a mark. -/
def pieces (mark : Char) : List Char → List (List Char)
  | [] => [[]]
  | char :: rest =>
    if char = mark then [] :: pieces mark rest
    else
      match pieces mark rest with
      | [] => [[char]]
      | first :: others => (char :: first) :: others

/-- A name, and its value or the empty one. -/
def pair (chars : List Char) : String × String :=
  match cutAt? '=' chars with
  | some (name, value) => (decode name, decode value)
  | none => (decode chars, "")

/-- The names and values of a query. -/
def parse (query : List Char) : List (String × String) :=
  ((pieces '&' query).filter fun piece => !piece.isEmpty).map pair

end PlatformApps.Text.FormEncoded
