/-
# Words that are not texts

A word written without quotes stands for null, a truth value or a number when it has the
form of one. `isText` tells which words stand for themselves; a writer has to quote all
others.
-/

import PlatformApps.Binary64

namespace PlatformApps.Yaml.Word

def isNull (word : String) : Bool := ["", "~", "null", "Null", "NULL"].contains word

def truth? (word : String) : Option Bool :=
  if ["true", "True", "TRUE"].contains word then some true
  else if ["false", "False", "FALSE"].contains word then some false
  else none

def digit? (base : Nat) (char : Char) : Option Nat :=
  let code := char.toNat
  let value? :=
    if 48 ≤ code ∧ code ≤ 57 then some (code - 48)
    else if 97 ≤ code ∧ code ≤ 102 then some (code - 87)
    else if 65 ≤ code ∧ code ≤ 70 then some (code - 55)
    else none
  value?.filter (· < base)

/-- The value of one or more digits. -/
def natural? (base : Nat) (digits : List Char) : Option Nat :=
  if digits.isEmpty then none
  else (digits.mapM (digit? base)).map fun values =>
    values.foldl (fun value digit => value * base + digit) 0

/-- A sign at the front, and the rest. -/
def cutSign : List Char → Bool × List Char
  | '-' :: rest => (true, rest)
  | '+' :: rest => (false, rest)
  | chars => (false, chars)

def baseOf? : Char → Option Nat
  | 'x' => some 16
  | 'o' => some 8
  | 'b' => some 2
  | _ => none

/-- An integer of at most 128 bits, with or without a mark for its base. -/
def isInteger (chars : List Char) : Bool :=
  let (negative, body) := cutSign chars
  let value? :=
    match body with
    | '0' :: mark :: digits =>
      match baseOf? mark with
      | some base => natural? base digits
      | none => natural? 10 body
    | _ => natural? 10 body
  value?.any fun value => if negative then value ≤ Nat.pow 2 127 else value < Nat.pow 2 128

/-- Digits behind a superfluous zero; such a word is no number, yet easily taken for one. -/
def isPadded (chars : List Char) : Bool :=
  match (cutSign chars).2 with
  | '0' :: next :: rest => (next :: rest).all Char.isDigit
  | _ => false

/-- The exponent behind its mark; nothing for a malformed one. -/
def exponent? : List Char → Option Int
  | [] => some 0
  | mark :: rest =>
    if mark = 'e' ∨ mark = 'E' then
      let (negative, digits) := cutSign rest
      (natural? 10 digits).map fun value => if negative then -(value : Int) else value
    else none

/-- A decimal number with a point or an exponent, in the range of finite numbers. -/
def isDecimal (chars : List Char) : Bool :=
  let (negative, body) := cutSign chars
  let whole := body.takeWhile Char.isDigit
  let behind := body.dropWhile Char.isDigit
  let (fraction, tail) :=
    match behind with
    | '.' :: rest => (rest.takeWhile Char.isDigit, rest.dropWhile Char.isDigit)
    | rest => ([], rest)
  match natural? 10 (whole ++ fraction), exponent? tail with
  | some digits, some exponent =>
    (Binary64.ofDecimal negative digits (exponent - fraction.length)).isSome
  | _, _ => false

/-- A number, an infinity, or the word for what is not a number. -/
def isFloat (word : String) : Bool :=
  [".inf", ".Inf", ".INF", "+.inf", "+.Inf", "+.INF", "-.inf", "-.Inf", "-.INF",
    ".nan", ".NaN", ".NAN"].contains word || isDecimal word.toList

/-- Does the word stand for itself? -/
def isText (word : String) : Bool :=
  !(isNull word || (truth? word).isSome || isInteger word.toList || isPadded word.toList ||
    isFloat word)

end PlatformApps.Yaml.Word
