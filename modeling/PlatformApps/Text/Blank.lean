/-
# White space and affixes

White space in the sense of Unicode: the ASCII blanks, the next-line control, and the
space and line separators. The functions here cut texts at their ends.
-/

namespace PlatformApps.Text

/-- Is the character white space? -/
def isBlank (char : Char) : Bool :=
  let code := char.toNat
  (9 ≤ code && code ≤ 13) || code == 0x20 || code == 0x85 || code == 0xA0 || code == 0x1680 ||
    (0x2000 ≤ code && code ≤ 0x200A) || code == 0x2028 || code == 0x2029 || code == 0x202F ||
    code == 0x205F || code == 0x3000

/-- The characters without those at the end that satisfy a test. -/
def dropEndWhile (test : Char → Bool) (chars : List Char) : List Char :=
  (chars.reverse.dropWhile test).reverse

/-- A text without the white space at both ends. -/
def trim (text : String) : String :=
  String.ofList (dropEndWhile isBlank (text.toList.dropWhile isBlank))

/-- A text without the leading characters equal to `char`. -/
def trimStart (char : Char) (text : String) : String :=
  String.ofList (text.toList.dropWhile (· == char))

/-- A text without the trailing characters equal to `char`. -/
def trimEnd (char : Char) (text : String) : String :=
  String.ofList (dropEndWhile (· == char) text.toList)

/-- What is before and behind the first occurrence of a character. -/
def cutAt? (char : Char) (chars : List Char) : Option (List Char × List Char) :=
  match chars.dropWhile (· != char) with
  | [] => none
  | _ :: behind => some (chars.takeWhile (· != char), behind)

/-- What is before and behind the last occurrence of a character. -/
def cutAtLast? (char : Char) (chars : List Char) : Option (List Char × List Char) :=
  (cutAt? char chars.reverse).map fun (behind, before) => (before.reverse, behind.reverse)

/-- The characters before an ending; nothing when the text does not end so. -/
def withoutEnding? (ending text : String) : Option String :=
  let whole := text.toList
  let tail := ending.toList
  if tail.length ≤ whole.length ∧ whole.drop (whole.length - tail.length) = tail then
    some (String.ofList (whole.take (whole.length - tail.length)))
  else none

end PlatformApps.Text
