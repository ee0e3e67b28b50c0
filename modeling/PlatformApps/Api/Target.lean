/-
# Where a request goes

The address of a request is put together from names that may hold anything. Where a name
holds a mark of addresses, the mark does its usual work: a question mark ends the path,
and a number sign ends the address.
-/

import PlatformApps.Text.FormEncoded

namespace PlatformApps

structure Target where
  path : String
  /-- Names and values, not encoded. -/
  query : List (String × String)
  deriving DecidableEq, Repr

namespace Target

/-- Characters beyond ASCII are taken as they are. -/
private def isForeign (char : Char) : Bool := 0x80 ≤ char.toNat

/-- May the character stand in a path as it is? -/
def isPathChar (char : Char) : Bool :=
  (0x21 ≤ char.toNat && char.toNat ≤ 0x7E && char != '<' && char != '>' && char != '`') ||
    isForeign char

/-- May the character stand in a query as it is? -/
def isQueryChar (char : Char) : Bool :=
  (0x21 ≤ char.toNat && char.toNat ≤ 0x7E && char != '<' && char != '>' && char != '"') ||
    isForeign char

/-- Where an address leads, with parameters added to its query. -/
def ofAddress? (address : String) (parameters : List (String × String)) : Option Target :=
  let chars := address.toList
  let isInPath (char : Char) : Bool := char != '?' && char != '#'
  let path := chars.takeWhile isInPath
  if path.all isPathChar then
    match chars.dropWhile isInPath with
    | '?' :: rest =>
      let query := rest.takeWhile (· != '#')
      let added := if rest.contains '#' then [] else parameters
      if query.all isQueryChar then
        some ⟨String.ofList path, Text.FormEncoded.parse query ++ added⟩
      else none
    | '#' :: _ => some ⟨String.ofList path, []⟩
    | _ => some ⟨String.ofList path, parameters⟩
  else none

end Target

end PlatformApps
