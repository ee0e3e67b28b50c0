/-
# Quoted texts in messages

Messages show a text in double quotes with every character that would not be visible
replaced by an escape, so that two different texts never look the same.
-/

import PlatformApps.Text.Printable
import PlatformApps.Text.Extending

namespace PlatformApps.Text

/-- A character inside a quoted text. -/
def quotedChar (char : Char) : List Char :=
  if char = '\x00' then ['\\', '0']
  else if char = '\t' then ['\\', 't']
  else if char = '\r' then ['\\', 'r']
  else if char = '\n' then ['\\', 'n']
  else if char = '"' then ['\\', '"']
  else if char = '\\' then ['\\', '\\']
  else if isExtending char || !isPrintable char then
    ['\\', 'u', '{'] ++ Nat.toDigits 16 char.toNat ++ ['}']
  else [char]

/-- A text in quotes, with escapes. -/
def quoted (text : String) : String :=
  "\"" ++ String.ofList (text.toList.flatMap quotedChar) ++ "\""

end PlatformApps.Text
