import Remit.Json.Value
import Remit.Money.Decimal

/-!
# Writing JSON

`Json.write` writes a value without spaces. Quotes, backslashes and control characters are escaped;
all other characters stand for themselves. `Json.isWritable` says which values can be written: their
numbers are finite, and their integers have at most `digitLimit` digits.
-/

namespace Remit

open Text

/-- One character inside a quoted text. Control characters without a letter of their own are given
by four hexadecimal digits. -/
def escapedChar (c : Char) : Text :=
  if c = '"' then ['\\', '"']
  else if c = '\\' then ['\\', '\\']
  else if c = '\n' then ['\\', 'n']
  else if c = '\r' then ['\\', 'r']
  else if c = '\t' then ['\\', 't']
  else if c = '\x08' then ['\\', 'b']
  else if c = '\x0c' then ['\\', 'f']
  else if c.toNat < 0x20 then '\\' :: 'u' :: hexText 4 c.toNat
  else [c]

/-- A text in quotes. -/
def quotedText (t : Text) : Text :=
  '"' :: (t.flatMap escapedChar ++ ['"'])

namespace Json

mutual

/-- A value as JSON text. -/
def write : Json → Text
  | .null => "null".toList
  | .bool true => "true".toList
  | .bool false => "false".toList
  | .integer value => integerText value
  | .real value => value.text
  | .text value => quotedText value
  | .list items => '[' :: (writeItems items ++ [']'])
  | .object members => '\x7b' :: (writeMembers members ++ ['\x7d'])

/-- The items of a list with commas between them. -/
def writeItems : List Json → Text
  | [] => []
  | [item] => write item
  | item :: next :: rest => write item ++ ',' :: writeItems (next :: rest)

/-- The members of an object with commas between them. -/
def writeMembers : List (Text × Json) → Text
  | [] => []
  | [(name, value)] => quotedText name ++ ':' :: write value
  | (name, value) :: next :: rest =>
    quotedText name ++ ':' :: (write value ++ ',' :: writeMembers (next :: rest))

end

mutual

/-- Whether a value can be written as JSON. -/
def isWritable : Json → Bool
  | .integer value => (natText value.natAbs).length ≤ digitLimit
  | .real (.finite ..) => true
  | .real _ => false
  | .list items => areItemsWritable items
  | .object members => areMembersWritable members
  | _ => true

/-- Whether every item can be written. -/
def areItemsWritable : List Json → Bool
  | [] => true
  | item :: rest => isWritable item && areItemsWritable rest

/-- Whether every member can be written. -/
def areMembersWritable : List (Text × Json) → Bool
  | [] => true
  | (_, value) :: rest => isWritable value && areMembersWritable rest

end

end Json
end Remit
