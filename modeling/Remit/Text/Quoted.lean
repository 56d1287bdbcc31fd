import Remit.Text.Numeral
import Remit.Text.Printed

/-!
# Quoted texts in messages

`quoted` shows a text inside a message so that its ends and its invisible characters can be seen:
between quotes, with escapes for the characters that have no form in print. An escape is a letter
for the line ends and the tab, and else the character's code in two, four or eight hexadecimal
digits.
-/

namespace Remit.Text

/-- One character between quotes. The quote itself and the backslash follow a backslash. -/
def quotedChar (quote c : Char) : Text :=
  if c = quote ∨ c = '\\' then ['\\', c]
  else if c = '\n' then ['\\', 'n']
  else if c = '\r' then ['\\', 'r']
  else if c = '\t' then ['\\', 't']
  else if isPrinted c then [c]
  else if c.toNat < 0x100 then '\\' :: 'x' :: hexText 2 c.toNat
  else if c.toNat < 0x10000 then '\\' :: 'u' :: hexText 4 c.toNat
  else '\\' :: 'U' :: hexText 8 c.toNat

/-- A text in quotes: single ones, or double ones when it holds single quotes only. -/
def quoted (t : Text) : Text :=
  let quote := if t.contains '\'' && !t.contains '"' then '"' else '\''
  quote :: (t.flatMap (quotedChar quote) ++ [quote])

end Remit.Text
