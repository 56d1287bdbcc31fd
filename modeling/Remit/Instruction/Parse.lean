import Remit.Calendar.Schedule
import Remit.Failure
import Remit.Instruction.Basic

/-!
# Reading instructions

`Instruction.parse` reads the text of an instruction. The text is normalized first. Keywords are
then looked for in its upper case, so their letters may be of either case, and the fields between
them are cut from the text itself. Positions found in the upper case are used on the text as they
are, also where a character's upper case is longer than the character.

Of several faults the first in this order is reported: an opening word that is neither `DEBIT` nor
`CREDIT`, a missing keyword, keywords out of order, fewer than two words before the first keyword,
a malformed date, a malformed account id.
-/

namespace Remit

open Text

/-- A character of account ids: an ASCII letter or digit, a hyphen, an at sign or a point. -/
def isAccountIdChar (c : Char) : Bool :=
  c.isAlphanum || c = '-' || c = '@' || c = '.'

/-- A well-formed account id. -/
def isAccountId (t : Text) : Bool :=
  !t.isEmpty && t.all isAccountIdChar

/-- The form that an upper-case text opens with. -/
def Form.ofOpening? (upperText : Text) : Option Form :=
  if Form.debit.opening.isPrefixOf upperText then some .debit
  else if Form.credit.opening.isPrefixOf upperText then some .credit
  else none

/-- Where the keywords of an instruction stand. -/
structure Marks where
  first : Nat
  second : Nat
  date : Option Nat

/-- The first places of the form's markers in an upper-case text. Both account markers must be
there, and the second not before the first. -/
def Form.marks (form : Form) (upperText : Text) : Except Cause Marks :=
  match indexOf? form.firstMarker upperText, indexOf? form.secondMarker upperText with
  | some first, some second =>
    if second < first then .error .invalidKeywordOrder
    else .ok ⟨first, second, indexOf? dateMarker upperText⟩
  | _, _ => .error .missingKeyword

/-- The amount and the currency in the field before the first keyword: its first word and the words
after it. -/
def amountAndCurrency (field : Text) : Except Cause (Text × Text) :=
  match (trim field).splitOn ' ' with
  | amount :: currency :: more => .ok (amount, unpieces (currency :: more))
  | _ => .error .malformedInstruction

/-- The date in the field after the date keyword, if it is not blank. -/
def dateField (field : Text) : Except Cause (Option Text) :=
  let date := trim field
  if date.isEmpty then .ok none
  else if isDateText date then .ok (some date)
  else .error .invalidDateFormat

namespace Instruction

/-- The instruction with the given fields, if both account ids are well formed. -/
def ofFields (form : Form) (amount currency first second : Text) (executeBy : Option Text) :
    Except Cause Instruction :=
  if isAccountId first && isAccountId second then
    match form with
    | .debit => .ok ⟨form, amount, currency, first, second, executeBy⟩
    | .credit => .ok ⟨form, amount, currency, second, first, executeBy⟩
  else .error .invalidAccountId

/-- Reads a normalized text of a known form, given its upper case. -/
def ofForm (form : Form) (clean upperText : Text) : Except Cause Instruction := do
  let marks ← form.marks upperText
  let (amount, currency) ← amountAndCurrency (cut clean form.opening.length marks.first)
  let first := trim (cut clean (marks.first + form.firstMarker.length) marks.second)
  let stop := marks.date.getD clean.length
  let second := trim (cut clean (marks.second + form.secondMarker.length) stop)
  let executeBy ← match marks.date with
    | none => .ok none
    | some place => dateField (clean.drop (place + dateMarker.length))
  ofFields form amount currency first second executeBy

/-- Reads an instruction. -/
def parse (t : Text) : Except Cause Instruction :=
  let clean := normalize t
  let upperText := upper clean
  match Form.ofOpening? upperText with
  | some form => ofForm form clean upperText
  | none => .error .malformedInstruction

end Instruction
end Remit
