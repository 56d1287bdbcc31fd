import Remit.Text.Case

/-!
# Instructions

A payment instruction names an amount, a currency, the account to debit, the account to credit and
possibly a date. It is written in one of two forms, which name the accounts in opposite order:

    DEBIT 500 NGN FROM ACCOUNT A1 FOR CREDIT TO ACCOUNT A2 ON 2025-01-01
    CREDIT 500 NGN TO ACCOUNT A2 FOR DEBIT FROM ACCOUNT A1 ON 2025-01-01

This module holds the two forms with their keywords, and `Instruction.text`, which writes an
instruction in its form.
-/

namespace Remit

open Text

/-- The two forms of instructions, named for the word they open with. -/
inductive Form where
  | debit
  | credit
  deriving DecidableEq

namespace Form

/-- The word that opens the form. -/
def word : Form → Text
  | debit => "DEBIT".toList
  | credit => "CREDIT".toList

/-- The keyword before the account that is named first. -/
def firstKeyword : Form → List Text
  | debit => ["FROM".toList, "ACCOUNT".toList]
  | credit => ["TO".toList, "ACCOUNT".toList]

/-- The keyword before the account that is named second. -/
def secondKeyword : Form → List Text
  | debit => ["FOR".toList, "CREDIT".toList, "TO".toList, "ACCOUNT".toList]
  | credit => ["FOR".toList, "DEBIT".toList, "FROM".toList, "ACCOUNT".toList]

end Form

/-- The keyword before the date. -/
def dateKeyword : List Text := ["ON".toList]

/-- A keyword as it stands inside an instruction, with a space on either side. -/
def marker (keyword : List Text) : Text :=
  ' ' :: (unpieces keyword ++ [' '])

namespace Form

/-- The opening word with the space after it. -/
def opening (form : Form) : Text :=
  form.word ++ [' ']

/-- The marker of the first account. -/
def firstMarker (form : Form) : Text :=
  marker form.firstKeyword

/-- The marker of the second account. -/
def secondMarker (form : Form) : Text :=
  marker form.secondKeyword

end Form

/-- The marker of the date. -/
def dateMarker : Text :=
  marker dateKeyword

/-- What an instruction says. Amount and currency are the words as they stand in it; whether they
can be accepted is not decided here. -/
structure Instruction where
  form : Form
  amount : Text
  currency : Text
  debitAccount : Text
  creditAccount : Text
  executeBy : Option Text
  deriving DecidableEq

namespace Instruction

/-- The account that the form names first. -/
def firstAccount (i : Instruction) : Text :=
  match i.form with
  | .debit => i.debitAccount
  | .credit => i.creditAccount

/-- The account that the form names second. -/
def secondAccount (i : Instruction) : Text :=
  match i.form with
  | .debit => i.creditAccount
  | .credit => i.debitAccount

/-- The date with its keyword. A missing or empty date is not written. -/
def dateClause : Option Text → Text
  | none | some [] => []
  | some date => dateMarker ++ date

/-- An instruction written in its form. -/
def text (i : Instruction) : Text :=
  i.form.opening ++ i.amount ++ ' ' :: i.currency
    ++ i.form.firstMarker ++ i.firstAccount
    ++ i.form.secondMarker ++ i.secondAccount
    ++ dateClause i.executeBy

end Instruction
end Remit
