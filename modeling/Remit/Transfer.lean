import Remit.Account
import Remit.Instruction.Parse
import Remit.Text.Numeral

/-!
# Transfers

A transfer is an instruction that has been checked against the accounts: its amount is a number,
its currency is a supported one and its accounts are known. `Transfer.ofInstruction` makes the
checks in a fixed order and reports the first that fails: amount, currency, existence of both
accounts, distinctness, agreement of the currencies, funds.
-/

namespace Remit

open Text

/-- The amount that a text states. It must be positive; a minus sign or a point anywhere in the text
is reported before the text is read as a number. -/
def readAmount (t : Text) : Except Cause Int :=
  if t.isEmpty then .error .invalidAmount
  else if t.contains '-' then .error .negativeAmount
  else if t.contains '.' then .error .decimalAmount
  else match leadingInteger t with
    | some amount => if amount ≤ 0 then .error .invalidAmount else .ok amount
    | none => .error .invalidAmount

/-- The currency that a text states, in upper case. It must be one of the supported currencies, as
they are spelled in the list. -/
def readCurrency (supported : List Text) (t : Text) : Except Cause Text :=
  if t.isEmpty then .error .unsupportedCurrency
  else if supported.contains (upper t) then .ok (upper t)
  else .error .unsupportedCurrency

/-- A checked instruction, with the accounts it concerns. -/
structure Transfer where
  form : Form
  amount : Int
  currency : Text
  debitAccount : Account
  creditAccount : Account
  executeBy : Option Text
  deriving DecidableEq

/-- The accounts that an instruction names: the first with either id. -/
def Instruction.accounts? (i : Instruction) (accounts : List Account) :
    Option (Account × Account) := do
  let debit ← Account.find? accounts i.debitAccount
  let credit ← Account.find? accounts i.creditAccount
  some (debit, credit)

namespace Transfer

/-- Checks an instruction against the accounts. -/
def ofInstruction (supported : List Text) (accounts : List Account) (i : Instruction) :
    Except Cause Transfer := do
  let amount ← readAmount i.amount
  let currency ← readCurrency supported i.currency
  match i.accounts? accounts with
  | none => .error .accountNotFound
  | some (debit, credit) =>
    if debit.id = credit.id then .error .sameAccount
    else if upper debit.currency ≠ upper credit.currency ∨ upper debit.currency ≠ currency then
      .error .currencyMismatch
    else if debit.balance.isBelow amount then .error .insufficientFunds
    else .ok ⟨i.form, amount, currency, debit, credit, i.executeBy⟩

end Transfer
end Remit
