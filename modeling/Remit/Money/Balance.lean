import Remit.Money.Double

/-!
# Balances

The balance of an account is an integer of any size or a binary64 number, and keeps its kind when
money moves. Integers change exactly. A binary64 balance changes by the nearest binary64 number to
the amount, and the result is rounded again; an amount beyond the range of binary64 numbers cannot
be taken from such a balance or added to it, even to an infinite one.
-/

namespace Remit

/-- What an account holds. -/
inductive Balance where
  /-- A whole number of currency units. -/
  | whole (units : Int)
  /-- A binary64 number of currency units. -/
  | real (value : Double)
  deriving DecidableEq

/-- Why an amount cannot be moved on an account. -/
inductive BalanceError where
  /-- The amount rounds to no finite binary64 number, but the balance is one. -/
  | amountTooLarge
  deriving DecidableEq

/-- The message of a balance error. -/
def BalanceError.message : BalanceError → String
  | amountTooLarge => "int too large to convert to float"

namespace Balance

/-- The balance after `amount` is added. -/
def credit (amount : Int) : Balance → Except BalanceError Balance
  | .whole units => .ok (.whole (units + amount))
  | .real value => match Double.ofInt? amount with
    | some x => .ok (.real (value.add x))
    | none => .error .amountTooLarge

/-- The balance after `amount` is taken away. -/
def debit (amount : Int) : Balance → Except BalanceError Balance
  | .whole units => .ok (.whole (units - amount))
  | .real value => match Double.ofInt? amount with
    | some x => .ok (.real (value.add x.neg))
    | none => .error .amountTooLarge

/-- Whether the balance is exactly less than `amount`. -/
def isBelow (amount : Int) : Balance → Bool
  | .whole units => units < amount
  | .real value => value.ltInt amount

end Balance
end Remit
