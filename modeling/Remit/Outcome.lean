import Remit.Transfer

/-!
# Outcomes

The outcome of a transfer: carried out today, or scheduled because its date is still to come. Both
new balances are worked out before anything is changed, so an amount that one of them cannot take
leaves both accounts as they were.
-/

namespace Remit

/-- How a request ended. -/
inductive Status where
  | successful
  | pending
  | failed
  deriving DecidableEq

/-- A transfer with what became of it. Its accounts are those after it, and the balances before it
are kept beside them. -/
structure Outcome extends Transfer where
  status : Status
  code : Code
  reason : String
  debitBefore : Balance
  creditBefore : Balance
  deriving DecidableEq

/-- Why a transfer cannot be carried out. -/
inductive ExecutionError where
  /-- Its date cannot be worked out. -/
  | schedule (error : ScheduleError)
  /-- A balance cannot take the amount. -/
  | balance (error : BalanceError)
  deriving DecidableEq

/-- The message of an execution error. -/
def ExecutionError.message : ExecutionError → String
  | schedule error => error.message
  | balance error => error.message

namespace Transfer

/-- The outcome of a transfer that is scheduled: the accounts stay as they are. -/
def scheduled (t : Transfer) : Outcome :=
  { toTransfer := t
    status := .pending, code := .AP02, reason := "Transaction scheduled for future execution"
    debitBefore := t.debitAccount.balance, creditBefore := t.creditAccount.balance }

/-- The outcome of a transfer that leaves the given balances. -/
def completed (t : Transfer) (debit credit : Balance) : Outcome :=
  { toTransfer := { t with
      debitAccount := { t.debitAccount with balance := debit }
      creditAccount := { t.creditAccount with balance := credit } }
    status := .successful, code := .AP00, reason := "Transaction executed successfully"
    debitBefore := t.debitAccount.balance, creditBefore := t.creditAccount.balance }

/-- The transfer carried out at once. -/
def complete (t : Transfer) : Except BalanceError Outcome := do
  let debit ← t.debitAccount.balance.debit t.amount
  let credit ← t.creditAccount.balance.credit t.amount
  .ok (t.completed debit credit)

/-- Carries a transfer out, or schedules it when its date is after today. -/
def execute (t : Transfer) (today : Date) : Except ExecutionError Outcome :=
  match isFuture t.executeBy today with
  | .error error => .error (.schedule error)
  | .ok true => .ok t.scheduled
  | .ok false => match t.complete with
    | .error error => .error (.balance error)
    | .ok outcome => .ok outcome

end Transfer
end Remit
