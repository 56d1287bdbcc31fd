import Remit.Outcome

/-!
# Responses

What the sender of a request is told. `Response.ofOutcome` reports a transfer that was carried out
or scheduled; `Response.ofFailure` reports a refusal and repeats the instruction as far as it could
be read. The accounts concerned are listed in the order in which the request first names them.
-/

namespace Remit

open Text

/-- An account in a response, with its balance before and after. -/
structure Entry where
  id : Text
  balance : Balance
  balanceBefore : Balance
  currency : Text
  deriving DecidableEq

/-- A response to a request. Fields of the instruction are absent when it could not be read. -/
structure Response where
  form : Option Form
  amount : Option Int
  currency : Option Text
  debitAccount : Option Text
  creditAccount : Option Text
  executeBy : Option Text
  status : Status
  reason : String
  code : Code
  accounts : List Entry
  deriving DecidableEq

/-- A text, unless it is empty. -/
def nonEmpty? (t : Text) : Option Text :=
  if t.isEmpty then none else some t

namespace Response

/-- Entries with one more put before the first whose place is not before its own. -/
def insertByPlace (place : Entry → Nat) (e : Entry) : List Entry → List Entry
  | [] => [e]
  | e' :: rest =>
    if place e ≤ place e' then e :: e' :: rest else e' :: insertByPlace place e rest

/-- Entries sorted by their places. Those with the same place stay in the order in which they
are. -/
def sortByPlace (place : Entry → Nat) (entries : List Entry) : List Entry :=
  entries.foldr (insertByPlace place) []

/-- Entries in the order of the request's accounts. Ids that are not in the request come last. -/
def inRequestOrder (accounts : List Account) (entries : List Entry) : List Entry :=
  let table := Account.firstPositions accounts
  sortByPlace (fun e => (Account.positionIn? table e.id).getD accounts.length) entries

/-! ## Success -/

/-- An account after a transfer, with the balance it had before. -/
def changedEntry (account : Account) (before : Balance) : Entry :=
  ⟨account.id, account.balance, before, upper account.currency⟩

/-- The response to a transfer that was carried out or scheduled. -/
def ofOutcome (o : Outcome) (accounts : List Account) : Response :=
  { form := some o.form, amount := some o.amount, currency := some o.currency
    debitAccount := some o.debitAccount.id, creditAccount := some o.creditAccount.id
    executeBy := o.executeBy.bind nonEmpty?
    status := o.status, reason := o.reason, code := o.code
    accounts := inRequestOrder accounts [changedEntry o.debitAccount o.debitBefore,
      changedEntry o.creditAccount o.creditBefore] }

/-! ## Refusal -/

/-- An account that was not changed. -/
def unchangedEntry (account : Account) : Entry :=
  ⟨account.id, account.balance, account.balance, upper account.currency⟩

/-- A response that tells nothing about the instruction. -/
def unread (reason : String) (code : Code) : Response :=
  { form := none, amount := none, currency := none, debitAccount := none, creditAccount := none
    executeBy := none, status := .failed, reason, code, accounts := [] }

/-- The entries of the accounts that a refused instruction names, if the request has both. -/
def concerned (i : Instruction) (accounts : List Account) : List Entry :=
  if i.debitAccount.isEmpty || i.creditAccount.isEmpty then []
  else match i.accounts? accounts with
    | some (debit, credit) =>
      inRequestOrder accounts [unchangedEntry debit, unchangedEntry credit]
    | none => []

/-- The response to a refused instruction. A failure without a code counts as `SY03`, and one
without a reason as unexpected. -/
def ofFailure (failure : Failure) (parsed : Option Instruction) (accounts : List Account) :
    Response :=
  let code := failure.code.getD .SY03
  let reason := if failure.reason.isEmpty then Cause.unexpected.message else failure.reason
  match parsed with
  | none => unread reason code
  | some i =>
    if code.isUnreadable then unread reason code
    else
      { form := some i.form, amount := leadingInteger i.amount
        currency := nonEmpty? (upper i.currency)
        debitAccount := nonEmpty? i.debitAccount, creditAccount := nonEmpty? i.creditAccount
        executeBy := i.executeBy.bind nonEmpty?
        status := .failed, reason, code, accounts := concerned i accounts }

end Response
end Remit
