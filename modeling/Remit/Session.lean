import Remit.Processing

/-!
# Sessions

A session keeps a list of accounts and responds to one instruction after another. After each, the
balances in the response are written back: each goes to the first account with its id.
-/

namespace Remit

/-- The accounts with the balances of a response written back. -/
def settle (accounts : List Account) (entries : List Entry) : List Account :=
  entries.foldl (fun accounts entry => Account.setBalance entry.id entry.balance accounts) accounts

namespace Session

/-- One step of a session: an instruction, and the day on which it arrives. -/
structure Step where
  instruction : Text
  today : Date

/-- The response to a step. -/
def respond (supported : List Text) (accounts : List Account) (step : Step) : Response :=
  Request.respond supported step.today ⟨accounts, step.instruction⟩

/-- The accounts after a step. -/
def next (supported : List Text) (accounts : List Account) (step : Step) : List Account :=
  settle accounts (respond supported accounts step).accounts

/-- The response to each step, and the accounts after it. -/
def run (supported : List Text) (accounts : List Account) :
    List Step → List (Response × List Account)
  | [] => []
  | step :: rest =>
    (respond supported accounts step, next supported accounts step)
      :: run supported (next supported accounts step) rest

end Session
end Remit
