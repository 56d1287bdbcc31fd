import Remit.Money.Balance
import Remit.Text.Basic

/-!
# Accounts

A request comes with a list of accounts. Ids may occur more than once in it; everywhere the first
account with an id is the one that is meant. `Account.find?` looks it up, `Account.firstPositions`
is a table of where it stands, and `Account.setBalance` changes it.
-/

namespace Remit

/-- An account with its balance. -/
structure Account where
  id : Text
  balance : Balance
  currency : Text
  deriving DecidableEq

namespace Account

/-- The first account with an id. -/
def find? (accounts : List Account) (id : Text) : Option Account :=
  List.find? (·.id = id) accounts

/-- The position that a table has for an id. -/
def positionIn? (table : List (Text × Nat)) (id : Text) : Option Nat :=
  (table.find? (·.1 = id)).map (·.2)

/-- A table with a position entered for an id. An id that has a position keeps it. -/
def enter (table : List (Text × Nat)) (id : Text) (i : Nat) : List (Text × Nat) :=
  if (positionIn? table id).isSome then table else table ++ [(id, i)]

/-- The table of the positions at which ids first occur, entered from the first account on. -/
def firstPositions (accounts : List Account) : List (Text × Nat) :=
  accounts.zipIdx.foldl (fun table entry => enter table entry.1.id entry.2) []

/-- The accounts after the first one with an id is given a balance. -/
def setBalance (id : Text) (balance : Balance) : List Account → List Account
  | [] => []
  | account :: rest =>
    if account.id = id then { account with balance } :: rest
    else account :: setBalance id balance rest

end Account
end Remit
