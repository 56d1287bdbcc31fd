import Remit.Account
import Remit.Json.Value
import Remit.Text.Numeral

/-!
# Requests

A request names the accounts and the instruction. `Request.ofJson` checks the shape of a JSON value
and lists every fault in it: first those of the accounts in their order, each with its id, balance
and currency, then those of the instruction. Members with other names are ignored.
-/

namespace Remit

/-- A request: the accounts and an instruction for them. -/
structure Request where
  accounts : List Account
  instruction : Text
  deriving DecidableEq

/-! ## Faults -/

/-- What is wrong at some place of a request. -/
inductive ShapeProblem where
  /-- A member is missing. -/
  | missing
  /-- The request itself is no object. -/
  | notARequest
  /-- An account is no object. -/
  | notAnAccount
  /-- A list is wanted. -/
  | notAList
  /-- A text is wanted. -/
  | notAText
  /-- An integer is wanted. -/
  | notAnInteger
  /-- A number is wanted. -/
  | notANumber
  deriving DecidableEq

/-- The message of a problem. -/
def ShapeProblem.message : ShapeProblem → String
  | missing => "Field required"
  | notARequest => "Input should be a valid dictionary or instance of PaymentInstructionRequest"
  | notAnAccount => "Input should be a valid dictionary or instance of AccountIn"
  | notAList => "Input should be a valid list"
  | notAText => "Input should be a valid string"
  | notAnInteger => "Input should be a valid integer"
  | notANumber => "Input should be a valid number"

/-- A problem with the names and positions that lead to its place. -/
structure ShapeFault where
  path : List String
  problem : ShapeProblem
  deriving DecidableEq

/-- A fault inside a member, seen from outside. -/
def ShapeFault.under (step : String) (fault : ShapeFault) : ShapeFault :=
  { fault with path := step :: fault.path }

/-- A fault in words: its place and its problem. The request itself is called its body. -/
def ShapeFault.message (fault : ShapeFault) : String :=
  (if fault.path.isEmpty then "body" else ".".intercalate fault.path)
    ++ ": " ++ fault.problem.message

/-! ## Checking a value -/

/-- A value or the list of its faults. -/
abbrev Checked (α : Type) := Except (List ShapeFault) α

namespace Checked

/-- A single problem at the place itself. -/
def problem {α : Type} (p : ShapeProblem) : Checked α :=
  .error [⟨[], p⟩]

/-- A check of a member of an object. -/
def member {α : Type} (members : List (Text × Json)) (name : String) (check : Json → Checked α) :
    Checked α :=
  match Json.member? members name.toList with
  | none => .error [⟨[name], .missing⟩]
  | some value => (check value).mapError (·.map (·.under name))

/-- Two checks, with the faults of both. -/
def both {α β : Type} : Checked α → Checked β → Checked (α × β)
  | .ok a, .ok b => .ok (a, b)
  | .ok _, .error faults => .error faults
  | .error faults, .ok _ => .error faults
  | .error first, .error second => .error (first ++ second)

/-- Checks of the items of a list, which are numbered from `index` on. -/
def items {α : Type} (check : Json → Checked α) (index : Nat) : List Json → Checked (List α)
  | [] => .ok []
  | item :: rest =>
    (both ((check item).mapError (·.map (·.under (String.ofList (Text.natText index)))))
      (items check (index + 1) rest)).map fun (first, others) => first :: others

end Checked

/-- A text. -/
def Json.checkText : Json → Checked Text
  | .text value => .ok value
  | _ => .problem .notAText

/-- A balance: an integer or a binary64 number. Any other value is at fault as both. -/
def Json.checkBalance : Json → Checked Balance
  | .integer value => .ok (.whole value)
  | .real value => .ok (.real value)
  | _ => .error [⟨["int"], .notAnInteger⟩, ⟨["float"], .notANumber⟩]

/-- An account. -/
def Json.checkAccount : Json → Checked Account
  | .object members =>
    (Checked.both (.member members "id" checkText)
      (Checked.both (.member members "balance" checkBalance)
        (.member members "currency" checkText))).map
      fun (id, balance, currency) => ⟨id, balance, currency⟩
  | _ => .problem .notAnAccount

/-- A list of accounts. -/
def Json.checkAccounts : Json → Checked (List Account)
  | .list items => Checked.items checkAccount 0 items
  | _ => .problem .notAList

namespace Request

/-- The request that a value holds, or its faults. -/
def ofJson : Json → Checked Request
  | .object members =>
    (Checked.both (.member members "accounts" Json.checkAccounts)
      (.member members "instruction" Json.checkText)).map
      fun (accounts, instruction) => ⟨accounts, instruction⟩
  | _ => .problem .notARequest

end Request

/-- The reason given for a request with faults. -/
def faultReason (faults : List ShapeFault) : String :=
  "Invalid request payload: " ++ "; ".intercalate (faults.map ShapeFault.message)

end Remit
