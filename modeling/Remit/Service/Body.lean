import Remit.Json.Write
import Remit.Response

/-!
# Response bodies

Responses as JSON values. Fields that a response does not have are null, and the members stand in a
fixed order.
-/

namespace Remit

/-- The word for a status. -/
def Status.word : Status → String
  | successful => "successful"
  | pending => "pending"
  | failed => "failed"

/-- A code as it is written. -/
def Code.word : Code → String
  | AP00 => "AP00"
  | AP02 => "AP02"
  | SY01 => "SY01"
  | SY02 => "SY02"
  | SY03 => "SY03"
  | AM01 => "AM01"
  | CU01 => "CU01"
  | CU02 => "CU02"
  | AC01 => "AC01"
  | AC02 => "AC02"
  | AC03 => "AC03"
  | AC04 => "AC04"
  | DT01 => "DT01"

namespace Json

/-- A word as a JSON text. -/
def word (s : String) : Json :=
  .text s.toList

/-- An object with members named by words. -/
def ofMembers (members : List (String × Json)) : Json :=
  .object (members.map fun (name, value) => (name.toList, value))

end Json

/-- A balance as a number of its kind. -/
def Balance.toJson : Balance → Json
  | .whole units => .integer units
  | .real value => .real value

/-- An account of a response. -/
def Entry.toJson (e : Entry) : Json :=
  .ofMembers [("id", .text e.id), ("balance", e.balance.toJson),
    ("balance_before", e.balanceBefore.toJson), ("currency", .text e.currency)]

/-- A response. -/
def Response.toJson (r : Response) : Json :=
  .ofMembers [
    ("type", .ofOption (fun form => .text form.word) r.form),
    ("amount", .ofOption .integer r.amount),
    ("currency", .ofOption .text r.currency),
    ("debit_account", .ofOption .text r.debitAccount),
    ("credit_account", .ofOption .text r.creditAccount),
    ("execute_by", .ofOption .text r.executeBy),
    ("status", .word r.status.word),
    ("status_reason", .word r.reason),
    ("status_code", .word r.code.word),
    ("accounts", .list (r.accounts.map Entry.toJson))]

end Remit
