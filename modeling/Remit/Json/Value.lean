import Remit.Money.Double
import Remit.Text.Basic

/-!
# JSON values

Requests and responses are JSON values. Numbers keep their kind, integer or binary64, and an object
keeps its members in the order in which they are written; of members with one name the last counts.
-/

namespace Remit

/-- A JSON value. -/
inductive Json where
  | null
  | bool (value : Bool)
  | integer (value : Int)
  | real (value : Double)
  | text (value : Text)
  | list (items : List Json)
  | object (members : List (Text × Json))

namespace Json

/-- The value of the last member with a name. -/
def member? (members : List (Text × Json)) (name : Text) : Option Json :=
  (members.reverse.find? (·.1 = name)).map (·.2)

/-- A value, or null where there is none. -/
def ofOption {α : Type} (f : α → Json) : Option α → Json
  | none => .null
  | some x => f x

end Json
end Remit
