import VisitBooking.Json.Number

/-!
# Values

The members of an object keep their order.
-/

namespace VisitBooking.Json

/-- A value. -/
inductive Value where
  | null
  | bool (b : Bool)
  | number (n : Number)
  | text (s : String)
  | list (items : List Value)
  | object (members : List (String × Value))
deriving Repr, Inhabited

namespace Value

/-- An integer. -/
def int (i : Int) : Value := .number (.ofInt i)

/-- A value that may be missing; null stands for it. -/
def ofOption {α : Type} (f : α → Value) : Option α → Value
  | none => .null
  | some a => f a

/-- A list of values. -/
def ofList {α : Type} (f : α → Value) (as : List α) : Value := .list (as.map f)

/-- The first member of an object with the given name. -/
def get? (name : String) : Value → Option Value
  | .object members => members.lookup name
  | _ => none

end Value

end VisitBooking.Json
