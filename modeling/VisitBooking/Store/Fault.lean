import VisitBooking.Text.Quoted
import VisitBooking.Text.Decimal

/-!
# Faults of the store

## Main definitions

* `StoreFault`: why the store does not do what it is asked for.
* `StoreFault.message`: the same in words.
-/

namespace VisitBooking

/-- Why the store does not do what it is asked for. -/
inductive StoreFault where
  /-- A constraint on the rows would not hold. -/
  | constraint
  /-- A column holds no date and time. -/
  | unreadableTime
  /-- A column holds a name that is not in the vocabulary. -/
  | unknownValue (column value : String)
  /-- A row that is to be changed cannot be read. The transaction is given up, so this is told as a
  fault of the database, whatever the cause. -/
  | unreadableRow (cause : StoreFault)
  /-- No row has the identity. -/
  | noSuchId (id : Int)
  /-- The row was written after the visit had been read. -/
  | conflict (id : Int)
  /-- Anything else, in words. -/
  | other (text : String)
deriving DecidableEq, Repr, Inhabited

/-- An integer in words. -/
def intText (i : Int) : String := String.ofList (Text.signed i)

/-- The fault in words. What the database and the reader of times add after these words, each with a
colon before it, is left out: it is theirs to choose. -/
def StoreFault.message : StoreFault → String
  | .constraint | .unreadableRow _ => "database error"
  | .unreadableTime => "date/time parse error"
  | .unknownValue column value => "unknown " ++ column ++ " value: " ++ Text.quote value
  | .noSuchId id => "visit " ++ intText id ++ " not found"
  | .conflict id => "visit " ++ intText id ++ " was modified concurrently"
  | .other text => text

end VisitBooking
