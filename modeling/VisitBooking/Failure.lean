import VisitBooking.Visit.Basic
import VisitBooking.Store.Fault
import VisitBooking.Calendar.Written

/-!
# Failures of operations

Why an operation on visits fails. A `Refusal` is the answer to a request that breaks a rule; it is
told in two parts, one for the user and one for the developer.

## Main definitions

* `Refusal`, `Refusal.message`, `Refusal.detail`.
* `Failure`, `Failure.message`.
-/

namespace VisitBooking

open Calendar

/-- What a visit of the past is not open to. -/
inductive PastAction where
  | changed
  | cancelled
deriving DecidableEq, Repr, Inhabited

/-- The rule that a request breaks. -/
inductive Refusal where
  /-- A visit to be booked has a status that is final. -/
  | bornTerminal (status : VisitStatus)
  /-- The visit would not begin before it ends. -/
  | badSlot (starts ends : LocalTime)
  /-- The support catalog has no such type. -/
  | unknownSupport (type : String)
  /-- The visit is in the past. -/
  | expired (reference : String) (action : PastAction)
  /-- The visit is cancelled and cannot be updated. -/
  | updateOfCancelled (reference : String)
  /-- Only a booked visit can get another slot. -/
  | notBooked (reference : String) (status : VisitStatus)
  /-- The status cannot move this way. -/
  | illegalMove (reference : String) (now next : VisitStatus)
  /-- A visit cannot be cancelled without an outcome. -/
  | outcomeMissing (reference : String)
  /-- The visit is cancelled already. -/
  | alreadyCancelled (reference : String)
  /-- Another rule, in words. -/
  | other (message detail : String)
deriving DecidableEq, Inhabited

/-- The name of a status in a message. -/
def VisitStatus.text (s : VisitStatus) : String := Enumeration.name s

/-- How a detail about a stored visit begins. -/
def aboutVisit (reference : String) : String := "Visit with booking reference - " ++ reference

namespace Refusal

/-- What the user is told. -/
def message : Refusal → String
  | .bornTerminal _ | .updateOfCancelled _ | .notBooked _ _ | .illegalMove _ _ _ =>
    "Invalid visit status"
  | .badSlot _ _ => "Invalid visit slot"
  | .unknownSupport _ => "Invalid support"
  | .expired _ _ => "trying to change / cancel an expired visit"
  | .outcomeMissing _ => "Outcome status is required"
  | .alreadyCancelled _ => "Visit already cancelled"
  | .other message _ => message

/-- What the developer is told. -/
def detail : Refusal → String
  | .bornTerminal status => "a visit cannot be created as " ++ status.text
  | .badSlot starts ends =>
    "visit start " ++ starts.display ++ " must be before visit end " ++ ends.display
  | .unknownSupport type => "Invalid support " ++ type ++ " not found"
  | .expired reference .changed =>
    aboutVisit reference ++ " is in the past, it cannot be changed"
  | .expired reference .cancelled =>
    aboutVisit reference ++ " is in the past, it cannot be cancelled"
  | .updateOfCancelled reference =>
    aboutVisit reference ++ " is cancelled, it cannot be changed"
  | .notBooked reference status =>
    aboutVisit reference ++ " is " ++ status.text ++ ", only BOOKED visits can be changed"
  | .illegalMove reference now next =>
    aboutVisit reference ++ " cannot move from " ++ now.text ++ " to " ++ next.text
  | .outcomeMissing reference =>
    aboutVisit reference ++ " cannot be cancelled without an outcome"
  | .alreadyCancelled reference => aboutVisit reference ++ " is already cancelled"
  | .other _ detail => detail

end Refusal

/-- Why an operation fails. -/
inductive Failure where
  /-- No visit has the reference. -/
  | notFound (reference : String)
  /-- The request breaks a rule. -/
  | refused (reason : Refusal)
  /-- The caller may not do this. -/
  | accessDenied (text : String)
  /-- The visit is written, and the event that tells of it was not taken. -/
  | notPublished (eventType topic : String)
  /-- The store does not do what it is asked for. -/
  | store (fault : StoreFault)
deriving DecidableEq, Inhabited

/-- The failure in words. -/
def Failure.message : Failure → String
  | .notFound reference => "visit reference " ++ reference ++ " not found"
  | .refused reason => reason.message ++ ": " ++ reason.detail
  | .accessDenied text => "access denied: " ++ text
  | .notPublished eventType topic => "failed to publish event " ++ eventType ++ " to " ++ topic
  | .store fault => "store error: " ++ fault.message

end VisitBooking
