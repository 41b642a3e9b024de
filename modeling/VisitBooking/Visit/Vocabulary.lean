import VisitBooking.Enumeration

/-!
# Vocabulary of a visit

The closed lists of values that a visit is described with, and the order in which the status of a
visit may move.

## Main definitions

* `VisitType`, `VisitStatus`, `Restriction`, `Outcome`, `NoteType`.
* `VisitStatus.isTerminal`, `VisitStatus.canBecome`.
-/

namespace VisitBooking

/-- What kind of visit it is. -/
inductive VisitType where
  | social
  | standardSocial
deriving DecidableEq, Repr, Inhabited

instance : Enumeration VisitType where
  members := [.social, .standardSocial]
  name
    | .social => "SOCIAL"
    | .standardSocial => "STANDARD_SOCIAL"
  mem_members a := by cases a <;> decide
  names_nodup := by decide

/-- How far a visit has got. It only moves forward. -/
inductive VisitStatus where
  | reserved
  | booked
  | cancelled
deriving DecidableEq, Repr, Inhabited

instance : Enumeration VisitStatus where
  members := [.reserved, .booked, .cancelled]
  name
    | .reserved => "RESERVED"
    | .booked => "BOOKED"
    | .cancelled => "CANCELLED"
  mem_members a := by cases a <;> decide
  names_nodup := by decide

namespace VisitStatus

/-- Nothing follows this status. -/
def isTerminal : VisitStatus → Bool
  | .cancelled => true
  | .reserved | .booked => false

/-- An update may move a visit from one status to the other. Being cancelled is no such move: it
needs an outcome and has an operation of its own. -/
def canBecome : VisitStatus → VisitStatus → Bool
  | .reserved, .reserved | .reserved, .booked | .booked, .booked => true
  | _, _ => false

end VisitStatus

/-- Which pool of rooms a visit takes from. -/
inductive Restriction where
  | openVisit
  | closedVisit
deriving DecidableEq, Repr, Inhabited

instance : Enumeration Restriction where
  members := [.openVisit, .closedVisit]
  name
    | .openVisit => "OPEN"
    | .closedVisit => "CLOSED"
  mem_members a := by cases a <;> decide
  names_nodup := by decide

/-- How a visit ended, or why it did not take place. -/
inductive Outcome where
  | administrativeCancellation
  | administrativeError
  | batchCancellation
  | cancellation
  | completedNormally
  | establishmentCancelled
  | notRecorded
  | noVisitingOrder
  | prisonerCancelled
  | prisonerCompletedEarly
  | prisonerRefusedToAttend
  | supersededCancellation
  | terminatedByStaff
  | visitorCancelled
  | visitorCompletedEarly
  | visitorDeclinedEntry
  | visitorDidNotArrive
  | visitorFailedSecurityChecks
  | visitOrderCancelled
deriving DecidableEq, Repr

/-- An outcome that nobody wrote down. -/
instance : Inhabited Outcome := ⟨.notRecorded⟩

instance : Enumeration Outcome where
  members := [.administrativeCancellation, .administrativeError, .batchCancellation, .cancellation,
    .completedNormally, .establishmentCancelled, .notRecorded, .noVisitingOrder,
    .prisonerCancelled, .prisonerCompletedEarly, .prisonerRefusedToAttend,
    .supersededCancellation, .terminatedByStaff, .visitorCancelled, .visitorCompletedEarly,
    .visitorDeclinedEntry, .visitorDidNotArrive, .visitorFailedSecurityChecks,
    .visitOrderCancelled]
  name
    | .administrativeCancellation => "ADMINISTRATIVE_CANCELLATION"
    | .administrativeError => "ADMINISTRATIVE_ERROR"
    | .batchCancellation => "BATCH_CANCELLATION"
    | .cancellation => "CANCELLATION"
    | .completedNormally => "COMPLETED_NORMALLY"
    | .establishmentCancelled => "ESTABLISHMENT_CANCELLED"
    | .notRecorded => "NOT_RECORDED"
    | .noVisitingOrder => "NO_VISITING_ORDER"
    | .prisonerCancelled => "PRISONER_CANCELLED"
    | .prisonerCompletedEarly => "PRISONER_COMPLETED_EARLY"
    | .prisonerRefusedToAttend => "PRISONER_REFUSED_TO_ATTEND"
    | .supersededCancellation => "SUPERSEDED_CANCELLATION"
    | .terminatedByStaff => "TERMINATED_BY_STAFF"
    | .visitorCancelled => "VISITOR_CANCELLED"
    | .visitorCompletedEarly => "VISITOR_COMPLETED_EARLY"
    | .visitorDeclinedEntry => "VISITOR_DECLINED_ENTRY"
    | .visitorDidNotArrive => "VISITOR_DID_NOT_ARRIVE"
    | .visitorFailedSecurityChecks => "VISITOR_FAILED_SECURITY_CHECKS"
    | .visitOrderCancelled => "VISIT_ORDER_CANCELLED"
  mem_members a := by cases a <;> decide
  names_nodup := by decide

/-- What a note is about. -/
inductive NoteType where
  | visitorConcern
  | visitComment
  | visitOutcomes
  | statusChangedReason
deriving DecidableEq, Repr, Inhabited

instance : Enumeration NoteType where
  members := [.visitorConcern, .visitComment, .visitOutcomes, .statusChangedReason]
  name
    | .visitorConcern => "VISITOR_CONCERN"
    | .visitComment => "VISIT_COMMENT"
    | .visitOutcomes => "VISIT_OUTCOMES"
    | .statusChangedReason => "STATUS_CHANGED_REASON"
  mem_members a := by cases a <;> decide
  names_nodup := by decide

end VisitBooking
