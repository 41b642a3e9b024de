import VisitBooking.Request.Basic
import VisitBooking.Store.Catalog
import VisitBooking.Log

/-!
# Operations and answers

What the service can be asked for, and what it answers.
-/

namespace VisitBooking

/-- What the service can be asked for. -/
inductive Operation where
  | create (request : CreateRequest)
  | update (reference : String) (request : UpdateRequest)
  /-- Move a booked visit to another slot. -/
  | change (reference : String) (request : SlotChange)
  | cancel (reference : String) (reason : Option CancelReason)
  /-- Import a visit of the past. -/
  | migrate (request : MigrateRequest)
  | get (reference : String)
  | search (filter : VisitFilter)
  | supportTypes
  | delete (reference : String)
  | deleteMany (references : List String)
deriving DecidableEq, Inhabited

/-- What the service answers. -/
inductive Answer where
  | visit (v : Visit)
  | visits (vs : List Visit)
  | reference (reference : String)
  | supportTypes (types : List SupportType)
  | deleted
  | deletedCount (count : Nat)
deriving DecidableEq, Inhabited

/-- The record with which an operation begins, if it has one. -/
def Operation.openingRecord? : Operation → Option LogRecord
  | .create r =>
    some (.info "creating visit" [("prisoner_id", r.prisoner), ("prison_id", r.prison)])
  | .update reference _ => some (.info "updating visit" [("reference", reference)])
  | .change reference _ => some (.info "changing booked visit" [("reference", reference)])
  | .cancel reference _ => some (.info "cancelling visit" [("reference", reference)])
  | _ => none

end VisitBooking
