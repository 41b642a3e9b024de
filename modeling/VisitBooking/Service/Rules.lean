import VisitBooking.Failure
import VisitBooking.Request.Basic
import VisitBooking.Store.Catalog

/-!
# Rules of the service

What is asked of a request before it is carried out, and what a visit becomes by it. Where a request
breaks more than one rule, the first one counts in the order in which they are checked here.

## Main definitions

* `checkCreate`, `checkSlot`, `checkSupport`: rules on requests.
* `updateVisit`, `changeVisit`, `cancelVisit`: a visit after a request, or the rule that it breaks.
-/

namespace VisitBooking

open Calendar

/-- The visit begins before it ends. -/
def checkSlot (d : Details) : Except Refusal Unit :=
  if d.hasValidSlot then .ok () else .error (.badSlot d.starts d.ends)

/-- Each type of support is in the catalog; the first one that is not is named. -/
def checkSupport (catalog : List SupportType) : List SupportNeed → Except Refusal Unit
  | [] => .ok ()
  | s :: support =>
    if (SupportType.named? s.type catalog).isNone then .error (.unknownSupport s.type)
    else checkSupport catalog support

/-- The visit is not in the past. -/
def checkNotExpired (now : DateTime) (action : PastAction) (v : Visit) : Except Refusal Unit :=
  if v.isExpired now then .error (.expired v.reference action) else .ok ()

/-- A visit may be booked: its status is not final, and its slot is in order. -/
def checkCreate (r : CreateRequest) : Except Refusal Unit := do
  if r.status.isTerminal then .error (.bornTerminal r.status) else .ok ()
  checkSlot r.details

/-- The status of the visit may move as it is asked to, if it is. -/
def checkMove (v : Visit) : Option VisitStatus → Except Refusal Unit
  | none => .ok ()
  | some next =>
    if v.details.status.canBecome next then .ok ()
    else .error (.illegalMove v.reference v.details.status next)

/-- A visit with the parts of an update, if its status may move as asked and its slot stays in
order. -/
def applyUpdate (r : UpdateRequest) (v : Visit) : Except Refusal Visit := do
  checkMove v r.status
  checkSlot (r.applyTo v.details)
  return { v with details := r.applyTo v.details }

/-- A visit after an update. -/
def updateVisit (now : DateTime) (r : UpdateRequest) (v : Visit) : Except Refusal Visit := do
  if v.details.status.isTerminal then .error (.updateOfCancelled v.reference) else .ok ()
  checkNotExpired now .changed v
  applyUpdate r v

/-- A visit after a change of slot. -/
def changeVisit (now : DateTime) (c : SlotChange) (v : Visit) : Except Refusal Visit := do
  checkNotExpired now .changed v
  if v.details.status = .booked then .ok () else .error (.notBooked v.reference v.details.status)
  applyUpdate c.toUpdate v

/-- A visit that is cancelled for the reason. A text of the reason is kept as a note. -/
def Visit.cancelFor (r : CancelReason) (v : Visit) : Visit :=
  let d := { v.details with
    status := .cancelled
    outcome := some r.outcome }
  { v with details := r.text.elim d fun text => d.addNote ⟨.visitOutcomes, text⟩ }

/-- A visit after being cancelled. Being in the past counts before anything else. -/
def cancelVisit (now : DateTime) (reason : Option CancelReason) (v : Visit) :
    Except Refusal Visit := do
  checkNotExpired now .cancelled v
  match reason with
  | none => .error (.outcomeMissing v.reference)
  | some r =>
    if v.details.status.isTerminal then .error (.alreadyCancelled v.reference)
    else .ok (v.cancelFor r)

end VisitBooking
