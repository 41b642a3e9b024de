import VisitBooking.Visit.Basic

/-!
# Requests

What the operations on visits are asked with.

## Main definitions

* `Edit`: what to do with a part that a visit may lack.
* `CreateRequest`, `UpdateRequest`, `SlotChange`, `CancelReason`, `MigrateRequest`, `VisitFilter`.
* `UpdateRequest.applyTo`: a visit with the parts of a request in place of its own.
* `CreateRequest.details`, `MigrateRequest.details`: the visit that is asked for.
-/

namespace VisitBooking

open Calendar

/-- What to do with a part that may be there or not. -/
inductive Edit (α : Type) where
  /-- Leave it as it is. -/
  | keep
  /-- Take it away. -/
  | clear
  /-- Put another in its place. -/
  | set (a : α)
deriving DecidableEq, Repr, Inhabited

/-- The part after an edit. -/
def Edit.apply {α : Type} : Edit α → Option α → Option α
  | .keep, old => old
  | .clear, _ => none
  | .set a, _ => some a

/-- A visit to be booked. -/
structure CreateRequest where
  prisoner : String
  prison : String
  room : String
  type : VisitType
  status : VisitStatus
  restriction : Restriction
  starts : LocalTime
  ends : LocalTime
  contact : Option Contact
  visitors : List Visitor
  support : List SupportNeed
  notes : List Note
deriving DecidableEq, Inhabited

/-- Parts of a visit to be replaced; what is none stays. Visitors and support needs are replaced as
a whole. -/
structure UpdateRequest where
  prisoner : Option String := none
  prison : Option String := none
  room : Option String := none
  type : Option VisitType := none
  status : Option VisitStatus := none
  restriction : Option Restriction := none
  starts : Option LocalTime := none
  ends : Option LocalTime := none
  contact : Edit Contact := .keep
  visitors : Option (List Visitor) := none
  support : Option (List SupportNeed) := none
deriving DecidableEq, Inhabited

/-- Another slot for a booked visit, with what goes with it. -/
structure SlotChange where
  restriction : Option Restriction
  starts : Option LocalTime
  ends : Option LocalTime
  contact : Option Contact
  visitors : Option (List Visitor)
  support : Option (List SupportNeed)
deriving DecidableEq, Inhabited

/-- Why a visit is cancelled. -/
structure CancelReason where
  outcome : Outcome
  text : Option String
deriving DecidableEq, Repr, Inhabited

/-- A contact of which parts may not be known. -/
structure LegacyContact where
  name : Option String
  telephone : Option String
deriving DecidableEq, Repr, Inhabited

/-- A visit of the past to be imported as it was. -/
structure MigrateRequest where
  prisoner : String
  prison : String
  room : String
  type : VisitType
  status : VisitStatus
  outcome : Option Outcome
  restriction : Restriction
  starts : LocalTime
  ends : LocalTime
  contact : Option LegacyContact
  visitors : List Visitor
  notes : List Note
  legacy : Option LegacyData
deriving DecidableEq, Inhabited

/-- What visits are looked for by; each part that is given has to hold. -/
structure VisitFilter where
  prisoner : Option String := none
  prison : Option String := none
  room : Option String := none
  /-- The visit does not begin before this time. -/
  starts : Option LocalTime := none
  /-- The visit does not begin after this time. -/
  ends : Option LocalTime := none
  status : Option VisitStatus := none
  /-- The person is among the visitors. -/
  person : Option Int64 := none
deriving DecidableEq, Inhabited

/-! ### From requests to visits -/

/-- The visit that is to be booked. -/
def CreateRequest.details (r : CreateRequest) : Details where
  prisoner := r.prisoner
  prison := r.prison
  room := r.room
  type := r.type
  status := r.status
  restriction := r.restriction
  starts := r.starts
  ends := r.ends
  outcome := none
  contact := r.contact
  visitors := dedupVisitors r.visitors
  support := dedupSupport r.support
  notes := r.notes
  legacy := none

/-- What stands in for a part of a contact that is not known. -/
def unknownPart : String := "UNKNOWN"

/-- A contact with the unknown parts filled in. -/
def LegacyContact.complete (c : LegacyContact) : Contact where
  name := c.name.getD unknownPart
  telephone := c.telephone.getD unknownPart

/-- The visit that is to be imported. It always has a contact and an outcome. -/
def MigrateRequest.details (r : MigrateRequest) : Details where
  prisoner := r.prisoner
  prison := r.prison
  room := r.room
  type := r.type
  status := r.status
  restriction := r.restriction
  starts := r.starts
  ends := r.ends
  outcome := some (r.outcome.getD .notRecorded)
  contact := some (r.contact.getD ⟨none, none⟩).complete
  visitors := dedupVisitors r.visitors
  support := []
  notes := r.notes
  legacy := r.legacy

/-- A change of slot as an update. It cannot take a contact away. -/
def SlotChange.toUpdate (c : SlotChange) : UpdateRequest where
  restriction := c.restriction
  starts := c.starts
  ends := c.ends
  contact := match c.contact with
    | none => .keep
    | some contact => .set contact
  visitors := c.visitors
  support := c.support

/-- The details of a visit with the parts of the request in place of its own. -/
def UpdateRequest.applyTo (r : UpdateRequest) (d : Details) : Details :=
  let d := { d with
    prisoner := r.prisoner.getD d.prisoner
    prison := r.prison.getD d.prison
    room := r.room.getD d.room
    type := r.type.getD d.type
    status := r.status.getD d.status
    restriction := r.restriction.getD d.restriction
    starts := r.starts.getD d.starts
    ends := r.ends.getD d.ends
    contact := r.contact.apply d.contact }
  let d := r.visitors.elim d fun visitors => d.replaceVisitors visitors
  r.support.elim d fun support => d.replaceSupport support

/-- Each part comes from the request, or stays. -/
theorem UpdateRequest.applyTo_eq (r : UpdateRequest) (d : Details) :
    r.applyTo d = { d with
      prisoner := r.prisoner.getD d.prisoner
      prison := r.prison.getD d.prison
      room := r.room.getD d.room
      type := r.type.getD d.type
      status := r.status.getD d.status
      restriction := r.restriction.getD d.restriction
      starts := r.starts.getD d.starts
      ends := r.ends.getD d.ends
      contact := r.contact.apply d.contact
      visitors := (r.visitors.map dedupVisitors).getD d.visitors
      support := (r.support.map dedupSupport).getD d.support } := by
  unfold applyTo
  cases r.visitors <;> cases r.support <;> rfl

theorem UpdateRequest.status_applyTo (r : UpdateRequest) (d : Details) :
    (r.applyTo d).status = r.status.getD d.status := by
  rw [r.applyTo_eq]

end VisitBooking
