import VisitBooking.Visit.Vocabulary
import VisitBooking.Visit.Keyed
import VisitBooking.Calendar.DateTime

/-!
# Visits

A visit is a booking with all that belongs to it. `Details` is what a visit has before the store
gives it an identity; a `Visit` has its identity, its reference, and the instants at which it was
made and last written.

## Main definitions

* `Contact`, `Visitor`, `SupportNeed`, `Note`, `LegacyData`: what belongs to a visit.
* `Details`, `Visit`.
* `Details.replaceVisitors`, `Details.replaceSupport`, `Details.addNote`.
* `Visit.isExpired`, `Details.hasValidSlot`.
-/

namespace VisitBooking

open Calendar

/-- Whom to ask about a visit. -/
structure Contact where
  name : String
  telephone : String
deriving DecidableEq, Repr, Inhabited

/-- Somebody who comes to a visit. -/
structure Visitor where
  person : Int64
deriving DecidableEq, Repr, Inhabited

/-- What a visitor needs, by a name in the support catalog. -/
structure SupportNeed where
  type : String
  text : Option String
deriving DecidableEq, Repr, Inhabited

/-- A remark on a visit. -/
structure Note where
  type : NoteType
  text : String
deriving DecidableEq, Repr, Inhabited

/-- What ties a visit to the system that it was imported from. -/
structure LegacyData where
  leadPerson : Int64
deriving DecidableEq, Repr, Inhabited

/-- Visitors, one for each person. -/
def dedupVisitors (visitors : List Visitor) : List Visitor := dedupBy Visitor.person visitors

/-- Support needs, one for each type. -/
def dedupSupport (support : List SupportNeed) : List SupportNeed :=
  dedupBy SupportNeed.type support

/-- What a visit is. -/
structure Details where
  prisoner : String
  prison : String
  room : String
  type : VisitType
  status : VisitStatus
  restriction : Restriction
  /-- When it begins, on the clock of the visiting room. -/
  starts : LocalTime
  /-- When it ends, on the same clock. -/
  ends : LocalTime
  outcome : Option Outcome
  contact : Option Contact
  visitors : List Visitor
  support : List SupportNeed
  notes : List Note
  legacy : Option LegacyData
deriving DecidableEq, Inhabited

namespace Details

/-- The visit begins before it ends. -/
def hasValidSlot (d : Details) : Bool := decide (d.starts < d.ends)

/-- The visit with other visitors. -/
def replaceVisitors (visitors : List Visitor) (d : Details) : Details :=
  { d with visitors := dedupVisitors visitors }

/-- The visit with other support needs. -/
def replaceSupport (support : List SupportNeed) (d : Details) : Details :=
  { d with support := dedupSupport support }

/-- The visit with one note more. -/
def addNote (note : Note) (d : Details) : Details := { d with notes := d.notes ++ [note] }

end Details

/-- A visit in the store. -/
structure Visit where
  /-- The identity that the store gave it. It is told to nobody. -/
  id : Int
  /-- The name that it is known by outside. -/
  reference : String
  details : Details
  created : Instant
  modified : Instant
deriving DecidableEq, Inhabited

/-- The visit begins before `now`. -/
def Visit.isExpired (v : Visit) (now : DateTime) : Bool :=
  decide (v.details.starts.toDateTime < now)

end VisitBooking
