import VisitBooking.Store.Fault
import VisitBooking.Visit.Basic
import VisitBooking.Calendar.Read
import VisitBooking.Calendar.Written

/-!
# Columns

A visit is stored as columns of text. Names of the vocabulary are stored as they are, visit times in
a form of fixed width so that the texts order as the times do, and instants with their offset.

## Main definitions

* `Columns`, `Details.columns`: what is stored of the details of a visit.
* `Row`: the columns with identity, reference and the instants of creation and of the last write.
* `Row.visit`: the visit that a row holds, or the first column that holds no value.
-/

namespace VisitBooking

open Calendar

/-- The details of a visit as columns. -/
structure Columns where
  prisoner : String
  prison : String
  room : String
  type : String
  status : String
  restriction : String
  starts : String
  ends : String
  outcome : Option String
  /-- Name and telephone. -/
  contact : Option (String × String)
  visitors : List Int64
  /-- Type and text. -/
  support : List (String × Option String)
  /-- Type and text. -/
  notes : List (String × String)
  legacy : Option Int64
deriving DecidableEq, Repr, Inhabited

/-- The columns of a visit. -/
def Details.columns (d : Details) : Columns where
  prisoner := d.prisoner
  prison := d.prison
  room := d.room
  type := Enumeration.name d.type
  status := Enumeration.name d.status
  restriction := Enumeration.name d.restriction
  starts := d.starts.column
  ends := d.ends.column
  outcome := d.outcome.map Enumeration.name
  contact := d.contact.map fun c => (c.name, c.telephone)
  visitors := d.visitors.map Visitor.person
  support := d.support.map fun s => (s.type, s.text)
  notes := d.notes.map fun n => (Enumeration.name n.type, n.text)
  legacy := d.legacy.map LegacyData.leadPerson

/-- A stored visit. -/
structure Row where
  id : Int
  reference : String
  columns : Columns
  created : String
  modified : String
deriving DecidableEq, Repr, Inhabited

/-! ### Reading columns -/

/-- The value whose name a column holds. -/
def readName {α : Type} [Enumeration α] (column text : String) : Except StoreFault α :=
  match Enumeration.named? text with
  | some a => .ok a
  | none => .error (.unknownValue column text)

/-- The visit time that a column holds. -/
def readLocalTime (text : String) : Except StoreFault LocalTime :=
  match LocalTime.ofColumn? text with
  | some t => .ok t
  | none => .error .unreadableTime

/-- The instant that a column holds. -/
def readInstant (text : String) : Except StoreFault Instant :=
  match Instant.ofColumn? text with
  | some t => .ok t
  | none => .error .unreadableTime

/-- The note that two columns hold. -/
def readNote (note : String × String) : Except StoreFault Note := do
  return ⟨← readName "visit_notes.type" note.1, note.2⟩

/-- The outcome that a column holds, if it is not empty. -/
def readOutcome : Option String → Except StoreFault (Option Outcome)
  | none => .ok none
  | some text => (readName "outcome_status" text).map some

/-- The visit that a row holds. Notes are read before the other columns. -/
def Row.visit (r : Row) : Except StoreFault Visit := do
  let c := r.columns
  let notes ← c.notes.mapM readNote
  let type ← readName "visit_type" c.type
  let status ← readName "visit_status" c.status
  let restriction ← readName "visit_restriction" c.restriction
  let starts ← readLocalTime c.starts
  let ends ← readLocalTime c.ends
  let outcome ← readOutcome c.outcome
  let created ← readInstant r.created
  let modified ← readInstant r.modified
  return {
    id := r.id
    reference := r.reference
    details := {
      prisoner := c.prisoner
      prison := c.prison
      room := c.room
      type := type
      status := status
      restriction := restriction
      starts := starts
      ends := ends
      outcome := outcome
      contact := c.contact.map fun p => ⟨p.1, p.2⟩
      visitors := c.visitors.map Visitor.mk
      support := c.support.map fun p => ⟨p.1, p.2⟩
      notes := notes
      legacy := c.legacy.map LegacyData.mk }
    created := created
    modified := modified }

end VisitBooking
