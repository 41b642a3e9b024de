import VisitBooking.Store.Basic

/-!
# The store as tables

The database keeps a visit in several tables. What there is once is in the row of the visit itself;
contact, visitors, support, notes and legacy data are in tables of their own, where each row names
the visit that it belongs to. An operation is a series of statements in one transaction, and a
statement fails where a constraint would not hold: a key that is taken, a visit that is not there, a
slot that does not begin before it ends.

The operations have the names of those on `Store`, which keeps a visit in one row. They give the
same answers and leave the same visits behind (see `VisitBooking.Proofs.Store.Tables`).

## Main definitions

* `Tables`, `Tables.VisitRow`, `Tables.ChildRow`: the tables and their rows.
* `Tables.insertVisit`, `Tables.setReference`, `Tables.updateVisit`, `Tables.writeParts`,
  `Tables.deleteVisit`, `Tables.load`: the statements.
* `Tables.transaction`: statements that take effect together or not at all.
* `Tables.insert`, `Tables.save`, `Tables.update`, `Tables.findAll`, `Tables.deleteMany` and others:
  the operations.
-/

namespace VisitBooking

open Calendar Reference

/-- What is stored of a visit in its own row. -/
structure Scalars where
  prisoner : String
  prison : String
  room : String
  type : String
  status : String
  restriction : String
  starts : String
  ends : String
  outcome : Option String
deriving DecidableEq, Repr, Inhabited

/-- The columns of a visit that are in its own row. -/
def Columns.scalars (c : Columns) : Scalars where
  prisoner := c.prisoner
  prison := c.prison
  room := c.room
  type := c.type
  status := c.status
  restriction := c.restriction
  starts := c.starts
  ends := c.ends
  outcome := c.outcome

namespace Tables

/-- A row of the table of visits. -/
structure VisitRow where
  id : Int
  /-- There is none between the statement that puts the row in and the one that writes the reference
  made of the new identity. -/
  reference : Option String
  scalars : Scalars
  created : String
  modified : String
deriving DecidableEq, Repr, Inhabited

/-- A row of another table: what it holds, and the visit that it belongs to. -/
structure ChildRow (α : Type) where
  visit : Int
  value : α
deriving DecidableEq, Repr, Inhabited

/-- Something with a number that tells its place among others. -/
structure Placed (α : Type) where
  value : α
  place : Nat
deriving DecidableEq, Repr, Inhabited

end Tables

open Tables in
/-- The tables of the database. -/
structure Tables where
  visits : List VisitRow
  /-- Name and telephone. -/
  contacts : List (ChildRow (String × String))
  visitors : List (ChildRow (Placed Int64))
  /-- Type and text. -/
  support : List (ChildRow (Placed (String × Option String)))
  /-- Type and text. The place of a note is its key in the table, over all visits. -/
  notes : List (ChildRow (Placed (String × String)))
  legacy : List (ChildRow Int64)
  catalog : List SupportType
  /-- The last key that the table of visits gave out. -/
  lastVisit : Nat
  /-- The last key that the table of notes gave out. -/
  lastNote : Nat
deriving DecidableEq, Repr, Inhabited

namespace Tables

/-- The tables of a database that is opened for the first time. -/
def empty : Tables := ⟨[], [], [], [], [], [], SupportType.seeded [], 0, 0⟩

/-- The tables after the database is closed and opened again: tables that are there already stay. -/
def reopen (t : Tables) : Tables := { t with catalog := SupportType.seeded t.catalog }

variable {α κ ε : Type}

/-! ### Statements on the table of visits -/

/-- The row with a given key. -/
def byId (id : Int) (v : VisitRow) : Bool := v.id == id

/-- The row with a given reference. A row without one is never meant. -/
def byReference (reference : String) (v : VisitRow) : Bool := v.reference == some reference

/-- There is a visit with the key. -/
def HasVisit (id : Int) (t : Tables) : Prop := ∃ v ∈ t.visits, v.id = id

instance (id : Int) (t : Tables) : Decidable (t.HasVisit id) := by unfold HasVisit; infer_instance

/-- Put a visit in under a new key. -/
def insertVisit (c : Scalars) (now : String) (t : Tables) : Except StoreFault (Nat × Tables) :=
  if c.starts < c.ends then
    let id := t.lastVisit + 1
    .ok (id, { t with visits := t.visits ++ [⟨id, none, c, now, now⟩], lastVisit := id })
  else .error .constraint

/-- Write the reference of a visit. No other visit may have it. -/
def setReference (id : Int) (reference : String) (t : Tables) : Except StoreFault Tables :=
  if ∃ v ∈ t.visits, v.id ≠ id ∧ v.reference = some reference then .error .constraint
  else
    let write (v : VisitRow) := if v.id = id then { v with reference := some reference } else v
    .ok { t with visits := t.visits.map write }

/-- The row of the visit, as long as it was last written at the expected time, if one is given. -/
def isExpected (id : Int) (expected : Option String) (v : VisitRow) : Bool :=
  v.id == id && (expected.isNone || expected == some v.modified)

/-- The tables with other columns in the rows that are meant. -/
def writeColumns (meant : VisitRow → Bool) (c : Scalars) (now : String) (t : Tables) : Tables :=
  { t with visits := t.visits.map fun v =>
      if meant v then { v with scalars := c, modified := now } else v }

/-- Write the columns of a visit, and tell how many rows that were. -/
def updateVisit (id : Int) (c : Scalars) (now : String) (expected : Option String) (t : Tables) :
    Except StoreFault (Nat × Tables) :=
  let meant := isExpected id expected
  if t.visits.any meant ∧ ¬ c.starts < c.ends then .error .constraint
  else .ok (t.visits.countP meant, t.writeColumns meant c now)

/-- The parts whose visit is left when some visits are deleted. -/
def cascade (deleted : List VisitRow) (parts : List (ChildRow α)) : List (ChildRow α) :=
  parts.filter fun p => !deleted.any fun v => v.id == p.visit

/-- Delete the visit with a reference and, with it, what belongs to it. Tells how many rows of the
table of visits that were. -/
def deleteVisit (reference : String) (t : Tables) : Nat × Tables :=
  let deleted := t.visits.filter (byReference reference)
  (deleted.length, { t with
    visits := t.visits.filter fun v => !byReference reference v
    contacts := cascade deleted t.contacts
    visitors := cascade deleted t.visitors
    support := cascade deleted t.support
    notes := cascade deleted t.notes
    legacy := cascade deleted t.legacy })

/-! ### Statements on the other tables -/

/-- Two rows have one key: the visit they belong to, and some of what they hold. -/
def sameKey [BEq κ] (key : α → κ) (p q : ChildRow α) : Bool :=
  p.visit == q.visit && key p.value == key q.value

/-- Two rows have one key: the number of the row. -/
def samePlace (p q : ChildRow (Placed α)) : Bool := p.value.place == q.value.place

/-- Put a row in. Its visit has to be there, and its key must not. -/
def insertPart (t : Tables) (same : ChildRow α → ChildRow α → Bool) (rows : List (ChildRow α))
    (p : ChildRow α) : Except StoreFault (List (ChildRow α)) :=
  if t.HasVisit p.visit ∧ ∀ q ∈ rows, ¬ same q p then .ok (rows ++ [p]) else .error .constraint

/-- Put in what a visit has of one kind, one row after the other. -/
def insertParts (t : Tables) (same : ChildRow α → ChildRow α → Bool) (id : Int) (values : List α)
    (rows : List (ChildRow α)) : Except StoreFault (List (ChildRow α)) :=
  (values.map (ChildRow.mk id)).foldlM (insertPart t same) rows

/-- Put a note in under a new key. -/
def insertNote (id : Int) (t : Tables) (note : String × String) : Except StoreFault Tables := do
  let place := t.lastNote + 1
  let notes ← insertPart t samePlace t.notes ⟨id, note, place⟩
  return { t with notes := notes, lastNote := place }

/-- Values with their places, from a first one on. -/
def placed (values : List α) (first : Nat := 0) : List (Placed α) :=
  (values.zipIdx first).map fun p => ⟨p.1, p.2⟩

/-- The parts of the other visits. -/
def others (id : Int) (parts : List (ChildRow α)) : List (ChildRow α) :=
  parts.filter fun p => p.visit != id

/-- Delete what belongs to a visit. -/
def deleteParts (id : Int) (t : Tables) : Tables := { t with
  contacts := others id t.contacts
  visitors := others id t.visitors
  support := others id t.support
  notes := others id t.notes
  legacy := others id t.legacy }

/-- Replace what belongs to a visit. -/
def writeParts (id : Int) (c : Columns) (t : Tables) : Except StoreFault Tables := do
  let t := t.deleteParts id
  let contacts ← insertParts t (sameKey fun _ => ()) id c.contact.toList t.contacts
  let visitors ← insertParts t (sameKey Placed.value) id (placed c.visitors) t.visitors
  let support ← insertParts t (sameKey fun s => s.value.1) id (placed c.support) t.support
  let t ← c.notes.foldlM (insertNote id) t
  let legacy ← insertParts t (sameKey fun _ => ()) id c.legacy.toList t.legacy
  return { t with contacts := contacts, visitors := visitors, support := support, legacy := legacy }

/-! ### Reading -/

/-- What belongs to a visit. -/
def partsOf (id : Int) (parts : List (ChildRow α)) : List α :=
  (parts.filter fun p => p.visit == id).map ChildRow.value

/-- Values in the order of their places. -/
def inOrder (values : List (Placed α)) : List α :=
  (values.mergeSort fun a b => decide (a.place ≤ b.place)).map Placed.value

/-- The columns of a visit together with what belongs to it. -/
def columns (t : Tables) (v : VisitRow) : Columns where
  prisoner := v.scalars.prisoner
  prison := v.scalars.prison
  room := v.scalars.room
  type := v.scalars.type
  status := v.scalars.status
  restriction := v.scalars.restriction
  starts := v.scalars.starts
  ends := v.scalars.ends
  outcome := v.scalars.outcome
  contact := (partsOf v.id t.contacts).head?
  visitors := inOrder (partsOf v.id t.visitors)
  support := inOrder (partsOf v.id t.support)
  notes := inOrder (partsOf v.id t.notes)
  legacy := (partsOf v.id t.legacy).head?

/-- A visit as one row. A visit that has no reference cannot be read. -/
def loadRow (t : Tables) (v : VisitRow) : Except StoreFault Row :=
  match v.reference with
  | none => .error (.other "database error")
  | some reference => .ok ⟨v.id, reference, t.columns v, v.created, v.modified⟩

/-- The first visit that is meant, as one row. -/
def load (meant : VisitRow → Bool) (t : Tables) : Except StoreFault (Option Row) :=
  (t.visits.find? meant).mapM t.loadRow

/-- What a search may ask of a visit. -/
inductive Condition where
  /-- A column has the value. -/
  | equals (column : Scalars → String) (value : String)
  /-- The beginning has the text or a later one. -/
  | startsFrom (text : String)
  /-- The beginning has the text or an earlier one. -/
  | startsUntil (text : String)
  /-- A row of the table of visitors names the visit and the person. -/
  | hasVisitor (person : Int64)

/-- The condition holds of a visit. -/
def Condition.holds (t : Tables) (v : VisitRow) : Condition → Bool
  | .equals column value => column v.scalars == value
  | .startsFrom text => decide (text ≤ v.scalars.starts)
  | .startsUntil text => decide (v.scalars.starts ≤ text)
  | .hasVisitor person => t.visitors.any fun p => p.visit == v.id && p.value.value == person

/-- The conditions that a filter asks for. -/
def conditions (f : VisitFilter) : List Condition :=
  (f.prisoner.map (Condition.equals Scalars.prisoner)).toList ++
  (f.prison.map (Condition.equals Scalars.prison)).toList ++
  (f.room.map (Condition.equals Scalars.room)).toList ++
  (f.starts.map fun t => Condition.startsFrom t.column).toList ++
  (f.ends.map fun t => Condition.startsUntil t.column).toList ++
  (f.status.map fun s => Condition.equals Scalars.status (Enumeration.name s)).toList ++
  (f.person.map Condition.hasVisitor).toList

/-- The order of search results. -/
def visitLE (a b : VisitRow) : Bool :=
  decide (a.scalars.starts < b.scalars.starts) ||
    (a.scalars.starts == b.scalars.starts && decide (a.id ≤ b.id))

/-- The visits of which all conditions hold, in order. -/
def select (conditions : List Condition) (t : Tables) : List VisitRow :=
  (t.visits.filter fun v => conditions.all (Condition.holds t v)).mergeSort visitLE

/-! ### Transactions -/

/-- Statements that take effect together. Where one of them fails the tables are as they were. -/
def transaction (work : Tables → Except ε (α × Tables)) (t : Tables) : Except ε α × Tables :=
  match work t with
  | .ok (a, t') => (.ok a, t')
  | .error e => (.error e, t)

/-- The statements of an insert: the new key, and what is read at the end. -/
def insertStatements (scheme : Scheme) (now : Instant) (d : Details) (t : Tables) :
    Except StoreFault ((Nat × Option Row) × Tables) := do
  let (id, t) ← t.insertVisit d.columns.scalars now.column
  let t ← t.setReference id (scheme.encode id)
  let t ← t.writeParts id d.columns
  let row ← t.load (byId id)
  return ((id, row), t)

/-- Put a visit in. -/
def insert (scheme : Scheme) (now : Instant) (d : Details) (t : Tables) :
    Except StoreFault Visit × Tables :=
  let (stored, t) := t.transaction (insertStatements scheme now d)
  let answer := stored >>= fun
    | (_, some row) => row.visit
    | (id, none) => .error (.noSuchId id)
  (answer, t)

/-- The statements that write a visit back, and what is read at the end. -/
def saveStatements (now : Instant) (v : Visit) (t : Tables) :
    Except StoreFault (Option Row × Tables) := do
  let columns := v.details.columns
  let (count, t) ← t.updateVisit v.id columns.scalars now.column (some v.modified.column)
  if count = 0 then
    .error (if t.HasVisit v.id then .conflict v.id else .noSuchId v.id)
  else
    let t ← t.writeParts v.id columns
    let row ← t.load (byId v.id)
    return (row, t)

/-- Write a visit back, unless its row was written in the meantime. -/
def save (now : Instant) (v : Visit) (t : Tables) : Except StoreFault Visit × Tables :=
  let (stored, t) := t.transaction (saveStatements now v)
  let answer := stored >>= fun
    | some row => row.visit
    | none => .error (.conflict v.id)
  (answer, t)

/-- The statements that write a changed visit, and the row that is read at the end. What the
database fails with is told as a fault of the store. -/
def rewriteStatements (now : Instant) (reference : String) (visit : Visit) (t : Tables) :
    Except Failure (Row × Tables) := do
  let columns := visit.details.columns
  let (_, t) ← (t.updateVisit visit.id columns.scalars now.column none).mapError .store
  let t ← (t.writeParts visit.id columns).mapError .store
  match ← (t.load (byId visit.id)).mapError .store with
  | none => .error (.notFound reference)
  | some row => return (row, t)

/-- The statements of an update. -/
def updateStatements (now : Instant) (reference : String) (change : Visit → Except Refusal Visit)
    (t : Tables) : Except Failure (Row × Tables) := do
  match ← (t.load (byReference reference)).mapError .store with
  | none => .error (.notFound reference)
  | some row =>
    let visit ← row.visit.mapError fun fault => .store (.unreadableRow fault)
    let visit ← (change visit).mapError .refused
    t.rewriteStatements now reference visit

/-- Read the visit with the given reference, change it and write it back, in one transaction. -/
def update (now : Instant) (reference : String) (change : Visit → Except Refusal Visit)
    (t : Tables) : Except Failure Visit × Tables :=
  let (stored, t) := t.transaction (updateStatements now reference change)
  let answer := stored >>= fun row => row.visit.mapError .store
  (answer, t)

/-- The kind of support with the given name. -/
def supportType? (name : String) (t : Tables) : Option SupportType :=
  SupportType.named? name t.catalog

/-- All kinds of support. -/
def supportTypes (t : Tables) : List SupportType := SupportType.listed t.catalog

/-- The visit with the given reference. -/
def findByReference (reference : String) (t : Tables) : Except StoreFault (Option Visit) := do
  (← t.load (byReference reference)).mapM Row.visit

/-- The visit with the given identity. -/
def findById (id : Int) (t : Tables) : Except StoreFault (Option Visit) := do
  (← t.load (byId id)).mapM Row.visit

/-- All visits that the filter lets through, in order. -/
def findAll (f : VisitFilter) (t : Tables) : Except StoreFault (List Visit) := do
  let rows ← (t.select (conditions f)).mapM t.loadRow
  rows.mapM Row.visit

/-- Take the visit with the given reference out; tells whether there was one. -/
def delete (reference : String) (t : Tables) : Bool × Tables :=
  let (count, t) := t.deleteVisit reference
  (decide (0 < count), t)

/-- Take visits out one after the other; tells how many there were. -/
def deleteMany : List String → Tables → Nat × Tables
  | [], t => (0, t)
  | reference :: references, t =>
    let (count, t) := t.deleteVisit reference
    let (more, t) := deleteMany references t
    (count + more, t)

end Tables

end VisitBooking
