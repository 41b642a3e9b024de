import VisitBooking.Store.Columns
import VisitBooking.Store.Catalog
import VisitBooking.Failure
import VisitBooking.Reference.Codec
import VisitBooking.Request.Basic

/-!
# The store of visits

The store holds rows, the earliest insert first, the last identity that was given out, and the
catalog of support. An identity is never given out twice, and a failed insert gives out none. The
catalog is put in when the store is opened; no operation on visits writes it.

Each operation is one transaction: it answers and leaves a store behind, and where a constraint does
not hold it leaves the store as it was. The constraints are those on a row by itself,
`Columns.Valid`, and that no two rows have one reference.

The instant at which an operation writes is an argument.

The database keeps a visit in several tables. `VisitBooking.Store.Tables` has them with their
statements and transactions, and `VisitBooking.Proofs.Store.Tables` proves that a run of operations
on them has the answers that it has here.

## Main definitions

* `Store`, `Store.empty`, `Store.reopen`.
* `Store.insert`, `Store.save`, `Store.update`: writing.
* `Store.findByReference`, `Store.findById`, `Store.findAll`: reading.
* `Store.delete`, `Store.deleteMany`.
-/

namespace VisitBooking

open Calendar Reference

/-- What has to hold of a row by itself: the text of the beginning is before that of the end, and
neither a person nor a type of support comes twice. -/
def Columns.Valid (c : Columns) : Prop :=
  c.starts < c.ends ∧ c.visitors.Nodup ∧ (c.support.map Prod.fst).Nodup

instance (c : Columns) : Decidable c.Valid := by unfold Columns.Valid; infer_instance

/-- The visit has parts that are kept in rows of their own. -/
def Columns.hasParts (c : Columns) : Bool :=
  c.contact.isSome || !c.visitors.isEmpty || !c.support.isEmpty || !c.notes.isEmpty ||
    c.legacy.isSome

/-- A row with other columns, written at `now`. -/
def Row.write (c : Columns) (now : Instant) (r : Row) : Row :=
  { r with columns := c, modified := now.column }

/-- Stored visits. -/
structure Store where
  /-- The rows, the earliest insert first. -/
  rows : List Row
  /-- The last identity that was given out; zero before the first. -/
  lastId : Nat
  /-- The kinds of support that may be asked for. -/
  catalog : List SupportType
deriving DecidableEq, Repr, Inhabited

namespace Store

/-- A store that is opened for the first time. It has no visits. -/
def empty : Store := ⟨[], 0, SupportType.seeded []⟩

/-- The store after it is closed and opened again. -/
def reopen (s : Store) : Store := { s with catalog := SupportType.seeded s.catalog }

/-- The row with the given reference. -/
def rowByReference? (s : Store) (reference : String) : Option Row :=
  s.rows.find? fun r => r.reference == reference

/-- The row with the given identity. -/
def rowById? (s : Store) (id : Int) : Option Row := s.rows.find? fun r => r.id == id

/-! ### Writing -/

/-- The row of a visit to be put in: it has a new identity and the reference that the scheme makes
of it. -/
def newRow (scheme : Scheme) (now : Instant) (d : Details) (s : Store) : Row where
  id := (s.lastId + 1 : Nat)
  reference := scheme.encode (s.lastId + 1)
  columns := d.columns
  created := now.column
  modified := now.column

/-- The store takes the row: the row is valid by itself, and no other row has its reference. -/
def Admits (s : Store) (r : Row) : Prop :=
  r.columns.Valid ∧ (s.rowByReference? r.reference).isNone

instance (s : Store) (r : Row) : Decidable (s.Admits r) := by unfold Admits; infer_instance

/-- The store with the row of a new identity. -/
def add (r : Row) (s : Store) : Store :=
  { s with rows := s.rows ++ [r], lastId := s.lastId + 1 }

/-- Put a visit in. -/
def insert (scheme : Scheme) (now : Instant) (d : Details) (s : Store) :
    Except StoreFault Visit × Store :=
  let row := s.newRow scheme now d
  if s.Admits row then (row.visit, s.add row) else (.error .constraint, s)

/-- Write columns into the row with the given identity. -/
def writeRow (id : Int) (c : Columns) (now : Instant) (s : Store) : Store :=
  { s with rows := s.rows.map fun r => if r.id = id then r.write c now else r }

/-- Write a visit back. Reference and creation stay as they are stored. Fails if the row was written
after the visit had been read. -/
def save (now : Instant) (v : Visit) (s : Store) : Except StoreFault Visit × Store :=
  match s.rowById? v.id with
  | none => (.error (.noSuchId v.id), s)
  | some row =>
    if row.modified ≠ v.modified.column then (.error (.conflict v.id), s)
    else if v.details.columns.Valid then
      ((row.write v.details.columns now).visit,
        s.writeRow v.id v.details.columns now)
    else (.error .constraint, s)

/-- Read the visit with the given reference, change it and write it back into the row with the
identity that it has then. Nothing is written unless `change` accepts. -/
def update (now : Instant) (reference : String) (change : Visit → Except Refusal Visit)
    (s : Store) : Except Failure Visit × Store :=
  match s.rowByReference? reference with
  | none => (.error (.notFound reference), s)
  | some row =>
    match row.visit with
    | .error fault => (.error (.store (.unreadableRow fault)), s)
    | .ok visit =>
      match change visit with
      | .error reason => (.error (.refused reason), s)
      | .ok visit =>
        let columns := visit.details.columns
        match s.rowById? visit.id with
        | none =>
          -- Parts of a visit cannot be stored without the visit.
          if columns.hasParts then (.error (.store .constraint), s)
          else (.error (.notFound reference), s)
        | some row =>
          if columns.Valid then
            ((row.write columns now).visit.mapError .store,
              s.writeRow visit.id columns now)
          else (.error (.store .constraint), s)

/-! ### Reading -/

/-- The kind of support with the given name. -/
def supportType? (name : String) (s : Store) : Option SupportType :=
  SupportType.named? name s.catalog

/-- All kinds of support. -/
def supportTypes (s : Store) : List SupportType := SupportType.listed s.catalog

/-- The visit that a row holds, if there is a row. -/
def readRow : Option Row → Except StoreFault (Option Visit)
  | none => .ok none
  | some row => row.visit.map some

/-- The visit with the given reference. -/
def findByReference (reference : String) (s : Store) : Except StoreFault (Option Visit) :=
  readRow (s.rowByReference? reference)

/-- The visit with the given identity. -/
def findById (id : Int) (s : Store) : Except StoreFault (Option Visit) := readRow (s.rowById? id)

/-- The part of a filter is not given, or `p` holds of it. -/
def givenThen {α : Type} (p : α → Bool) : Option α → Bool
  | none => true
  | some a => p a

/-- The row has everything that the filter asks for. Times are compared by their texts. -/
def matchesRow (f : VisitFilter) (r : Row) : Bool :=
  let c := r.columns
  givenThen (fun p => c.prisoner == p) f.prisoner &&
  givenThen (fun p => c.prison == p) f.prison &&
  givenThen (fun p => c.room == p) f.room &&
  givenThen (fun t => decide (t.column ≤ c.starts)) f.starts &&
  givenThen (fun t => decide (c.starts ≤ t.column)) f.ends &&
  givenThen (fun st => c.status == Enumeration.name st) f.status &&
  givenThen (fun p => c.visitors.contains p) f.person

/-- The order of search results: by the text of the beginning, then by identity. -/
def rowLE (a b : Row) : Bool :=
  decide (a.columns.starts < b.columns.starts) ||
    (a.columns.starts == b.columns.starts && decide (a.id ≤ b.id))

/-- All visits that the filter lets through, in order. -/
def findAll (f : VisitFilter) (s : Store) : Except StoreFault (List Visit) :=
  ((s.rows.filter (matchesRow f)).mergeSort rowLE).mapM Row.visit

/-! ### Deleting -/

/-- Take the visit with the given reference out; tells whether there was one. -/
def delete (reference : String) (s : Store) : Bool × Store :=
  ((s.rowByReference? reference).isSome,
    { s with rows := s.rows.filter fun r => r.reference != reference })

/-- Take visits out one after the other; tells how many there were. -/
def deleteMany : List String → Store → Nat × Store
  | [], s => (0, s)
  | reference :: references, s =>
    let (was, s) := s.delete reference
    let (count, s) := deleteMany references s
    ((if was then 1 else 0) + count, s)

end Store

end VisitBooking
