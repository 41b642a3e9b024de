import VisitBooking.Service.Operation
import VisitBooking.Service.Rules
import VisitBooking.Store.Basic
import VisitBooking.Event.Basic

/-!
# Transactions

The part of an operation that works on the store. It happens as a whole: no other transaction runs
in between.

## Main definitions

* `Transaction`: what is done to the store.
* `Effect`: what it leads to.
* `Transaction.run`.
-/

namespace VisitBooking

open Calendar Reference

/-- What a prepared operation does to the store. -/
inductive Transaction where
  | insertBooked (d : Details)
  | insertMigrated (d : Details)
  | update (reference : String) (now : DateTime) (request : UpdateRequest)
  | change (reference : String) (now : DateTime) (request : SlotChange)
  | cancel (reference : String) (now : DateTime) (reason : Option CancelReason)
  | find (reference : String)
  | findAll (filter : VisitFilter)
  | delete (reference : String)
  | deleteMany (references : List String)
  /-- The catalog of support is looked up and nothing else. -/
  | listSupport
deriving DecidableEq, Inhabited

/-! ### Records -/

/-- The record of a visit that is not there. -/
def notFoundRecord (reference : String) : LogRecord :=
  .info ("visit reference " ++ reference ++ " not found") [("reference", reference)]

/-- The record of an imported visit. -/
def migratedRecord (v : Visit) : LogRecord :=
  .info "visit-scheduler-prison-visit-migrated"
    [ ("reference", v.reference),
      ("prisoner_id", v.details.prisoner),
      ("prison_id", v.details.prison),
      ("visit_type", Enumeration.name v.details.type),
      ("visit_room", v.details.room),
      ("visit_restriction", Enumeration.name v.details.restriction),
      ("visit_start", v.details.starts.display),
      ("visit_status", Enumeration.name v.details.status),
      ("outcome_status", Enumeration.name (v.details.outcome.getD .notRecorded)) ]

/-! ### Effects -/

/-- What a transaction leads to: the answer or the failure, the change to be announced if there is
one, and the records. -/
structure Effect where
  result : Except Failure Answer
  event : Option (EventKind × Visit)
  logs : List LogRecord
deriving Inhabited

/-- The effect of a failure. That there is no such visit is recorded. -/
def Effect.ofFailure (f : Failure) : Effect where
  result := .error f
  event := none
  logs := match f with
    | .notFound reference => [notFoundRecord reference]
    | _ => []

/-- The effect of an answer without an event. -/
def Effect.ofAnswer (a : Answer) (logs : List LogRecord) : Effect := ⟨.ok a, none, logs⟩

/-- The effect of writing a visit, announced as the given kind if there is one. -/
def Effect.ofWrite (kind : Option EventKind) : Except Failure Visit → Effect
  | .error f => .ofFailure f
  | .ok v => ⟨.ok (.visit v), kind.map fun k => (k, v), []⟩

namespace Transaction

/-- Run a transaction; `write` is when it writes. -/
def run (codec : Codec) (write : Instant) (t : Transaction) (s : Store) : Effect × Store :=
  match t with
  | .insertBooked d =>
    match s.insert codec write d with
    | (.ok v, s) =>
      (⟨.ok (.visit v), some (.booked, v),
        [.info "visit created" [("reference", v.reference)]]⟩, s)
    | (.error fault, s) => (.ofFailure (.store fault), s)
  | .insertMigrated d =>
    match s.insert codec write d with
    | (.ok v, s) => (.ofAnswer (.reference v.reference) [migratedRecord v], s)
    | (.error fault, s) => (.ofFailure (.store fault), s)
  | .update reference now r =>
    let (result, s) := s.update write reference (updateVisit now r)
    (.ofWrite none result, s)
  | .change reference now c =>
    let (result, s) := s.update write reference (changeVisit now c)
    (.ofWrite (some .changed) result, s)
  | .cancel reference now reason =>
    let (result, s) := s.update write reference (cancelVisit now reason)
    (.ofWrite (some .cancelled) result, s)
  | .find reference =>
    match s.findByReference reference with
    | .ok (some v) => (.ofAnswer (.visit v) [], s)
    | .ok none => (.ofFailure (.notFound reference), s)
    | .error fault => (.ofFailure (.store fault), s)
  | .findAll filter =>
    match s.findAll filter with
    | .ok vs => (.ofAnswer (.visits vs) [], s)
    | .error fault => (.ofFailure (.store fault), s)
  | .delete reference =>
    let (was, s) := s.delete reference
    let record := if was then LogRecord.info "visit deleted" [("reference", reference)]
      else .info ("visit reference " ++ reference ++ " not found, nothing to delete")
        [("reference", reference)]
    (.ofAnswer .deleted [record], s)
  | .deleteMany references =>
    let (count, s) := s.deleteMany references
    (.ofAnswer (.deletedCount count) [.info "visits deleted"
      [("requested", intText references.length), ("deleted", intText count)]], s)
  | .listSupport => (.ofAnswer (.supportTypes s.supportTypes) [], s)

end Transaction

end VisitBooking
