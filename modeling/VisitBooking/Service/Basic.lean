import VisitBooking.Service.Transaction

/-!
# The life of visits

Visits are booked, updated, moved to another slot, cancelled, imported, looked up and deleted. Each
operation runs in three steps:

* it is prepared: checks that need no visit are made, first those on the request by itself, then
  the support it asks for is looked up in the catalog, and the clock is read;
* one transaction on the store does the work;
* if that succeeds and the operation is one that is announced, one publication is handed to the
  transport. A refusal by the transport is reported and undoes nothing.

What comes from outside during an operation is an argument: the readings of the clock and the answer
of the transport, should it be asked.

## Main definitions

* `Service.prepare`, `Transaction.run`, `Service.announce`: the three steps.
* `Service.perform`: the first two of them.
* `Service.run`: a whole operation.
-/

namespace VisitBooking

open Calendar Reference

/-- What the service works with. -/
structure Service where
  codec : Codec
  notifier : Notifier
deriving DecidableEq, Inhabited

/-- The readings of the clock during an operation. -/
structure Readings where
  /-- When the operation looks at the clock. -/
  now : Instant
  /-- When the store writes. -/
  write : Instant
deriving DecidableEq, Inhabited

namespace Operation

/-- The rules on an operation by itself. -/
def check : Operation → Except Refusal Unit
  | .create r => checkCreate r
  | .migrate r => checkSlot r.details
  | _ => .ok ()

/-- The support that an operation asks for. -/
def support : Operation → List SupportNeed
  | .create r => r.support
  | .update _ r => r.support.getD []
  | .change _ c => c.support.getD []
  | _ => []

end Operation

namespace Service

/-- What the clock on the wall shows. -/
def wallClock (s : Service) (now : Instant) : DateTime := s.notifier.zone.localTime now

/-- What an operation does to the store, if the clock is read at `now`. -/
def transaction (s : Service) (now : Instant) : Operation → Transaction
  | .create r => .insertBooked r.details
  | .update reference r => .update reference (s.wallClock now) r
  | .change reference c => .change reference (s.wallClock now) c
  | .cancel reference reason => .cancel reference (s.wallClock now) reason
  | .migrate r => .insertMigrated r.details
  | .get reference => .find reference
  | .search filter => .findAll filter
  | .supportTypes => .listSupport
  | .delete reference => .delete reference
  | .deleteMany references => .deleteMany references

/-- Check what needs no visit, and read the clock. -/
def prepare (s : Service) (catalog : List SupportType) (now : Instant) (op : Operation) :
    Except Refusal Transaction := do
  op.check
  checkSupport catalog op.support
  return s.transaction now op

end Service

/-! ### The third step -/

/-- How an operation ends: the answer or the failure, the attempt at a publication if there was one,
and the records. -/
structure Report where
  result : Except Failure Answer
  attempt : Option Attempt
  logs : List LogRecord
deriving Inhabited

/-- The record of an event that is not published because nothing is. -/
def skippedRecord (k : EventKind) (v : Visit) : LogRecord :=
  .info "event publishing disabled, skipping"
    [("event_type", k.type), ("reference", v.reference)]

/-- The record of an event that the transport has taken. -/
def publishedRecord (k : EventKind) (v : Visit) (messageId : String) : LogRecord :=
  .info (k.type ++ "-domain-event") [("message_id", messageId), ("reference", v.reference)]

namespace Service

/-- Announce what a transaction did, if it is to be announced. The transport answers `verdict`. -/
def announce (s : Service) (verdict : Verdict) (e : Effect) : Report :=
  match e.event with
  | none => ⟨e.result, none, e.logs⟩
  | some (k, v) =>
    if s.notifier.enabled then
      let attempt : Attempt := ⟨s.notifier.publication k v, verdict⟩
      match verdict with
      | .accepted messageId =>
        ⟨e.result, some attempt, e.logs ++ [publishedRecord k v messageId]⟩
      | .refused => ⟨.error (.notPublished k.type s.notifier.topic), some attempt, e.logs⟩
    else ⟨e.result, none, e.logs ++ [skippedRecord k v]⟩

/-! ### Whole operations -/

/-- Prepare an operation and do its work on the store: the effect, or the rule that the request
breaks. -/
def perform (s : Service) (readings : Readings) (op : Operation) (store : Store) :
    Except Refusal Effect × Store :=
  match s.prepare store.catalog readings.now op with
  | .error reason => (.error reason, store)
  | .ok transaction =>
    let (effect, store) := transaction.run s.codec readings.write store
    (.ok effect, store)

/-- How an operation ends that came so far. The transport answers `verdict`. -/
def conclude (s : Service) (verdict : Verdict) (op : Operation) :
    Except Refusal Effect → Report
  | .error reason => ⟨.error (.refused reason), none, op.openingRecord?.toList⟩
  | .ok effect =>
    let report := s.announce verdict effect
    { report with logs := op.openingRecord?.toList ++ report.logs }

/-- Run an operation, with the given readings of the clock and the given answer of the transport. -/
def run (s : Service) (readings : Readings) (verdict : Verdict) (op : Operation) (store : Store) :
    Report × Store :=
  let (outcome, store) := s.perform readings op store
  (s.conclude verdict op outcome, store)

end Service

end VisitBooking
