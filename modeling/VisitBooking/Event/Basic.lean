import VisitBooking.Visit.Basic
import VisitBooking.Zone.Transition
import VisitBooking.Json.Printer
import VisitBooking.Json.Decode

/-!
# Domain events

Some changes of a visit are announced outside. An announcement is an `Envelope`, which is published
as a text under a topic with its type as an attribute.

## Main definitions

* `EventKind`: the changes that are announced.
* `Envelope`: what is said, with `toJson` and `decode`.
* `Notifier`: whether and where announcements are published.
* `Publication`, `Verdict`, `Attempt`: what is handed to the transport and what becomes of it.
-/

namespace VisitBooking

open Calendar Json

/-- The changes of a visit that are announced. -/
inductive EventKind where
  | booked
  | changed
  | cancelled
deriving DecidableEq, Repr, Inhabited

namespace EventKind

/-- The type of an event. -/
def type : EventKind → String
  | .booked => "prison-visit.booked"
  | .changed => "prison-visit.changed"
  | .cancelled => "prison-visit.cancelled"

/-- The type for the human eye. -/
def description : EventKind → String
  | .booked => "Prison Visit Booked"
  | .changed => "Prison Visit Changed"
  | .cancelled => "Prison Visit Cancelled"

/-- When the event took place: a visit is booked when it is made, and changed or cancelled when it
is written last. -/
def occurred (k : EventKind) (v : Visit) : Instant :=
  match k with
  | .booked => v.created
  | .changed | .cancelled => v.modified

end EventKind

/-- What is said of an event. -/
structure Envelope where
  type : String
  version : Nat
  description : String
  /-- When it took place, by the clock of a zone and with the offset of that clock. -/
  occurredAt : String
  prisoner : String
  reference : String
deriving DecidableEq, Repr, Inhabited

/-- The version of the envelope. -/
def eventVersion : Nat := 1

namespace Envelope

/-- An envelope as an object. -/
def toJson (e : Envelope) : Value := .object
  [ ("eventType", .text e.type),
    ("version", .int e.version),
    ("description", .text e.description),
    ("occurredAt", .text e.occurredAt),
    ("prisonerId", .text e.prisoner),
    ("additionalInformation", .object [("reference", .text e.reference)]) ]

/-- Read an envelope. -/
def decode : Decoder Envelope := Record.decode <|
  (Record.required "eventType" decodeText).map Envelope.mk
    |>.and (Record.required "version" (decodeNumber (Number.natBelow? UInt32.size)))
    |>.and (Record.required "description" decodeText)
    |>.and (Record.required "occurredAt" decodeText)
    |>.and (Record.required "prisonerId" decodeText)
    |>.and (Record.required "additionalInformation"
      (Record.required "reference" decodeText).decode)

end Envelope

/-! ### Publishing -/

/-- Whether and where events are published. -/
structure Notifier where
  enabled : Bool
  topic : String
  /-- The zone in whose time events are told. -/
  zone : Zone
deriving DecidableEq, Inhabited

/-- The topic under which events are published if none is given. -/
def defaultTopic : String := "domainevents"

/-- The name of the zone in whose time events are told if none is given. -/
def defaultZoneName : String := "Europe/London"

/-- What is handed to the transport. -/
structure Publication where
  topic : String
  attributes : List (String × String)
  payload : String
deriving DecidableEq, Repr, Inhabited

/-- What the transport answers. -/
inductive Verdict where
  /-- The message is taken and has got an identity. -/
  | accepted (messageId : String)
  | refused
deriving DecidableEq, Repr, Inhabited

/-- A publication that was handed to the transport, and the answer. -/
structure Attempt where
  publication : Publication
  verdict : Verdict
deriving DecidableEq, Repr, Inhabited

namespace Notifier

/-- What is said of a visit that underwent a change at an instant. -/
def envelope (n : Notifier) (k : EventKind) (v : Visit) (occurred : Instant) : Envelope where
  type := k.type
  version := eventVersion
  description := k.description
  occurredAt := n.zone.stamp occurred
  prisoner := v.details.prisoner
  reference := v.reference

/-- What is handed to the transport for a change of a visit. -/
def publication (n : Notifier) (k : EventKind) (v : Visit) : Publication where
  topic := n.topic
  attributes := [("eventType", k.type)]
  payload := (n.envelope k v (k.occurred v)).toJson.print

end Notifier

end VisitBooking
