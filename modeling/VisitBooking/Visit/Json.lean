import VisitBooking.Visit.Basic
import VisitBooking.Json.Printer
import VisitBooking.Calendar.Read
import VisitBooking.Calendar.Written

/-!
# Visits as JSON

The identity of a visit is neither written nor read. Legacy data are left out where there are none.

## Main definitions

* `Visit.toJson`, `Visit.decode`, and the same for all that belongs to a visit.
-/

namespace VisitBooking

open Json Calendar

namespace Calendar

/-- A visit time in its wire form. -/
def LocalTime.toJson (t : LocalTime) : Value := .text t.wire

/-- Read a visit time. -/
def LocalTime.decode : Decoder LocalTime := decodeParsed LocalTime.ofWire?

/-- An instant in its wire form. -/
def Instant.toJson (t : Instant) : Value := .text t.wire

/-- Read an instant. -/
def Instant.decode : Decoder Instant := decodeParsed Instant.ofWire?

end Calendar

/-! ### What belongs to a visit -/

/-- A contact as an object. -/
def Contact.toJson (c : Contact) : Value :=
  .object [("name", .text c.name), ("telephone", .text c.telephone)]

/-- Read a contact. -/
def Contact.decode : Decoder Contact := Record.decode <|
  (Record.required "name" decodeText).map Contact.mk
    |>.and (Record.required "telephone" decodeText)

/-- A visitor as an object. -/
def Visitor.toJson (v : Visitor) : Value := .object [("nomisPersonId", .int v.person.toInt)]

/-- Read a visitor. -/
def Visitor.decode : Decoder Visitor := Record.decode <|
  (Record.required "nomisPersonId" decodeInt64).map Visitor.mk

/-- A support need as an object. -/
def SupportNeed.toJson (s : SupportNeed) : Value :=
  .object [("type", .text s.type), ("text", .ofOption .text s.text)]

/-- Read a support need. -/
def SupportNeed.decode : Decoder SupportNeed := Record.decode <|
  (Record.required "type" decodeText).map SupportNeed.mk
    |>.and (Record.optional "text" decodeText)

/-- A note as an object. -/
def Note.toJson (n : Note) : Value :=
  .object [("type", Enumeration.toJson n.type), ("text", .text n.text)]

/-- Read a note. -/
def Note.decode : Decoder Note := Record.decode <|
  (Record.required "type" Enumeration.decode).map Note.mk
    |>.and (Record.required "text" decodeText)

/-- Legacy data as an object. -/
def LegacyData.toJson (l : LegacyData) : Value :=
  .object [("leadPersonId", .int l.leadPerson.toInt)]

/-- Read legacy data. -/
def LegacyData.decode : Decoder LegacyData := Record.decode <|
  (Record.required "leadPersonId" decodeInt64).map LegacyData.mk

/-! ### Visits -/

/-- The details of a visit as members of an object. -/
def Details.members (d : Details) : List (String × Value) :=
  [ ("prisonerId", .text d.prisoner),
    ("prisonId", .text d.prison),
    ("visitRoom", .text d.room),
    ("visitType", Enumeration.toJson d.type),
    ("visitStatus", Enumeration.toJson d.status),
    ("visitRestriction", Enumeration.toJson d.restriction),
    ("startTimestamp", d.starts.toJson),
    ("endTimestamp", d.ends.toJson),
    ("outcomeStatus", .ofOption Enumeration.toJson d.outcome),
    ("visitContact", .ofOption Contact.toJson d.contact),
    ("visitors", .ofList Visitor.toJson d.visitors),
    ("visitorSupport", .ofList SupportNeed.toJson d.support),
    ("visitNotes", .ofList Note.toJson d.notes) ] ++
  match d.legacy with
  | none => []
  | some l => [("legacyData", l.toJson)]

/-- A visit as an object. -/
def Visit.toJson (v : Visit) : Value :=
  .object <| ("reference", .text v.reference) :: v.details.members ++
    [("createdTimestamp", v.created.toJson), ("modifiedTimestamp", v.modified.toJson)]

/-- The details of a visit as fields of a record. -/
def Details.record : Record Details :=
  (Record.required "prisonerId" decodeText).map Details.mk
    |>.and (Record.required "prisonId" decodeText)
    |>.and (Record.required "visitRoom" decodeText)
    |>.and (Record.required "visitType" Enumeration.decode)
    |>.and (Record.required "visitStatus" Enumeration.decode)
    |>.and (Record.required "visitRestriction" Enumeration.decode)
    |>.and (Record.required "startTimestamp" LocalTime.decode)
    |>.and (Record.required "endTimestamp" LocalTime.decode)
    |>.and (Record.optional "outcomeStatus" Enumeration.decode)
    |>.and (Record.optional "visitContact" Contact.decode)
    |>.and (Record.required "visitors" (decodeList Visitor.decode))
    |>.and (Record.required "visitorSupport" (decodeList SupportNeed.decode))
    |>.and (Record.required "visitNotes" (decodeList Note.decode))
    |>.and (Record.defaulted "legacyData" (decodeOption LegacyData.decode) none)

/-- Read a visit. It has the identity zero. -/
def Visit.decode : Decoder Visit := Record.decode <|
  (Record.required "reference" decodeText).map (Visit.mk 0)
    |>.and Details.record
    |>.and (Record.required "createdTimestamp" Instant.decode)
    |>.and (Record.required "modifiedTimestamp" Instant.decode)

end VisitBooking
