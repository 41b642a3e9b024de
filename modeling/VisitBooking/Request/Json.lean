import VisitBooking.Request.Basic
import VisitBooking.Visit.Json

/-!
# Requests as JSON

A part that is not given is written as null and may be null or missing when it is read. Of a contact
to be updated a missing one is kept and a null one is taken away. The lists of a visit to be booked
or imported may be missing and are empty then.

## Main definitions

* `toJson` and `decode` for each kind of request.
* `decodeCancel`: the body of a cancellation, in which the reason may be missing.
-/

namespace VisitBooking

open Json Calendar

/-! ### Booking -/

/-- A visit to be booked as an object. -/
def CreateRequest.toJson (r : CreateRequest) : Value := .object
  [ ("prisonerId", .text r.prisoner),
    ("prisonId", .text r.prison),
    ("visitRoom", .text r.room),
    ("visitType", Enumeration.toJson r.type),
    ("visitStatus", Enumeration.toJson r.status),
    ("visitRestriction", Enumeration.toJson r.restriction),
    ("startTimestamp", r.starts.toJson),
    ("endTimestamp", r.ends.toJson),
    ("visitContact", .ofOption Contact.toJson r.contact),
    ("visitors", .ofList Visitor.toJson r.visitors),
    ("visitorSupport", .ofList SupportNeed.toJson r.support),
    ("visitNotes", .ofList Note.toJson r.notes) ]

/-- Read a visit to be booked. -/
def CreateRequest.decode : Decoder CreateRequest := Record.decode <|
  (Record.required "prisonerId" decodeText).map CreateRequest.mk
    |>.and (Record.required "prisonId" decodeText)
    |>.and (Record.required "visitRoom" decodeText)
    |>.and (Record.required "visitType" Enumeration.decode)
    |>.and (Record.required "visitStatus" Enumeration.decode)
    |>.and (Record.required "visitRestriction" Enumeration.decode)
    |>.and (Record.required "startTimestamp" LocalTime.decode)
    |>.and (Record.required "endTimestamp" LocalTime.decode)
    |>.and (Record.optional "visitContact" Contact.decode)
    |>.and (Record.defaulted "visitors" (decodeList Visitor.decode) [])
    |>.and (Record.defaulted "visitorSupport" (decodeList SupportNeed.decode) [])
    |>.and (Record.defaulted "visitNotes" (decodeList Note.decode) [])

/-! ### Updating -/

/-- The contact member of an update, which is left out if the contact is kept. -/
def Edit.members {α : Type} (name : String) (f : α → Value) : Edit α → List (String × Value)
  | .keep => []
  | .clear => [(name, .null)]
  | .set a => [(name, f a)]

/-- An update as an object. -/
def UpdateRequest.toJson (r : UpdateRequest) : Value := .object <|
  [ ("prisonerId", .ofOption .text r.prisoner),
    ("prisonId", .ofOption .text r.prison),
    ("visitRoom", .ofOption .text r.room),
    ("visitType", .ofOption Enumeration.toJson r.type),
    ("visitStatus", .ofOption Enumeration.toJson r.status),
    ("visitRestriction", .ofOption Enumeration.toJson r.restriction),
    ("startTimestamp", .ofOption LocalTime.toJson r.starts),
    ("endTimestamp", .ofOption LocalTime.toJson r.ends) ] ++
  r.contact.members "visitContact" Contact.toJson ++
  [ ("visitors", .ofOption (.ofList Visitor.toJson) r.visitors),
    ("visitorSupport", .ofOption (.ofList SupportNeed.toJson) r.support) ]

/-- Read an edit: null takes the part away. -/
def Edit.decode {α : Type} (d : Decoder α) : Decoder (Edit α) := fun t =>
  (decodeOption d t).map fun
    | none => .clear
    | some a => .set a

/-- Read an update. -/
def UpdateRequest.decode : Decoder UpdateRequest := Record.decode <|
  (Record.optional "prisonerId" decodeText).map UpdateRequest.mk
    |>.and (Record.optional "prisonId" decodeText)
    |>.and (Record.optional "visitRoom" decodeText)
    |>.and (Record.optional "visitType" Enumeration.decode)
    |>.and (Record.optional "visitStatus" Enumeration.decode)
    |>.and (Record.optional "visitRestriction" Enumeration.decode)
    |>.and (Record.optional "startTimestamp" LocalTime.decode)
    |>.and (Record.optional "endTimestamp" LocalTime.decode)
    |>.and (Record.defaulted "visitContact" (Edit.decode Contact.decode) .keep)
    |>.and (Record.optional "visitors" (decodeList Visitor.decode))
    |>.and (Record.optional "visitorSupport" (decodeList SupportNeed.decode))

/-- A change of slot as an object. -/
def SlotChange.toJson (c : SlotChange) : Value := .object
  [ ("visitRestriction", .ofOption Enumeration.toJson c.restriction),
    ("startTimestamp", .ofOption LocalTime.toJson c.starts),
    ("endTimestamp", .ofOption LocalTime.toJson c.ends),
    ("visitContact", .ofOption Contact.toJson c.contact),
    ("visitors", .ofOption (.ofList Visitor.toJson) c.visitors),
    ("visitorSupport", .ofOption (.ofList SupportNeed.toJson) c.support) ]

/-- Read a change of slot. -/
def SlotChange.decode : Decoder SlotChange := Record.decode <|
  (Record.optional "visitRestriction" Enumeration.decode).map SlotChange.mk
    |>.and (Record.optional "startTimestamp" LocalTime.decode)
    |>.and (Record.optional "endTimestamp" LocalTime.decode)
    |>.and (Record.optional "visitContact" Contact.decode)
    |>.and (Record.optional "visitors" (decodeList Visitor.decode))
    |>.and (Record.optional "visitorSupport" (decodeList SupportNeed.decode))

/-! ### Cancelling -/

/-- A reason as an object. -/
def CancelReason.toJson (r : CancelReason) : Value := .object
  [("outcomeStatus", Enumeration.toJson r.outcome), ("text", .ofOption .text r.text)]

/-- Read a reason. -/
def CancelReason.decode : Decoder CancelReason := Record.decode <|
  (Record.required "outcomeStatus" Enumeration.decode).map CancelReason.mk
    |>.and (Record.optional "text" decodeText)

/-- Read the body of a cancellation; a text without an outcome is no reason. -/
def decodeCancel : Decoder (Option CancelReason) := Record.decode <|
  (Record.optional "outcomeStatus" Enumeration.decode).map
      (fun outcome text => outcome.map fun o => CancelReason.mk o text)
    |>.and (Record.optional "text" decodeText)

/-! ### Importing -/

/-- A contact with unknown parts as an object. -/
def LegacyContact.toJson (c : LegacyContact) : Value := .object
  [("name", .ofOption .text c.name), ("telephone", .ofOption .text c.telephone)]

/-- Read a contact with unknown parts. -/
def LegacyContact.decode : Decoder LegacyContact := Record.decode <|
  (Record.defaulted "name" (decodeOption decodeText) none).map LegacyContact.mk
    |>.and (Record.defaulted "telephone" (decodeOption decodeText) none)

/-- A visit to be imported as an object. -/
def MigrateRequest.toJson (r : MigrateRequest) : Value := .object
  [ ("prisonerId", .text r.prisoner),
    ("prisonId", .text r.prison),
    ("visitRoom", .text r.room),
    ("visitType", Enumeration.toJson r.type),
    ("visitStatus", Enumeration.toJson r.status),
    ("outcomeStatus", .ofOption Enumeration.toJson r.outcome),
    ("visitRestriction", Enumeration.toJson r.restriction),
    ("startTimestamp", r.starts.toJson),
    ("endTimestamp", r.ends.toJson),
    ("visitContact", .ofOption LegacyContact.toJson r.contact),
    ("visitors", .ofList Visitor.toJson r.visitors),
    ("visitNotes", .ofList Note.toJson r.notes),
    ("legacyData", .ofOption LegacyData.toJson r.legacy) ]

/-- Read a visit to be imported. -/
def MigrateRequest.decode : Decoder MigrateRequest := Record.decode <|
  (Record.required "prisonerId" decodeText).map MigrateRequest.mk
    |>.and (Record.required "prisonId" decodeText)
    |>.and (Record.required "visitRoom" decodeText)
    |>.and (Record.required "visitType" Enumeration.decode)
    |>.and (Record.required "visitStatus" Enumeration.decode)
    |>.and (Record.optional "outcomeStatus" Enumeration.decode)
    |>.and (Record.required "visitRestriction" Enumeration.decode)
    |>.and (Record.required "startTimestamp" LocalTime.decode)
    |>.and (Record.required "endTimestamp" LocalTime.decode)
    |>.and (Record.optional "visitContact" LegacyContact.decode)
    |>.and (Record.defaulted "visitors" (decodeList Visitor.decode) [])
    |>.and (Record.defaulted "visitNotes" (decodeList Note.decode) [])
    |>.and (Record.optional "legacyData" LegacyData.decode)

/-! ### Searching -/

/-- A filter as an object. -/
def VisitFilter.toJson (f : VisitFilter) : Value := .object
  [ ("prisonerId", .ofOption .text f.prisoner),
    ("prisonId", .ofOption .text f.prison),
    ("visitRoom", .ofOption .text f.room),
    ("startTimestamp", .ofOption LocalTime.toJson f.starts),
    ("endTimestamp", .ofOption LocalTime.toJson f.ends),
    ("visitStatus", .ofOption Enumeration.toJson f.status),
    ("nomisPersonId", .ofOption (fun (p : Int64) => .int p.toInt) f.person) ]

/-- Read a filter. -/
def VisitFilter.decode : Decoder VisitFilter := Record.decode <|
  (Record.optional "prisonerId" decodeText).map VisitFilter.mk
    |>.and (Record.optional "prisonId" decodeText)
    |>.and (Record.optional "visitRoom" decodeText)
    |>.and (Record.optional "startTimestamp" LocalTime.decode)
    |>.and (Record.optional "endTimestamp" LocalTime.decode)
    |>.and (Record.optional "visitStatus" Enumeration.decode)
    |>.and (Record.optional "nomisPersonId" decodeInt64)

end VisitBooking
