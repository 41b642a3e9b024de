import Mathlib.Tactic.MkIffOfInductiveProp
import VisitBooking.Proofs.Json.Meaning
import VisitBooking.Request.Json

/-!
# What bodies of requests say

For each kind of request the names of its fields in the order in which a list has them, and a
relation on its fields, part by part. Three kinds of fields are told apart: `Required` ones,
`Optional` ones, which may be null, and `Defaulted` ones. So this is where it is written down that
the contact of an update is kept where it is missing and taken away where it is null, and that the
body of a cancellation gives no reason where its outcome is missing or null, whatever its text says.

The decoder of a record is put together from its fields as the relation is, and all that is left to
show is that both have the same parts.

## Main definitions

* `CreateRequest.SaidBy`, `UpdateRequest.SaidBy`, `SlotChange.SaidBy`, `MigrateRequest.SaidBy`,
  `CancelReason.SaidBy`: what a body says.

## Main results

* `CreateRequest.decides`, `UpdateRequest.decides`, `SlotChange.decides`, `MigrateRequest.decides`,
  `decides_cancel`: a body is read as what it says.
-/

namespace VisitBooking

open Json Calendar Record

/-- The tree is a text in the wire form of a visit time. -/
def Calendar.LocalTime.SaidBy : Tree → LocalTime → Prop :=
  TextOf fun s t => LocalTime.ofWire? s = some t

/-- A record with the given names of fields, which stand in the relation. -/
def RecordOf {α : Type} (names : List String)
    (Fields : Form → (String → Option Tree) → α → Prop) (t : Tree) (a : α) : Prop :=
  ∃ form value, t.IsRecord names form value ∧ Fields form value a

/-- An edit: null takes the part away. -/
inductive EditOf {α : Type} (Means : Tree → α → Prop) : Tree → Edit α → Prop
  | clear : EditOf Means .null .clear
  | set {t : Tree} {a : α} (hne : t ≠ .null) (h : Means t a) : EditOf Means t (.set a)

theorem Calendar.LocalTime.decides : LocalTime.decode.Decides LocalTime.SaidBy :=
  decides_parsed fun _ _ => Iff.rfl

theorem Edit.decides {α : Type} {d : Decoder α} {Means : Tree → α → Prop} (h : d.Decides Means) :
    (Edit.decode d).Decides (EditOf Means) := by
  refine ⟨fun t e => ?_, ?_⟩
  · have hoption := h.option.iff t
    rw [Edit.decode]
    constructor
    · intro hread
      cases hd : decodeOption d t with
      | error f =>
        rw [hd] at hread
        cases hread
      | ok o =>
        rw [hd] at hread
        cases (hoption o).1 hd with
        | null =>
          cases hread
          exact .clear
        | value hne ha =>
          cases hread
          exact .set hne ha
    · rintro (_ | ⟨hne, ha⟩)
      · rfl
      · rw [(hoption _).2 (.value hne ha)]
        rfl
  · rintro t e (_ | ⟨-, ha⟩)
    · exact .null
    · exact h.skipped t _ ha

/-! ### What belongs to a visit -/

/-- The fields of a contact. -/
@[mk_iff]
structure Contact.Fields (form : Form) (value : String → Option Tree) (c : Contact) : Prop where
  name : Required (TextOf Eq) form (value "name") c.name
  telephone : Required (TextOf Eq) form (value "telephone") c.telephone

/-- The tree says a contact. -/
def Contact.SaidBy : Tree → Contact → Prop := RecordOf ["name", "telephone"] Contact.Fields

theorem Contact.decides : Contact.decode.Decides Contact.SaidBy := by
  have h := (decides_required "name" decides_text).map Contact.mk
    |>.and (decides_required "telephone" decides_text)
  exact (h.congr fun form value ⟨_, _⟩ => by simp [Contact.fields_iff]).decode (by decide)

/-- The field of a visitor. -/
@[mk_iff]
structure Visitor.Fields (form : Form) (value : String → Option Tree) (v : Visitor) : Prop where
  person : Required (fun t (i : Int64) => Integer t i.toInt) form (value "nomisPersonId") v.person

/-- The tree says a visitor. -/
def Visitor.SaidBy : Tree → Visitor → Prop := RecordOf ["nomisPersonId"] Visitor.Fields

theorem Visitor.decides : Visitor.decode.Decides Visitor.SaidBy := by
  have h := (decides_required "nomisPersonId" decides_int64).map Visitor.mk
  exact (h.congr fun form value ⟨_⟩ => by simp [Visitor.fields_iff]).decode (by decide)

/-- The fields of a support need. -/
@[mk_iff]
structure SupportNeed.Fields (form : Form) (value : String → Option Tree) (s : SupportNeed) :
    Prop where
  type : Required (TextOf Eq) form (value "type") s.type
  text : Optional (TextOf Eq) form (value "text") s.text

/-- The tree says a support need. -/
def SupportNeed.SaidBy : Tree → SupportNeed → Prop := RecordOf ["type", "text"] SupportNeed.Fields

theorem SupportNeed.decides : SupportNeed.decode.Decides SupportNeed.SaidBy := by
  have h := (decides_required "type" decides_text).map SupportNeed.mk
    |>.and (decides_optional "text" decides_text)
  exact (h.congr fun form value ⟨_, _⟩ => by simp [SupportNeed.fields_iff]).decode (by decide)

/-- The fields of a note. -/
@[mk_iff]
structure Note.Fields (form : Form) (value : String → Option Tree) (n : Note) : Prop where
  type : Required Named form (value "type") n.type
  text : Required (TextOf Eq) form (value "text") n.text

/-- The tree says a note. -/
def Note.SaidBy : Tree → Note → Prop := RecordOf ["type", "text"] Note.Fields

theorem Note.decides : Note.decode.Decides Note.SaidBy := by
  have h := (decides_required "type" decides_named).map Note.mk
    |>.and (decides_required "text" decides_text)
  exact (h.congr fun form value ⟨_, _⟩ => by simp [Note.fields_iff]).decode (by decide)

/-- The field of legacy data. -/
@[mk_iff]
structure LegacyData.Fields (form : Form) (value : String → Option Tree) (l : LegacyData) :
    Prop where
  leadPerson : Required (fun t (i : Int64) => Integer t i.toInt) form (value "leadPersonId")
    l.leadPerson

/-- The tree says legacy data. -/
def LegacyData.SaidBy : Tree → LegacyData → Prop := RecordOf ["leadPersonId"] LegacyData.Fields

theorem LegacyData.decides : LegacyData.decode.Decides LegacyData.SaidBy := by
  have h := (decides_required "leadPersonId" decides_int64).map LegacyData.mk
  exact (h.congr fun form value ⟨_⟩ => by simp [LegacyData.fields_iff]).decode (by decide)

/-- The fields of a contact of which parts may be unknown. -/
@[mk_iff]
structure LegacyContact.Fields (form : Form) (value : String → Option Tree) (c : LegacyContact) :
    Prop where
  name : Defaulted none (Nullable (TextOf Eq)) form (value "name") c.name
  telephone : Defaulted none (Nullable (TextOf Eq)) form (value "telephone") c.telephone

/-- The tree says a contact of which parts may be unknown. -/
def LegacyContact.SaidBy : Tree → LegacyContact → Prop :=
  RecordOf ["name", "telephone"] LegacyContact.Fields

theorem LegacyContact.decides : LegacyContact.decode.Decides LegacyContact.SaidBy := by
  have htext := decides_text.option
  have h := (decides_defaulted "name" htext none).map LegacyContact.mk
    |>.and (decides_defaulted "telephone" htext none)
  exact (h.congr fun form value ⟨_, _⟩ => by simp [LegacyContact.fields_iff]).decode (by decide)

/-! ### Requests -/

/-- The fields of a visit to be booked. -/
@[mk_iff]
structure CreateRequest.Fields (form : Form) (value : String → Option Tree) (r : CreateRequest) :
    Prop where
  prisoner : Required (TextOf Eq) form (value "prisonerId") r.prisoner
  prison : Required (TextOf Eq) form (value "prisonId") r.prison
  room : Required (TextOf Eq) form (value "visitRoom") r.room
  type : Required Named form (value "visitType") r.type
  status : Required Named form (value "visitStatus") r.status
  restriction : Required Named form (value "visitRestriction") r.restriction
  starts : Required LocalTime.SaidBy form (value "startTimestamp") r.starts
  ends : Required LocalTime.SaidBy form (value "endTimestamp") r.ends
  contact : Optional Contact.SaidBy form (value "visitContact") r.contact
  visitors : Defaulted [] (ListOf Visitor.SaidBy) form (value "visitors") r.visitors
  support : Defaulted [] (ListOf SupportNeed.SaidBy) form (value "visitorSupport") r.support
  notes : Defaulted [] (ListOf Note.SaidBy) form (value "visitNotes") r.notes

/-- The tree says a visit to be booked. -/
def CreateRequest.SaidBy : Tree → CreateRequest → Prop :=
  RecordOf ["prisonerId", "prisonId", "visitRoom", "visitType", "visitStatus", "visitRestriction",
    "startTimestamp", "endTimestamp", "visitContact", "visitors", "visitorSupport", "visitNotes"]
    CreateRequest.Fields

theorem CreateRequest.decides : CreateRequest.decode.Decides CreateRequest.SaidBy := by
  have h := (decides_required "prisonerId" decides_text).map CreateRequest.mk
    |>.and (decides_required "prisonId" decides_text)
    |>.and (decides_required "visitRoom" decides_text)
    |>.and (decides_required "visitType" decides_named)
    |>.and (decides_required "visitStatus" decides_named)
    |>.and (decides_required "visitRestriction" decides_named)
    |>.and (decides_required "startTimestamp" LocalTime.decides)
    |>.and (decides_required "endTimestamp" LocalTime.decides)
    |>.and (decides_optional "visitContact" Contact.decides)
    |>.and (decides_defaulted "visitors" Visitor.decides.list [])
    |>.and (decides_defaulted "visitorSupport" SupportNeed.decides.list [])
    |>.and (decides_defaulted "visitNotes" Note.decides.list [])
  exact (h.congr fun form value ⟨_, _, _, _, _, _, _, _, _, _, _, _⟩ => by
    simp [CreateRequest.fields_iff, and_assoc]).decode (by decide)

/-- The fields of an update. -/
@[mk_iff]
structure UpdateRequest.Fields (form : Form) (value : String → Option Tree) (r : UpdateRequest) :
    Prop where
  prisoner : Optional (TextOf Eq) form (value "prisonerId") r.prisoner
  prison : Optional (TextOf Eq) form (value "prisonId") r.prison
  room : Optional (TextOf Eq) form (value "visitRoom") r.room
  type : Optional Named form (value "visitType") r.type
  status : Optional Named form (value "visitStatus") r.status
  restriction : Optional Named form (value "visitRestriction") r.restriction
  starts : Optional LocalTime.SaidBy form (value "startTimestamp") r.starts
  ends : Optional LocalTime.SaidBy form (value "endTimestamp") r.ends
  contact : Defaulted .keep (EditOf Contact.SaidBy) form (value "visitContact") r.contact
  visitors : Optional (ListOf Visitor.SaidBy) form (value "visitors") r.visitors
  support : Optional (ListOf SupportNeed.SaidBy) form (value "visitorSupport") r.support

/-- The tree says an update. -/
def UpdateRequest.SaidBy : Tree → UpdateRequest → Prop :=
  RecordOf ["prisonerId", "prisonId", "visitRoom", "visitType", "visitStatus", "visitRestriction",
    "startTimestamp", "endTimestamp", "visitContact", "visitors", "visitorSupport"]
    UpdateRequest.Fields

theorem UpdateRequest.decides : UpdateRequest.decode.Decides UpdateRequest.SaidBy := by
  have h := (decides_optional "prisonerId" decides_text).map UpdateRequest.mk
    |>.and (decides_optional "prisonId" decides_text)
    |>.and (decides_optional "visitRoom" decides_text)
    |>.and (decides_optional "visitType" decides_named)
    |>.and (decides_optional "visitStatus" decides_named)
    |>.and (decides_optional "visitRestriction" decides_named)
    |>.and (decides_optional "startTimestamp" LocalTime.decides)
    |>.and (decides_optional "endTimestamp" LocalTime.decides)
    |>.and (decides_defaulted "visitContact" (Edit.decides Contact.decides) .keep)
    |>.and (decides_optional "visitors" Visitor.decides.list)
    |>.and (decides_optional "visitorSupport" SupportNeed.decides.list)
  exact (h.congr fun form value ⟨_, _, _, _, _, _, _, _, _, _, _⟩ => by
    simp [UpdateRequest.fields_iff, and_assoc]).decode (by decide)

/-- The fields of a change of slot. -/
@[mk_iff]
structure SlotChange.Fields (form : Form) (value : String → Option Tree) (c : SlotChange) :
    Prop where
  restriction : Optional Named form (value "visitRestriction") c.restriction
  starts : Optional LocalTime.SaidBy form (value "startTimestamp") c.starts
  ends : Optional LocalTime.SaidBy form (value "endTimestamp") c.ends
  contact : Optional Contact.SaidBy form (value "visitContact") c.contact
  visitors : Optional (ListOf Visitor.SaidBy) form (value "visitors") c.visitors
  support : Optional (ListOf SupportNeed.SaidBy) form (value "visitorSupport") c.support

/-- The tree says a change of slot. -/
def SlotChange.SaidBy : Tree → SlotChange → Prop :=
  RecordOf ["visitRestriction", "startTimestamp", "endTimestamp", "visitContact", "visitors",
    "visitorSupport"] SlotChange.Fields

theorem SlotChange.decides : SlotChange.decode.Decides SlotChange.SaidBy := by
  have h := (decides_optional "visitRestriction" decides_named).map
      SlotChange.mk
    |>.and (decides_optional "startTimestamp" LocalTime.decides)
    |>.and (decides_optional "endTimestamp" LocalTime.decides)
    |>.and (decides_optional "visitContact" Contact.decides)
    |>.and (decides_optional "visitors" Visitor.decides.list)
    |>.and (decides_optional "visitorSupport" SupportNeed.decides.list)
  exact (h.congr fun form value ⟨_, _, _, _, _, _⟩ => by
    simp [SlotChange.fields_iff, and_assoc]).decode (by decide)

/-- The fields of the body of a cancellation: without an outcome there is no reason, whatever the
text says. -/
inductive CancelReason.Fields (form : Form) (value : String → Option Tree) :
    Option CancelReason → Prop
  | none {text : Option String} (houtcome : Optional (α := Outcome) Named form
      (value "outcomeStatus") none) (htext : Optional (TextOf Eq) form (value "text") text) :
      Fields form value none
  | some {outcome : Outcome} {text : Option String}
      (houtcome : Optional Named form (value "outcomeStatus") (some outcome))
      (htext : Optional (TextOf Eq) form (value "text") text) :
      Fields form value (some ⟨outcome, text⟩)

/-- The tree says why a visit is cancelled, or gives no reason. -/
def CancelReason.SaidBy : Tree → Option CancelReason → Prop :=
  RecordOf ["outcomeStatus", "text"] CancelReason.Fields

theorem decides_cancel : decodeCancel.Decides CancelReason.SaidBy := by
  have h := (decides_optional "outcomeStatus" decides_named).map
      (fun outcome text => outcome.map fun o => CancelReason.mk o text)
    |>.and (decides_optional "text" decides_text)
  refine (h.congr fun form value reason => ?_).decode (by decide)
  constructor
  · rintro ⟨_, text, ⟨outcome, houtcome, rfl⟩, htext, rfl⟩
    cases outcome with
    | none => exact .none houtcome htext
    | some outcome => exact .some houtcome htext
  · rintro (⟨houtcome, htext⟩ | ⟨houtcome, htext⟩)
    · exact ⟨_, _, ⟨none, houtcome, rfl⟩, htext, rfl⟩
    · exact ⟨_, _, ⟨some _, houtcome, rfl⟩, htext, rfl⟩

/-- The fields of a visit to be imported. -/
@[mk_iff]
structure MigrateRequest.Fields (form : Form) (value : String → Option Tree) (r : MigrateRequest) :
    Prop where
  prisoner : Required (TextOf Eq) form (value "prisonerId") r.prisoner
  prison : Required (TextOf Eq) form (value "prisonId") r.prison
  room : Required (TextOf Eq) form (value "visitRoom") r.room
  type : Required Named form (value "visitType") r.type
  status : Required Named form (value "visitStatus") r.status
  outcome : Optional Named form (value "outcomeStatus") r.outcome
  restriction : Required Named form (value "visitRestriction") r.restriction
  starts : Required LocalTime.SaidBy form (value "startTimestamp") r.starts
  ends : Required LocalTime.SaidBy form (value "endTimestamp") r.ends
  contact : Optional LegacyContact.SaidBy form (value "visitContact") r.contact
  visitors : Defaulted [] (ListOf Visitor.SaidBy) form (value "visitors") r.visitors
  notes : Defaulted [] (ListOf Note.SaidBy) form (value "visitNotes") r.notes
  legacy : Optional LegacyData.SaidBy form (value "legacyData") r.legacy

/-- The tree says a visit to be imported. -/
def MigrateRequest.SaidBy : Tree → MigrateRequest → Prop :=
  RecordOf ["prisonerId", "prisonId", "visitRoom", "visitType", "visitStatus", "outcomeStatus",
    "visitRestriction", "startTimestamp", "endTimestamp", "visitContact", "visitors", "visitNotes",
    "legacyData"] MigrateRequest.Fields

theorem MigrateRequest.decides : MigrateRequest.decode.Decides MigrateRequest.SaidBy := by
  have h := (decides_required "prisonerId" decides_text).map MigrateRequest.mk
    |>.and (decides_required "prisonId" decides_text)
    |>.and (decides_required "visitRoom" decides_text)
    |>.and (decides_required "visitType" decides_named)
    |>.and (decides_required "visitStatus" decides_named)
    |>.and (decides_optional "outcomeStatus" decides_named)
    |>.and (decides_required "visitRestriction" decides_named)
    |>.and (decides_required "startTimestamp" LocalTime.decides)
    |>.and (decides_required "endTimestamp" LocalTime.decides)
    |>.and (decides_optional "visitContact" LegacyContact.decides)
    |>.and (decides_defaulted "visitors" Visitor.decides.list [])
    |>.and (decides_defaulted "visitNotes" Note.decides.list [])
    |>.and (decides_optional "legacyData" LegacyData.decides)
  exact (h.congr fun form value ⟨_, _, _, _, _, _, _, _, _, _, _, _, _⟩ => by
    simp [MigrateRequest.fields_iff, and_assoc]).decode (by decide)

end VisitBooking
