import VisitBooking.Visit.Json
import VisitBooking.Proofs.Calendar.Wire
import VisitBooking.Proofs.Json.ReadBack
import VisitBooking.Proofs.Json.Record

/-!
# Visits are read back

A visit time is written as a text, and what belongs to a visit as an object in which every field has
its place, a missing text of a support need as null. So each is read back from what is written, and
none of them is written as null.

In the object of a visit two things may have no place. Legacy data are left out where there are
none, and what is not in the object is read as none, so nothing is lost by that. The identity is
never written: whatever it was, the visit is read with the identity zero. So visits have the same
wire form just if they differ in their identities at most.

Members are found by their names, and the names of the details are not those of the other members.
So the details are read back from the members that are written for them, whatever stands before and
after these.

## Main definitions

* `Visit.members`: the members of the object that a visit is written as.

## Main results

* `LocalTime.readsBack`, `Contact.readsBack`, `Visitor.readsBack`, `SupportNeed.readsBack`,
  `Note.readsBack`, `LegacyData.readsBack`, `Instant.readsBack`.
* `Details.reads_members`: the fields of a record among which the details are written.
* `Visit.ofValue_toJson`, `Visit.print_toJson_eq_iff`.
* `Visit.wire_read_back`: a visit and its wire form.
-/

namespace VisitBooking

open Json Calendar

theorem Calendar.LocalTime.readsBack : LocalTime.decode.ReadsBack LocalTime.toJson :=
  Decoder.readsBack_parsed LocalTime.ofWire?_wire

theorem Calendar.LocalTime.toJson_ne_null (t : LocalTime) : t.toJson ≠ .null := by
  unfold LocalTime.toJson
  nofun

theorem Contact.readsBack : Contact.decode.ReadsBack Contact.toJson := by
  rintro ⟨name, telephone⟩
  refine Record.Reads.ofValue_fields ?_ (by decide) (.refl _)
  exact (Record.Reads.required rfl (readsBack_text name)).map Contact.mk
    |>.and (.required rfl (readsBack_text telephone))

theorem Visitor.readsBack : Visitor.decode.ReadsBack Visitor.toJson := by
  rintro ⟨person⟩
  refine Record.Reads.ofValue_fields ?_ (by decide) (.refl _)
  exact (Record.Reads.required rfl (readsBack_int64 person)).map Visitor.mk

theorem SupportNeed.readsBack : SupportNeed.decode.ReadsBack SupportNeed.toJson := by
  rintro ⟨type, text⟩
  refine Record.Reads.ofValue_fields ?_ (by decide) (.refl _)
  exact (Record.Reads.required rfl (readsBack_text type)).map SupportNeed.mk
    |>.and (.optional rfl (readsBack_text.option nofun text))

theorem Note.readsBack : Note.decode.ReadsBack Note.toJson := by
  rintro ⟨type, text⟩
  refine Record.Reads.ofValue_fields ?_ (by decide) (.refl _)
  exact (Record.Reads.required rfl (Enumeration.readsBack type)).map Note.mk
    |>.and (.required rfl (readsBack_text text))

theorem LegacyData.readsBack : LegacyData.decode.ReadsBack LegacyData.toJson := by
  rintro ⟨leadPerson⟩
  refine Record.Reads.ofValue_fields ?_ (by decide) (.refl _)
  exact (Record.Reads.required rfl (readsBack_int64 leadPerson)).map LegacyData.mk

theorem Calendar.Instant.readsBack : Instant.decode.ReadsBack Instant.toJson :=
  Decoder.readsBack_parsed Instant.ofWire?_wire

/-! ### Details -/

namespace Details

/-- The members that are written are fields, in the order of the fields. -/
theorem names_members_sublist (d : Details) :
    (d.members.map Prod.fst).Sublist (Details.record.fields.map Prod.fst) := by
  obtain ⟨prisoner, prison, room, type, status, restriction, starts, ends, outcome, contact,
    visitors, support, notes, legacy⟩ := d
  cases legacy with
  | none => exact List.sublist_append_left _ ["legacyData"]
  | some l => exact .refl _

/-- Legacy data are read back from their member, or from its absence. -/
theorem reads_legacy {value : String → Option Tree} (legacy : Option LegacyData)
    (hvalue : value "legacyData" = legacy.map fun l => l.toJson.tree) :
    (Record.defaulted "legacyData" (decodeOption LegacyData.decode) none).Reads value legacy := by
  cases legacy with
  | none => exact .leftOut hvalue
  | some l => exact .defaulted hvalue (LegacyData.readsBack.option nofun (some l))

/-- The details are read back from any record whose fields of these names have the values that are
written for them. -/
theorem reads_members {value : String → Option Tree} (d : Details)
    (hvalue : ∀ name ∈ Details.record.fields.map Prod.fst,
      value name = (d.members.lookup name).map Value.tree) :
    Details.record.Reads value d := by
  obtain ⟨prisoner, prison, room, type, status, restriction, starts, ends, outcome, contact,
    visitors, support, notes, legacy⟩ := d
  exact (Record.Reads.required (hvalue _ (by decide)) (readsBack_text prisoner)).map Details.mk
    |>.and (.required (hvalue _ (by decide)) (readsBack_text prison))
    |>.and (.required (hvalue _ (by decide)) (readsBack_text room))
    |>.and (.required (hvalue _ (by decide)) (Enumeration.readsBack type))
    |>.and (.required (hvalue _ (by decide)) (Enumeration.readsBack status))
    |>.and (.required (hvalue _ (by decide)) (Enumeration.readsBack restriction))
    |>.and (.required (hvalue _ (by decide)) (LocalTime.readsBack starts))
    |>.and (.required (hvalue _ (by decide)) (LocalTime.readsBack ends))
    |>.and (.optional (hvalue _ (by decide)) (Enumeration.readsBack.option nofun outcome))
    |>.and (.optional (hvalue _ (by decide)) (Contact.readsBack.option nofun contact))
    |>.and (.required (hvalue _ (by decide)) (Visitor.readsBack.list visitors))
    |>.and (.required (hvalue _ (by decide)) (SupportNeed.readsBack.list support))
    |>.and (.required (hvalue _ (by decide)) (Note.readsBack.list notes))
    |>.and (reads_legacy legacy ((hvalue _ (by decide)).trans (by cases legacy <;> rfl)))

end Details

/-! ### Visits -/

namespace Visit

/-- The members for the instants at which a visit was made and last written. -/
def stampMembers (v : Visit) : List (String × Value) :=
  [("createdTimestamp", v.created.toJson), ("modifiedTimestamp", v.modified.toJson)]

/-- The members of the object that a visit is written as. -/
def members (v : Visit) : List (String × Value) :=
  ("reference", .text v.reference) :: v.details.members ++ v.stampMembers

/-- The members that are written are fields, in the order of the fields. -/
theorem names_members_sublist (v : Visit) :
    (v.members.map Prod.fst).Sublist ("reference" :: Details.record.fields.map Prod.fst ++
      ["createdTimestamp", "modifiedTimestamp"]) := by
  rw [members, List.map_append]
  exact (v.details.names_members_sublist.cons_cons "reference").append (.refl _)

/-- A member that is not the reference is among the details or behind them. -/
theorem lookup_members {name : String} (v : Visit) (hname : name ≠ "reference") :
    v.members.lookup name = (v.details.members.lookup name).or (v.stampMembers.lookup name) := by
  rw [members, List.cons_append, List.lookup_cons, beq_false_of_ne hname]
  exact List.lookup_append

/-- No field of the details has the name of another member. -/
theorem lookup_members_of_mem {name : String} (v : Visit)
    (hname : name ∈ Details.record.fields.map Prod.fst) :
    v.members.lookup name = v.details.members.lookup name := by
  have hother : ∀ name ∈ Details.record.fields.map Prod.fst, name ≠ "reference" ∧
      name ∉ ["createdTimestamp", "modifiedTimestamp"] := by decide
  obtain ⟨hreference, hstamps⟩ := hother name hname
  have hnone : v.stampMembers.lookup name = none := lookup_eq_none_of_notMem hstamps
  rw [v.lookup_members hreference, hnone, Option.or_none]

/-- No other member has the name of a field of the details. -/
theorem lookup_members_of_notMem {name : String} (v : Visit) (hreference : name ≠ "reference")
    (hname : name ∉ Details.record.fields.map Prod.fst) :
    v.members.lookup name = v.stampMembers.lookup name := by
  have hnone : v.details.members.lookup name = none :=
    lookup_eq_none_of_notMem fun hmem => hname (v.details.names_members_sublist.subset hmem)
  rw [v.lookup_members hreference, hnone, Option.none_or]

/-- Every visit is read back from what is written for it, with the identity zero. -/
theorem ofValue_toJson (v : Visit) : Visit.decode.ofValue v.toJson = .ok { v with id := 0 } := by
  have hdetails (name : String) (hname : name ∈ Details.record.fields.map Prod.fst) :
      (v.members.lookup name).map Value.tree = (v.details.members.lookup name).map Value.tree := by
    rw [v.lookup_members_of_mem hname]
  have hcreated : (v.members.lookup "createdTimestamp").map Value.tree =
      some v.created.toJson.tree := by
    rw [v.lookup_members_of_notMem (by decide) (by decide)]
    rfl
  have hmodified : (v.members.lookup "modifiedTimestamp").map Value.tree =
      some v.modified.toJson.tree := by
    rw [v.lookup_members_of_notMem (by decide) (by decide)]
    rfl
  refine Record.Reads.ofValue_fields ?_ (by decide) v.names_members_sublist
  exact (Record.Reads.required rfl (readsBack_text v.reference)).map (Visit.mk 0)
    |>.and (v.details.reads_members hdetails)
    |>.and (.required hcreated (Instant.readsBack v.created))
    |>.and (.required hmodified (Instant.readsBack v.modified))

/-- The same, from a text. -/
theorem run_print_toJson (v : Visit) :
    Visit.decode.run (.ofText v.toJson.print) = .ok { v with id := 0 } :=
  (Visit.decode.run_print v.toJson).trans v.ofValue_toJson

/-- The identity is not written. -/
theorem toJson_setId (v : Visit) (id : Int) : ({ v with id := id } : Visit).toJson = v.toJson := rfl

/-- Visits have the same wire form just if they differ in their identities at most. -/
theorem print_toJson_eq_iff {v w : Visit} :
    v.toJson.print = w.toJson.print ↔ ({ v with id := 0 } : Visit) = { w with id := 0 } := by
  constructor
  · intro h
    have hread : Visit.decode.run (.ofText v.toJson.print) = .ok { w with id := 0 } :=
      h ▸ w.run_print_toJson
    exact Except.ok.inj (v.run_print_toJson.symm.trans hread)
  · intro h
    rw [← v.toJson_setId 0, h, w.toJson_setId 0]

end Visit

end VisitBooking
