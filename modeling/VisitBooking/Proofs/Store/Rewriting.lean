import VisitBooking.Proofs.Service.Reachable

/-!
# Two ways to rewrite a visit

A visit can be changed in one transaction, by `Store.update`, or in three steps: it is looked up,
the copy is changed, and the copy is saved. The two share the writer of a row and little else. An
update looks the row up a second time, by the identity in the changed visit, and asks nothing about
its last write; a save asks that the last write in the copy is the stored one. They also tell a
missing visit in different ways.

They come to the same if the change leaves identity and last write alone. Then the second lookup
finds the row of the first one, and the comparison is between the last write that is stored and the
one that was read from it, so it is of equal texts. Whatever else the change does to the copy,
reference and creation are not written from it, so the stored ones come back.

## Main definitions

* `Store.findAndSave`: the three steps.
* `Store.KeepsStamp`: a change that leaves identity and last write alone.

## Main results

* `Store.WellFormed.findAndSave_of_ok`: what the three steps come to where the change accepts.
* `Store.findAndSave_eq_update`: the two ways agree.
* `Store.update_of_reachable`: the headline.
-/

namespace VisitBooking.Store

open Calendar Reference

/-- Look the visit with the given reference up, change the copy, and save what has become of it. -/
def findAndSave (now : Instant) (reference : String) (change : Visit → Except Refusal Visit)
    (s : Store) : Except Failure Visit × Store :=
  match s.findByReference reference with
  | .error fault => (.error (.store fault), s)
  | .ok none => (.error (.notFound reference), s)
  | .ok (some v) =>
    match change v with
    | .error reason => (.error (.refused reason), s)
    | .ok w => ((s.save now w).1.mapError .store, (s.save now w).2)

variable {s : Store} {now : Instant} {reference : String} {change : Visit → Except Refusal Visit}
  {r : Row} {v w : Visit} {reason : Refusal} {fault : StoreFault}

theorem findAndSave_of_missing (h : s.rowByReference? reference = none) :
    s.findAndSave now reference change = (.error (.notFound reference), s) := by
  simp only [findAndSave, findByReference, h, readRow]

theorem findAndSave_of_unreadable (hr : s.rowByReference? reference = some r)
    (hv : r.visit = .error fault) :
    s.findAndSave now reference change = (.error (.store fault), s) := by
  simp only [findAndSave, findByReference, hr, readRow, hv, Except.map]

theorem findAndSave_of_refused (hr : s.rowByReference? reference = some r) (hv : r.visit = .ok v)
    (hchange : change v = .error reason) :
    s.findAndSave now reference change = (.error (.refused reason), s) := by
  simp only [findAndSave, findByReference, hr, readRow, hv, Except.map, hchange]

/-- A changed copy with the identity and the last write of the row is written into it, unless a
constraint on the columns does not hold. -/
theorem WellFormed.findAndSave_of_ok (wf : s.WellFormed) (hr : r ∈ s.rows) (hv : r.visit = .ok v)
    (hw : change v = .ok w) (hid : w.id = v.id) (hmodified : r.modified = w.modified.column) :
    s.findAndSave now r.reference change =
      if w.details.columns.Valid then
        ((r.write w.details.columns now).visit.mapError .store,
          s.writeRow r.id w.details.columns now)
      else (.error (.store .constraint), s) := by
  have hwid : w.id = r.id := hid.trans (wf.visit_id hr hv)
  have hfound : s.rowByReference? r.reference = some r :=
    wf.rowByReference?_eq_some_iff.2 ⟨hr, rfl⟩
  have hrow : s.rowById? w.id = some r := wf.rowById?_eq_some_iff.2 ⟨hr, hwid.symm⟩
  simp only [findAndSave, findByReference, hfound, readRow, hv, Except.map, hw,
    save_of_modified_eq hrow hmodified, hwid]
  split <;> rfl

/-! ### The two ways agree -/

/-- The change leaves identity and last write alone. -/
def KeepsStamp (change : Visit → Except Refusal Visit) : Prop :=
  ∀ v w, change v = .ok w → w.id = v.id ∧ w.modified = v.modified

/-- Of a visit that is not there, and of one that can be read, the two ways tell the same. -/
theorem findAndSave_eq_update (hs : s.Reachable) (hchange : KeepsStamp change)
    (hreadable : ∀ r ∈ s.rows, r.reference = reference → ∃ v, r.visit = .ok v) :
    s.findAndSave now reference change = s.update now reference change := by
  have wf : s.WellFormed := hs.wellFormed
  cases hrow : s.rowByReference? reference with
  | none => rw [findAndSave_of_missing hrow, update_of_missing hrow]
  | some r =>
    obtain ⟨hr, rfl⟩ := wf.rowByReference?_eq_some_iff.1 hrow
    obtain ⟨v, hv⟩ := hreadable r hr rfl
    cases hw : change v with
    | error reason => rw [findAndSave_of_refused hrow hv hw, update_of_refused hrow hv hw]
    | ok w =>
      obtain ⟨hid, hsame⟩ := hchange v w hw
      have hmodified : r.modified = w.modified.column := hsame ▸ hs.modified_eq_column hr hv
      rw [wf.findAndSave_of_ok hr hv hw hid hmodified, wf.update_of_ok hr hv hw hid]

/-! ### The headline -/

/-- **The two ways to rewrite a visit agree.** In a store that can be reached, with any clock and
any change that leaves identity and last write alone, an update gives the same answer and leaves the
same store as a lookup, a change of the copy and a save. If there is no such visit it is not found;
if the change rejects the visit, its reason is told; if what becomes of it breaks a constraint, this
is told; and in these cases nothing is written. Otherwise the details are written, and the answer is
the visit as it was changed, but with the reference and the creation that it had before and with the
clock as its last write.

Two more cases need a year that is not of four digits. What is written then is not read back, which
both ways tell; and of a visit that was so written before, each of them tells a fault and writes
nothing. -/
theorem update_of_reachable (hs : s.Reachable) (now : Instant) (reference : String)
    (change : Visit → Except Refusal Visit) (hchange : KeepsStamp change) :
    ((∀ r ∈ s.rows, r.reference = reference → ∃ v, r.visit = .ok v) →
      s.findAndSave now reference change = s.update now reference change) ∧
    ((∀ r ∈ s.rows, r.reference ≠ reference) →
      s.update now reference change = (.error (.notFound reference), s)) ∧
    (∀ r ∈ s.rows, r.reference = reference → (∀ v, r.visit ≠ .ok v) →
      (∃ fault, s.update now reference change = (.error (.store fault), s)) ∧
      ∃ fault, s.findAndSave now reference change = (.error (.store fault), s)) ∧
    ∀ v ∈ s, v.reference = reference →
      (∀ reason, change v = .error reason →
        s.update now reference change = (.error (.refused reason), s)) ∧
      ∀ w, change v = .ok w →
        (¬ w.details.columns.Valid →
          s.update now reference change = (.error (.store .constraint), s)) ∧
        (w.details.columns.Valid →
          (s.update now reference change).2 = s.writeRow v.id w.details.columns now ∧
          (s.update now reference change).1 =
            if now.HasPlainYear then
              .ok { w with reference := v.reference, created := v.created, modified := now }
            else .error (.store .unreadableTime)) := by
  have wf : s.WellFormed := hs.wellFormed
  refine ⟨findAndSave_eq_update hs hchange, fun hmissing => ?_, ?_, ?_⟩
  · exact update_of_missing (Option.isNone_iff_eq_none.1 (rowByReference?_isNone_iff.2 hmissing))
  · rintro r hr rfl hunreadable
    have hrow : s.rowByReference? r.reference = some r := wf.rowByReference?_eq_some_iff.2 ⟨hr, rfl⟩
    cases hv : r.visit with
    | ok v => exact absurd hv (hunreadable v)
    | error fault =>
      exact ⟨⟨_, update_of_unreadable hrow hv⟩, ⟨fault, findAndSave_of_unreadable hrow hv⟩⟩
  · rintro v ⟨r, hr, hv⟩ href
    obtain rfl : r.reference = reference := (wf.visit_reference hr hv).symm.trans href
    have hrow : s.rowByReference? r.reference = some r := wf.rowByReference?_eq_some_iff.2 ⟨hr, rfl⟩
    refine ⟨fun reason hw => update_of_refused hrow hv hw, fun w hw => ?_⟩
    obtain ⟨hid, -⟩ := hchange v w hw
    rw [wf.update_of_ok hr hv hw hid]
    refine ⟨fun hvalid => if_neg hvalid, fun hvalid => ?_⟩
    rw [if_pos hvalid, wf.visit_id hr hv]
    refine ⟨rfl, ?_⟩
    split
    · rename_i hnow
      rw [Row.visit_write hv (wf.visit_columns hr hv) w.details hnow, ← hid]
      rfl
    · rename_i hnow
      rw [Row.visit_write_eq_error w.details hnow]
      rfl

/-- The change gives the copy another room, and also another reference and another creation, which
are not written. -/
theorem update_of_reachable_forged :
    let ends : LocalTime := ⟨⟨⟨1970, 1, 2, by decide⟩, default⟩, by decide⟩
    let later : Instant := ⟨⟨⟨1970, 1, 3, by decide⟩, default⟩, by decide⟩
    let d : Details := { (default : Details) with ends }
    let moved : Details := { d with room := "B" }
    let s := (Command.insert .standard default d).apply .empty
    let v := newVisit .standard default d .empty
    let change : Visit → Except Refusal Visit := fun v =>
      .ok { v with reference := "B", created := later, details := { v.details with room := "B" } }
    s.Reachable ∧ KeepsStamp change ∧
      (s.update later v.reference change).1 =
        .ok { v with details := moved, modified := later } ∧
      s.findAndSave later v.reference change = s.update later v.reference change := by
  intro ends later d moved s v change
  have hs : s.Reachable := .command .empty (.insert .standard default d)
  have hchange : KeepsStamp change := fun v w hw => by
    obtain rfl := Except.ok.inj hw
    exact ⟨rfl, rfl⟩
  have hv : v ∈ s := by decide +kernel
  have hread : ∀ r ∈ s.rows, r.visit = .ok v := by decide +kernel
  have hvalid : moved.columns.Valid := by decide +kernel
  have hlater : later.HasPlainYear := by decide
  obtain ⟨hsame, -, -, hfound⟩ := update_of_reachable hs later v.reference change hchange
  obtain ⟨-, hwritten⟩ := (hfound v hv rfl).2 _ rfl |>.2 hvalid
  rw [if_pos hlater] at hwritten
  exact ⟨hs, hchange, hwritten, hsame fun r hr _ => ⟨v, hread r hr⟩⟩

/-- A note that is added in the year 10000 is written, and the answer is neither the visit nor one
of the three failures. -/
theorem update_fails_in_year_10000 :
    let ends : LocalTime := ⟨⟨⟨1970, 1, 2, by decide⟩, default⟩, by decide⟩
    let late : Instant := ⟨⟨⟨10000, 1, 1, by decide⟩, default⟩, by decide⟩
    let d : Details := { (default : Details) with ends }
    let s := (Command.insert .standard default d).apply .empty
    let v := newVisit .standard default d .empty
    let change : Visit → Except Refusal Visit := fun v =>
      .ok { v with details := v.details.addNote default }
    s.Reachable ∧ KeepsStamp change ∧ v ∈ s ∧ (v.details.addNote default).columns.Valid ∧
      (s.update late v.reference change).1 = .error (.store .unreadableTime) ∧
      (s.update late v.reference change).2 ≠ s := by
  intro ends late d s v change
  have hs : s.Reachable := .command .empty (.insert .standard default d)
  have hchange : KeepsStamp change := fun v w hw => by
    obtain rfl := Except.ok.inj hw
    exact ⟨rfl, rfl⟩
  exact ⟨hs, hchange, by decide +kernel⟩

end VisitBooking.Store
