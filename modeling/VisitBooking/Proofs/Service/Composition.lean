import VisitBooking.Proofs.Service.SparseUpdate

/-!
# Two updates are one

Two updates of a visit, one after the other, come to the same as one update that gives what the
second one gives, and for the rest what the first one gives. The one update has no more in its way
than the two together: it is read against the visit as it was at first, which allowed the first
update; a status that may be reached in two moves may be reached in one; and the slot that it leads
to is the one that the second update has led to. The lists that the first update gave are forgotten
if the second one gives others.

Nothing is asked of the clock here. An update that has succeeded was read back after its write, and
so will be the one update, which is written at the same instant as the first of the two. What it
writes apart from that instant is what the second one has written.

## Main definitions

* `UpdateRequest.andThen`: the one update.
* `Store.restamp`: a store with another instant of the last write of one visit.

## Main results

* `UpdateRequest.applyTo_andThen`, `UpdateRequest.AllowedFor.andThen`: the one update leads to the
  same parts, and is allowed.
* `Service.Updates.andThen`: where two updates succeed, the one update succeeds.
* `Service.updates_compose_of_reachable`: the headline.
-/

namespace VisitBooking

open Calendar Reference

/-! ### Requests -/

/-- An edit and then another one. -/
def Edit.andThen {α : Type} (first : Edit α) : Edit α → Edit α
  | .keep => first
  | second => second

theorem Edit.apply_andThen {α : Type} (first second : Edit α) (old : Option α) :
    (first.andThen second).apply old = second.apply (first.apply old) := by
  cases second <;> rfl

namespace UpdateRequest

/-- Each part is that of the second update where it gives one, and else that of the first. -/
def andThen (first second : UpdateRequest) : UpdateRequest where
  prisoner := second.prisoner.or first.prisoner
  prison := second.prison.or first.prison
  room := second.room.or first.room
  type := second.type.or first.type
  status := second.status.or first.status
  restriction := second.restriction.or first.restriction
  starts := second.starts.or first.starts
  ends := second.ends.or first.ends
  contact := first.contact.andThen second.contact
  visitors := second.visitors.or first.visitors
  support := second.support.or first.support

variable {first second r : UpdateRequest}

/-- What two updates make of the parts of a visit, one update makes of them. -/
theorem applyTo_andThen (first second : UpdateRequest) (d : Details) :
    (first.andThen second).applyTo d = second.applyTo (first.applyTo d) := by
  simp only [applyTo_eq, andThen, Edit.apply_andThen, Option.map_or, Option.getD_or]

theorem andThen_self (r : UpdateRequest) : r.andThen r = r := by
  have hcontact : r.contact.andThen r.contact = r.contact := by cases r.contact <;> rfl
  simp only [andThen, Option.or_self, hcontact]

/-- The same update again makes nothing else of the parts. -/
theorem applyTo_applyTo (r : UpdateRequest) (d : Details) :
    r.applyTo (r.applyTo d) = r.applyTo d := by
  rw [← applyTo_andThen, andThen_self]

/-- Each type of support that one of the lists asks for is known, so it is in the list that
counts. -/
theorem clear_supportObstacles_andThen {catalog : List SupportType}
    (hfirst : Clear (supportObstacles catalog (first.support.getD [])))
    (hsecond : Clear (supportObstacles catalog (second.support.getD []))) :
    Clear (supportObstacles catalog ((first.andThen second).support.getD [])) := by
  have hsupport : (first.andThen second).support = second.support.or first.support := rfl
  rw [hsupport]
  cases h : second.support with
  | none => exact hfirst
  | some support =>
    rw [h] at hsecond
    exact hsecond

end UpdateRequest

theorem VisitStatus.canBecome_trans {a b c : VisitStatus} (hab : a.canBecome b)
    (hbc : b.canBecome c) : a.canBecome c := by
  revert hab hbc
  cases a <;> cases b <;> cases c <;> simp [canBecome]

/-- A visit that allows an update, and after it another one, allows the one update. -/
theorem UpdateRequest.AllowedFor.andThen {first second : UpdateRequest} {now later : DateTime}
    {v w : Visit} (hfirst : first.AllowedFor now v) (hw : w.details = first.applyTo v.details)
    (hsecond : second.AllowedFor later w) : (first.andThen second).AllowedFor now v where
  live := hfirst.live
  current := hfirst.current
  move next hnext := by
    have hor : second.status.or first.status = some next := hnext
    have hstatus : w.details.status = first.status.getD v.details.status := by
      rw [hw, first.status_applyTo]
    rcases Option.or_eq_some_iff.1 hor with hsome | ⟨-, hsome⟩
    · -- The second update moves the status, from where the first one has left it.
      have hmove := hsecond.move next hsome
      rw [hstatus] at hmove
      cases hstep : first.status with
      | none => rwa [hstep] at hmove
      | some middle =>
        rw [hstep] at hmove
        exact VisitStatus.canBecome_trans (hfirst.move middle hstep) hmove
    · exact hfirst.move next hsome
  slot := by
    have hslot := hsecond.slot
    rw [hw] at hslot
    simpa only [UpdateRequest.andThen, UpdateRequest.applyTo_eq, Option.getD_or] using hslot

/-! ### Stores -/

namespace Store

/-- The store with another instant of the last write in the row with an identity. -/
def restamp (id : Int) (now : Instant) (s : Store) : Store :=
  { s with rows := s.rows.map fun r => if r.id = id then { r with modified := now.column } else r }

theorem writeRow_writeRow (id : Int) (c c' : Columns) (now now' : Instant) (s : Store) :
    (s.writeRow id c now).writeRow id c' now' = s.writeRow id c' now' := by
  simp only [writeRow, List.map_map]
  congr 1
  refine List.map_congr_left fun r _ => ?_
  by_cases h : r.id = id <;> simp [h, Row.write]

theorem restamp_writeRow (id : Int) (c : Columns) (now now' : Instant) (s : Store) :
    (s.writeRow id c now).restamp id now' = s.writeRow id c now' := by
  simp only [restamp, writeRow, List.map_map]
  congr 1
  refine List.map_congr_left fun r _ => ?_
  by_cases h : r.id = id <;> simp [h, Row.write]

end Store

/-! ### One update for two -/

namespace Service

variable {svc : Service} {s : Store} {c : Call} {request : UpdateRequest} {r : Row} {v w : Visit}

/-- What is read back is what was written: the visit with other details, and the instant of the
write. -/
theorem Updates.eq_write (h : svc.Updates c request s r v w) (wf : s.WellFormed) :
    w = { v with details := request.applyTo v.details, modified := w.modified } ∧
      readInstant c.readings.write.column = .ok w.modified := by
  obtain ⟨hid, href, -, hcreated, -⟩ :=
    (Row.visit_eq_ok_iff (wf.visit_columns h.mem h.read)).1 h.read
  obtain ⟨hid', href', hdetails, hcreated', hmodified⟩ := (Row.visit_eq_ok_iff rfl).1 h.written
  have hsame : w.created = v.created := Except.ok.inj (hcreated'.symm.trans hcreated)
  refine ⟨?_, hmodified⟩
  cases w
  simp_all [Row.write]

section Two

variable {first second once : Call} {q₁ q₂ : UpdateRequest} {r' : Row} {w₁ w₂ : Visit}

/-- The second update reads what the first one has written. -/
theorem Updates.row_eq (wf : s.WellFormed) (hfirst : svc.Updates first q₁ s r v w₁)
    (hsecond : svc.Updates second q₂ (svc.next first s) r' w w₂)
    (href : r'.reference = r.reference) :
    r' = r.write (q₁.applyTo v.details).columns first.readings.write ∧ w = w₁ := by
  have hmem := hsecond.mem
  rw [hfirst.next_eq wf] at hmem
  have hrow := (hfirst.commits.wellFormed wf).eq_of_reference_eq hmem hfirst.commits.mem_rows href
  have hread := hsecond.read
  rw [hrow, hfirst.written] at hread
  exact ⟨hrow, (Except.ok.inj hread).symm⟩

/-- Where two updates succeed, the one update succeeds. What it writes is what the second one has
written, at the instant of the first one. -/
theorem Updates.andThen (wf : s.WellFormed) (hfirst : svc.Updates first q₁ s r v w₁)
    (hsecond : svc.Updates second q₂ (svc.next first s) r' w₁ w₂)
    (hreadings : once.readings = first.readings)
    (hop : once.operation = .update r.reference (q₁.andThen q₂)) :
    svc.Updates once (q₁.andThen q₂) s r v { w₂ with modified := w₁.modified } := by
  obtain ⟨hw₁, hmodified⟩ := hfirst.eq_write wf
  have hdetails : w₁.details = q₁.applyTo v.details := by rw [hw₁]
  have hnext := hfirst.next_eq wf
  have wf' : (svc.next first s).WellFormed := hnext ▸ hfirst.commits.wellFormed wf
  obtain ⟨hw₂, -⟩ := hsecond.eq_write wf'
  have hsame : (q₁.andThen q₂).applyTo v.details = q₂.applyTo w₁.details := by
    rw [UpdateRequest.applyTo_andThen, hdetails]
  have hcatalog : (svc.next first s).catalog = s.catalog := by rw [hnext]; rfl
  exact {
    mem := hfirst.mem
    operation := hop
    read := hfirst.read
    known := UpdateRequest.clear_supportObstacles_andThen hfirst.known (hcatalog ▸ hsecond.known)
    allowed := by
      rw [hreadings]
      exact hfirst.allowed.andThen hdetails hsecond.allowed
    valid := hsame ▸ hsecond.valid
    written := by
      obtain ⟨hid, href, -, hcreated, -⟩ := (Row.visit_eq_ok_iff rfl).1 hfirst.written
      rw [hsame, hreadings, hw₂]
      exact (Row.visit_eq_ok_iff rfl).2 ⟨hid, href, rfl, hcreated, hmodified⟩ }

end Two

/-! ### The headline -/

/-- **Two updates are one.** If an update of a visit succeeds, in any store that can be reached, and
then another update of it succeeds, then from the same store the one update succeeds that gives what
the second one gives and else what the first one gives, with the clock of the first one. The store
that it leads to, and the visit that it answers with, are those of the two updates apart from the
instant of the last write. If the two updates are the same, the second one has changed that instant
and nothing else. -/
theorem updates_compose_of_reachable (svc : Service) {s : Store} (hs : s.Reachable)
    (reference : String) (q₁ q₂ : UpdateRequest) (readings₁ readings₂ : Readings)
    (verdict₁ verdict₂ verdict : Verdict) :
    let first : Call := ⟨readings₁, verdict₁, .update reference q₁⟩
    let second : Call := ⟨readings₂, verdict₂, .update reference q₂⟩
    let once : Call := ⟨readings₁, verdict, .update reference (q₁.andThen q₂)⟩
    (svc.report first s).result.isOk → (svc.report second (svc.next first s)).result.isOk →
    ∃ w₁ w₂ : Visit, w₁.reference = reference ∧ w₂.id = w₁.id ∧
      (svc.report first s).result = .ok (.visit w₁) ∧
      (svc.report second (svc.next first s)).result = .ok (.visit w₂) ∧
      (svc.report once s).result = .ok (.visit { w₂ with modified := w₁.modified }) ∧
      svc.next second (svc.next first s) = (svc.next once s).restamp w₂.id readings₂.write ∧
      (q₂ = q₁ → w₂ = { w₁ with modified := w₂.modified } ∧
        svc.next second (svc.next first s) =
          (svc.next first s).restamp w₂.id readings₂.write) := by
  intro first second once hok₁ hok₂
  have wf : s.WellFormed := hs.wellFormed
  have wf' : (svc.next first s).WellFormed := (hs.call svc first).wellFormed
  obtain ⟨r, v, w₁, href, hfirst⟩ := updates_of_isOk wf rfl hok₁
  obtain ⟨r', w, w₂, href', hsecond⟩ := updates_of_isOk wf' rfl hok₂
  obtain ⟨rfl, rfl⟩ := hfirst.row_eq wf hsecond (href'.trans href.symm)
  have honce : svc.Updates once (q₁.andThen q₂) s r v { w₂ with modified := w.modified } :=
    hfirst.andThen wf hsecond rfl (href ▸ rfl)
  obtain ⟨hw₁, -⟩ := hfirst.eq_write wf
  obtain ⟨hw₂, -⟩ := hsecond.eq_write wf'
  obtain ⟨hid, hreference, -, -, -⟩ := (Row.visit_eq_ok_iff rfl).1 hfirst.written
  have hid₂ : w₂.id = w.id := by rw [hw₂]
  have hnext₁ := hfirst.next_eq wf
  have hnext₂ : svc.next second (svc.next first s) =
      s.writeRow r.id (q₂.applyTo w.details).columns readings₂.write := by
    rw [hsecond.next_eq wf', hnext₁]
    exact Store.writeRow_writeRow ..
  have hparts : (q₁.andThen q₂).applyTo v.details = q₂.applyTo w.details := by
    rw [UpdateRequest.applyTo_andThen, hw₁]
  refine ⟨w, w₂, hreference.trans href, hid₂, hfirst.result_eq wf, hsecond.result_eq wf',
    honce.result_eq wf, ?_, ?_⟩
  · rw [hnext₂, honce.next_eq wf, hparts, hid₂, hid]
    exact (Store.restamp_writeRow ..).symm
  · rintro rfl
    have hstay : q₂.applyTo w.details = w.details := by
      rw [hw₁]
      exact q₂.applyTo_applyTo v.details
    have hdetails : w.details = q₂.applyTo v.details := by rw [hw₁]
    refine ⟨by rw [hw₂, hstay], ?_⟩
    rw [hnext₂, hnext₁, hstay, hdetails, hid₂, hid]
    exact (Store.restamp_writeRow ..).symm

/-- A visit gets a contact and visitors, and then it is booked and loses the contact. -/
theorem updates_compose_of_contact_taken_away :
    let svc : Service := default
    let ends : LocalTime := ⟨⟨⟨1970, 1, 2, by decide⟩, default⟩, by decide⟩
    let create : Call := ⟨default, .refused, .create { (default : CreateRequest) with ends }⟩
    let s := svc.next create .empty
    let reference := svc.codec.encode 1
    let q₁ : UpdateRequest := { contact := .set ⟨"a", "b"⟩, visitors := some [⟨1⟩] }
    let q₂ : UpdateRequest := { contact := .clear, status := some .booked }
    let first : Call := ⟨default, .refused, .update reference q₁⟩
    let second : Call := ⟨⟨default, ⟨ends⟩⟩, .refused, .update reference q₂⟩
    let once : Call := ⟨default, .refused,
      .update reference { contact := .clear, visitors := some [⟨1⟩], status := some .booked }⟩
    s.Reachable ∧ (svc.report first s).result.isOk ∧
      (svc.report second (svc.next first s)).result.isOk ∧
      ∃ w : Visit, (svc.report once s).result = .ok (.visit w) ∧
        svc.next second (svc.next first s) = (svc.next once s).restamp w.id ⟨ends⟩ := by
  intro svc ends create s reference q₁ q₂ first second once
  have hs : s.Reachable := .call .empty svc create
  have hok₁ : (svc.report first s).result.isOk := by decide +kernel
  have hok₂ : (svc.report second (svc.next first s)).result.isOk := by decide +kernel
  obtain ⟨w₁, w₂, -, -, -, -, honce, hnext, -⟩ :=
    updates_compose_of_reachable svc hs reference q₁ q₂ first.readings second.readings .refused
      .refused .refused hok₁ hok₂
  exact ⟨hs, hok₁, hok₂, _, honce, hnext⟩

end Service

end VisitBooking
