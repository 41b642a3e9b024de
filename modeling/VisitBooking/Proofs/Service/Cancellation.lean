import VisitBooking.Proofs.Service.Decision
import VisitBooking.Proofs.Service.Noninterference

/-!
# How a visit is cancelled

More than one thing may be in the way of a cancellation, and they are told in a fixed order: there
is no such visit, it is in the past, no outcome is given, it is cancelled already. That it is in the
past counts before everything else that is asked of the visit. If none of this is the case, the
visit is written, and what changes are its status, its outcome and its notes. The visit may have
come from another system, with an outcome of its own: it is replaced like any other.

A cancellation leaves the slot, the visitors and the support alone, so the columns meet the
constraints of the store as they did before, whatever years the times are in. A row that cannot be
read is told before anything is asked of the visit.

## Main results

* `Service.cancellation_of_reachable`: the headline.
* `Service.cancellation_after_booking_in_year_10000`: a row that cannot be read.
-/

namespace VisitBooking

open Calendar Reference

namespace Service

variable {svc : Service} {c : Call} {s : Store} {reference : String} {v : Visit}

/-- No support is asked for. -/
theorem clear_support_of_cancel {reason : Option CancelReason}
    (hc : c.operation = .cancel reference reason) :
    Clear (supportObstacles s.catalog c.operation.support) := by
  rw [hc]
  exact clear_nil

/-- A cancellation that is written in the years 0 to 9999 is answered with the visit, unless its
announcement is refused. -/
theorem Rewrites.responds_of_cancel {d : Details} {reason : Option CancelReason}
    (h : svc.Rewrites c s v d) (wf : s.WellFormed) (hc : c.operation = .cancel reference reason)
    (hwrite : c.readings.write.HasPlainYear) :
    svc.Responds c s (.ok (.visit { v with details := d, modified := c.readings.write })) := by
  have hresponds : svc.Responds c s _ := exists_responds wf c
  rw [h.outcome hwrite, hc] at hresponds
  exact hresponds

/-! ### The headline -/

/-- **How a visit is cancelled.** In every store that can be reached, with whatever the clock shows
and the transport answers, a cancellation fails and leaves the store as it was

* if there is no such visit, or its row cannot be read;
* if the visit is in the past, whatever its status and whether or not there is a reason;
* else if no reason is given;
* else if the visit is cancelled already.

Otherwise it writes the visit. The status becomes cancelled, the outcome is the one that is given,
and a note with the text comes after all others if a text is given; everything else stays, the
instant of the last write apart. If this instant is in the years 0 to 9999, the visit is the answer,
unless its announcement is refused. -/
theorem cancellation_of_reachable (svc : Service) {s : Store} (hs : s.Reachable)
    (reference : String) (reason : Option CancelReason) (readings : Readings) (verdict : Verdict) :
    let c : Call := ⟨readings, verdict, .cancel reference reason⟩
    let now := svc.wallClock readings.now
    ((∀ r ∈ s.rows, r.reference ≠ reference) → svc.Declines c s (.notFound reference)) ∧
    (∀ r ∈ s.rows, r.reference = reference → ∀ fault, r.visit = .error fault →
      svc.Declines c s (.store (.unreadableRow fault))) ∧
    ∀ v ∈ s, v.reference = reference →
      (v.details.starts.toDateTime < now →
        svc.Declines c s (.refused (.expired reference .cancelled))) ∧
      (¬ v.details.starts.toDateTime < now → reason = none →
        svc.Declines c s (.refused (.outcomeMissing reference))) ∧
      (¬ v.details.starts.toDateTime < now → reason ≠ none → v.details.status = .cancelled →
        svc.Declines c s (.refused (.alreadyCancelled reference))) ∧
      ∀ r, ¬ v.details.starts.toDateTime < now → reason = some r → v.details.status ≠ .cancelled →
        let d : Details := { v.details with
          status := .cancelled
          outcome := some r.outcome
          notes := v.details.notes ++ r.text.toList.map fun text => ⟨.visitOutcomes, text⟩ }
        svc.Rewrites c s v d ∧ (readings.write.HasPlainYear →
          svc.Responds c s (.ok (.visit { v with details := d, modified := readings.write }))) := by
  intro c now
  have wf : s.WellFormed := hs.wellFormed
  have hop : c.operation.revision? (svc.wallClock c.readings.now) =
      some (reference, cancelVisit now reason) := rfl
  have hsupport : Clear (supportObstacles s.catalog c.operation.support) :=
    clear_support_of_cancel rfl
  refine ⟨declines_of_missing hop hsupport,
    fun r hr href fault hfault => declines_of_unreadable hop hsupport wf hr href hfault, ?_⟩
  rintro v hv rfl
  have hdecides := decides_cancelVisit now reason v
  have hdeclines : ∀ refusal, FirstObstacle (cancelObstacles now reason v) refusal →
      svc.Declines c s (.refused refusal) := fun refusal hfirst =>
    declines_of_obstacle hop hsupport wf hv rfl (hdecides.refused refusal hfirst)
  refine ⟨fun hpast => hdeclines _ (.here hpast),
    fun hcurrent hnone => hdeclines _ (.later hcurrent (.here hnone)),
    fun hcurrent hgiven hcancelled =>
      hdeclines _ (.later hcurrent (.later hgiven (.here hcancelled))),
    ?_⟩
  rintro r hcurrent rfl hlive d
  have hclear : Clear (cancelObstacles now (some r) v) := by
    simp only [cancelObstacles, clear_cons_iff, clear_nil, and_true]
    exact ⟨hcurrent, Option.some_ne_none r, hlive⟩
  have hd : cancelVisit now (some r) v = .ok { v with details := d } :=
    (hdecides.accepted hclear).trans (congrArg Except.ok (v.cancelFor_eq r))
  -- Slot, visitors and support are those of the stored row.
  have hvalid : d.columns.Valid := hs.valid_of_mem hv
  have hrewrites : svc.Rewrites c s v d := rewrites_of_ok hop wf hsupport hv rfl hd hvalid
  exact ⟨hrewrites, fun hwrite => hrewrites.responds_of_cancel wf rfl hwrite⟩

/-- A visit that was imported with a note and an outcome is cancelled, with an empty text. -/
theorem cancellation_of_imported :
    let svc : Service := default
    let ends : LocalTime := ⟨⟨⟨1970, 1, 2, by decide⟩, default⟩, by decide⟩
    let request : MigrateRequest := { (default : MigrateRequest) with
      ends, outcome := some .completedNormally, notes := [⟨.visitComment, "a"⟩] }
    let s := svc.after [⟨default, .refused, .migrate request⟩] .empty
    let v : Visit := ⟨1, svc.codec.encode 1, request.details, default, default⟩
    let reason : CancelReason := ⟨.notRecorded, some ""⟩
    let c : Call := ⟨default, .refused, .cancel v.reference (some reason)⟩
    let d : Details := { v.details with
      status := .cancelled
      outcome := some .notRecorded
      notes := [⟨.visitComment, "a"⟩, ⟨.visitOutcomes, ""⟩] }
    s.Reachable ∧ v ∈ s ∧ ¬ v.details.starts.toDateTime < svc.wallClock c.readings.now ∧
      svc.Rewrites c s v d ∧
      svc.Responds c s (.ok (.visit { v with details := d, modified := default })) := by
  intro svc ends request s v reason c d
  have hs : s.Reachable := .call .empty svc ⟨default, .refused, .migrate request⟩
  have hv : v ∈ s := by decide +kernel
  have hcurrent : ¬ v.details.starts.toDateTime < svc.wallClock c.readings.now := by decide +kernel
  have hlive : v.details.status ≠ .cancelled := by decide
  obtain ⟨-, -, hfound⟩ :=
    cancellation_of_reachable svc hs v.reference (some reason) c.readings c.verdict
  obtain ⟨-, -, -, hcancel⟩ := hfound v hv rfl
  obtain ⟨hrewrites, hresponds⟩ := hcancel reason hcurrent rfl hlive
  exact ⟨hs, hv, hcurrent, hrewrites, hresponds (by decide +kernel)⟩

/-- A visit that was booked by a write in the year 10000 is there, and nothing is in the way of its
cancellation, but it is not cancelled. -/
theorem cancellation_after_booking_in_year_10000 :
    let svc : Service := default
    let ends : LocalTime := ⟨⟨⟨1970, 1, 2, by decide⟩, default⟩, by decide⟩
    let write : Instant := ⟨⟨⟨10000, 1, 1, by decide⟩, default⟩, by decide⟩
    let create : CreateRequest := { (default : CreateRequest) with ends }
    let reference := svc.codec.encode 1
    let s := svc.after [⟨⟨default, write⟩, .refused, .create create⟩] .empty
    let c : Call := ⟨default, .refused, .cancel reference (some ⟨.notRecorded, none⟩)⟩
    (∃ r ∈ s.rows, r.reference = reference ∧ r.columns = create.details.columns) ∧
      ¬ create.details.starts.toDateTime < svc.wallClock c.readings.now ∧
      create.details.status ≠ .cancelled ∧
      (svc.report c s).result = .error (.store (.unreadableRow .unreadableTime)) ∧
      svc.next c s = s := by
  decide +kernel

end Service

end VisitBooking
