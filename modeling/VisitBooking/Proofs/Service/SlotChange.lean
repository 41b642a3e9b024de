import Mathlib.Data.List.Forall2
import VisitBooking.Proofs.Service.Decision
import VisitBooking.Proofs.Service.Failures
import VisitBooking.Proofs.Store.History

/-!
# A change of slot is an update that is announced

There are two ways to another slot: an update, and a change of slot. The second one asks for a
booked visit, looks at the past before it looks at the status, and cannot name a status or take a
contact away. For a booked visit that is not in the past none of this makes a difference: both read
the same visit, come to the same parts or break the same rule, and leave the same store. What the
change of slot does besides is to announce the visit, and its announcement may be refused. For all
other visits it fails and leaves nothing behind.

The two are compared on the row of the visit, so the comparison holds for a row that cannot be read,
too: both fail with the same fault. A change of slot of such a visit fails with this fault also
where the visit is not booked or is in the past, since neither is looked at then.

## Main definitions

* `Service.EndsAs`: how a call ends that does and announces what another call does.
* `Row.KeepsBooking`: what a change of slot leaves of a row.

## Main results

* `changeVisit_eq_updateVisit`: the two make the same of a booked visit that is not in the past.
* `Service.endsAs_of_perform`: they end in the same way, once they come to the same.
* `Service.slotChange_of_reachable`: the headline.
* `Service.slotChange_of_cancelled_in_year_10000`: a row that cannot be read.
-/

namespace VisitBooking

open Calendar Reference

/-! ### The same visit -/

theorem changeVisit_eq_updateVisit {now : DateTime} (request : SlotChange) {v : Visit}
    (hbooked : v.details.status = .booked) (hcurrent : ¬ v.details.starts.toDateTime < now) :
    changeVisit now request v = updateVisit now request.toUpdate v := by
  have hlive : ¬ v.details.status.isTerminal := by rw [hbooked]; decide
  rw [changeVisit, updateVisit, (checkNotExpired_eq_ok_iff now .changed v).2 hcurrent,
    if_pos hbooked, if_neg hlive]

theorem Store.update_congr {s : Store} {reference : String}
    {change change' : Visit → Except Refusal Visit}
    (h : ∀ r ∈ s.rows, r.reference = reference → ∀ v, r.visit = .ok v → change v = change' v)
    (now : Instant) : s.update now reference change = s.update now reference change' := by
  cases hrow : s.rowByReference? reference with
  | none => rw [update_of_missing hrow, update_of_missing hrow]
  | some r =>
    have hmem : r ∈ s.rows := List.mem_of_find?_eq_some hrow
    have href : r.reference = reference := by simpa using List.find?_some hrow
    cases hv : r.visit with
    | error fault => rw [update_of_unreadable hrow hv, update_of_unreadable hrow hv]
    | ok v => simp only [update, hrow, hv, h r hmem href v hv]

/-! ### The same ending -/

/-- How a call ends that does what the other call `c'` does, and announces it by an event of the
kind `k`. The other call announces nothing. -/
inductive Service.EndsAs (svc : Service) (k : EventKind) (c c' : Call) (s : Store) : Prop where
  /-- Both fail alike, and nothing is announced. -/
  | failed (f : Failure) (hother : (svc.report c' s).result = .error f)
      (hquiet : (svc.report c' s).attempt = none)
      (hresult : (svc.report c s).result = .error f) (hattempt : (svc.report c s).attempt = none)
  /-- The other call answers with a visit. It is announced, if anything is, and is the answer unless
  the announcement is refused. -/
  | announced (w : Visit) (hother : (svc.report c' s).result = .ok (.visit w))
      (hquiet : (svc.report c' s).attempt = none)
      (hattempt : (svc.report c s).attempt =
        if svc.notifier.enabled then some ⟨svc.notifier.publication k w, c.verdict⟩ else none)
      (hresult : (svc.report c s).result =
        if svc.notifier.enabled ∧ c.verdict = .refused then
          .error (.notPublished k.type svc.notifier.topic)
        else .ok (.visit w))

namespace Service

variable {svc : Service} {c c' : Call} {s s' : Store} {k : EventKind}

theorem result_announce_eq {e : Effect} {v : Visit} (hresult : e.result = .ok (.visit v))
    (hevent : e.event = some (k, v)) (verdict : Verdict) :
    (svc.announce verdict e).result =
      if svc.notifier.enabled ∧ verdict = .refused then
        .error (.notPublished k.type svc.notifier.topic)
      else .ok (.visit v) := by
  unfold announce
  rw [hevent]
  cases hon : svc.notifier.enabled with
  | false => simpa using hresult
  | true => cases verdict <;> simp [hresult]

/-- Two calls that come to the same result, of which the first one is announced. -/
theorem endsAs_of_perform {x : Except Failure Visit}
    (h : svc.perform c.readings c.operation s = (.ok (.ofWrite (some k) x), s'))
    (h' : svc.perform c'.readings c'.operation s = (.ok (.ofWrite none x), s')) :
    svc.EndsAs k c c' s := by
  cases x with
  | error f =>
    exact .failed f (by rw [report_eq, h']; rfl) (by rw [report_eq, h']; rfl)
      (by rw [report_eq, h]; rfl) (by rw [report_eq, h]; rfl)
  | ok w =>
    refine .announced w (by rw [report_eq, h']; rfl) (by rw [report_eq, h']; rfl) ?_ ?_
    · rw [report_eq, h]
      exact attempt_announce _
    · rw [report_eq, h]
      exact result_announce_eq rfl rfl c.verdict

/-! ### The same store -/

variable {reference : String} {request : SlotChange}

/-- A change of slot of a booked visit that is not in the past comes to the same store and to the
same result as the update, and announces it. -/
theorem endsAs_of_booked (wf : s.WellFormed) (hc : c.operation = .change reference request)
    (hc' : c'.operation = .update reference request.toUpdate) (hreadings : c'.readings = c.readings)
    {r : Row} (hr : r ∈ s.rows) (href : r.reference = reference) {d : Details}
    (hd : r.columns = d.columns) (hbooked : d.status = .booked)
    (hcurrent : ¬ d.starts.toDateTime < svc.wallClock c.readings.now) :
    svc.next c s = svc.next c' s ∧ svc.EndsAs .changed c c' s := by
  have hsame : s.update c.readings.write reference
        (changeVisit (svc.wallClock c.readings.now) request) =
      s.update c'.readings.write reference
        (updateVisit (svc.wallClock c'.readings.now) request.toUpdate) := by
    rw [hreadings]
    refine Store.update_congr (fun r' hr' href' v hv => ?_) c.readings.write
    obtain rfl : r' = r := wf.eq_of_reference_eq hr' hr (href'.trans href.symm)
    obtain rfl : v.details = d := ((Row.visit_eq_ok_iff hd).1 hv).2.2.1
    exact changeVisit_eq_updateVisit request hbooked hcurrent
  have hop := revision?_of_change hc (svc.wallClock c.readings.now)
  have hop' := revision?_of_update hc' (svc.wallClock c'.readings.now)
  have hsupport : c'.operation.support = c.operation.support := by rw [hc, hc']; rfl
  rcases exists_firstObstacle_or_clear (supportObstacles s.catalog c.operation.support) with
    ⟨reason, hfirst⟩ | hclear
  · have hdeclines := declines_of_unknownSupport hop hfirst
    have hdeclines' := declines_of_unknownSupport hop' (hsupport ▸ hfirst)
    exact ⟨hdeclines.store.trans hdeclines'.store.symm,
      .failed _ hdeclines'.result hdeclines'.attempt hdeclines.result hdeclines.attempt⟩
  · have hkind : c.operation.eventKind? = some .changed := by rw [hc]; rfl
    have hkind' : c'.operation.eventKind? = none := by rw [hc']; rfl
    have hperform := perform_of_revision? hop hclear
    have hperform' := perform_of_revision? hop' (hsupport ▸ hclear)
    rw [hkind] at hperform
    rw [hkind', ← hsame] at hperform'
    exact ⟨by rw [next_eq, next_eq, hperform, hperform'], endsAs_of_perform hperform hperform'⟩

/-- A change of slot of any other visit fails. -/
theorem declines_of_not_open (wf : s.WellFormed) (hc : c.operation = .change reference request)
    {r : Row} (hr : r ∈ s.rows) (href : r.reference = reference) {d : Details}
    (hd : r.columns = d.columns)
    (hnot : d.status ≠ .booked ∨ d.starts.toDateTime < svc.wallClock c.readings.now) :
    (∃ reason, svc.Declines c s (.refused reason)) ∨
      ∃ fault, r.visit = .error fault ∧ svc.Declines c s (.store (.unreadableRow fault)) := by
  have hop := revision?_of_change hc (svc.wallClock c.readings.now)
  rcases exists_firstObstacle_or_clear (supportObstacles s.catalog c.operation.support) with
    ⟨reason, hfirst⟩ | hsupport
  · exact .inl ⟨reason, declines_of_unknownSupport hop hfirst⟩
  cases hv : r.visit with
  | error fault => exact .inr ⟨fault, rfl, declines_of_unreadable hop hsupport wf hr href hv⟩
  | ok v =>
    obtain ⟨-, hreference, rfl, -, -⟩ := (Row.visit_eq_ok_iff hd).1 hv
    have hdecides := decides_changeVisit (svc.wallClock c.readings.now) request v
    rcases exists_firstObstacle_or_clear (request.obstacles (svc.wallClock c.readings.now) v) with
      ⟨reason, hfirst⟩ | hclear
    · exact .inl ⟨reason, declines_of_obstacle hop hsupport wf ⟨r, hr, hv⟩
        (hreference.trans href) (hdecides.refused reason hfirst)⟩
    · simp only [SlotChange.obstacles, clear_cons_iff, not_not] at hclear
      exact (hnot.elim (absurd hclear.2.1) hclear.1).elim

end Service

/-! ### What stays -/

/-- What a change of slot leaves of a row. -/
structure Row.KeepsBooking (old new : Row) : Prop extends old.SameOrigin new where
  status : new.columns.status = old.columns.status
  prisoner : new.columns.prisoner = old.columns.prisoner
  prison : new.columns.prison = old.columns.prison
  room : new.columns.room = old.columns.room
  type : new.columns.type = old.columns.type
  /-- A contact may be replaced, but it is not taken away. -/
  contact : old.columns.contact.isSome → new.columns.contact.isSome

theorem Row.KeepsBooking.refl (r : Row) : r.KeepsBooking r :=
  ⟨.refl r, rfl, rfl, rfl, rfl, rfl, fun h => h⟩

theorem SlotChange.isSome_contact_applyTo (request : SlotChange) {d : Details}
    (h : d.contact.isSome) : (request.toUpdate.applyTo d).contact.isSome := by
  have hcontact : (request.toUpdate.applyTo d).contact = request.contact.or d.contact := by
    rw [UpdateRequest.applyTo_eq, SlotChange.toUpdate]
    cases request.contact <;> rfl
  rw [hcontact, Option.isSome_or, h, Bool.or_true]

/-- A change of slot names no status, and of the other names only the restriction. -/
theorem Row.keepsBooking_write (request : SlotChange) {r : Row} {d : Details}
    (hd : r.columns = d.columns) (now : Instant) :
    r.KeepsBooking (r.write (request.toUpdate.applyTo d).columns now) where
  toSameOrigin := r.sameOrigin_write _ now
  status := by rw [hd, UpdateRequest.applyTo_eq]; rfl
  prisoner := by rw [hd, UpdateRequest.applyTo_eq]; rfl
  prison := by rw [hd, UpdateRequest.applyTo_eq]; rfl
  room := by rw [hd, UpdateRequest.applyTo_eq]; rfl
  type := by rw [hd, UpdateRequest.applyTo_eq]; rfl
  contact := by
    simp only [hd, Row.write, Details.columns, Option.isSome_map]
    exact request.isSome_contact_applyTo

/-- What holds of each row that stays and of the one that is written holds of the rows in turn. -/
theorem Store.forall₂_writeRow {R : Row → Row → Prop} (hrefl : ∀ r, R r r) {s : Store} {id : Int}
    {columns : Columns} {now : Instant}
    (h : ∀ r ∈ s.rows, r.id = id → R r (r.write columns now)) :
    List.Forall₂ R s.rows (s.writeRow id columns now).rows := by
  rw [Store.writeRow, List.forall₂_map_right_iff, List.forall₂_same]
  intro r hr
  by_cases hid : r.id = id
  · rw [if_pos hid]
    exact h r hr hid
  · rw [if_neg hid]
    exact hrefl r

namespace Service

variable {svc : Service} {c c' : Call} {s : Store} {reference : String} {request : SlotChange}

theorem keepsBooking_of_change (wf : s.WellFormed) (hc : c.operation = .change reference request) :
    List.Forall₂ Row.KeepsBooking s.rows (svc.next c s).rows := by
  have hop := revision?_of_change hc (svc.wallClock c.readings.now)
  rcases declines_or_commits hop wf with
    ⟨f, hdeclines⟩ | ⟨r, hr, -, -, v, w, hv, hw, -, hcommits⟩
  · rw [hdeclines.store, List.forall₂_same]
    exact fun r _ => .refl r
  · obtain ⟨-, rfl⟩ := (decides_changeVisit _ request v).clear_of_eq_ok hw
    have hnext : svc.next c s = s.writeRow r.id (request.toUpdate.applyTo v.details).columns
        c.readings.write := congrArg Prod.snd (perform_of_commits wf hcommits)
    rw [hnext]
    refine Store.forall₂_writeRow Row.KeepsBooking.refl fun old hold hid => ?_
    obtain rfl : old = r := wf.eq_of_id_eq hold hr hid
    exact Row.keepsBooking_write request (wf.visit_columns hr hv) c.readings.write

/-! ### The headline -/

/-- **A change of slot is an update that is announced.** In every store that can be reached, for
every reference and every change of slot, with whatever the clock shows and the transport answers:

* if the visit is booked and not in the past, the change of slot leaves the store that the update
  leaves, and ends as the update does, apart from one announcement and its refusal;
* if the visit is not booked or is in the past, the change of slot breaks a rule, or the row of the
  visit cannot be read and that is the failure; if there is no visit, this is the failure, or the
  support that is asked for is unknown. Nothing is left behind then;
* no row loses its identity, its reference, its creation, its status, its prisoner, its prison, its
  room, its type or its contact. -/
theorem slotChange_of_reachable (svc : Service) {s : Store} (hs : s.Reachable) (reference : String)
    (request : SlotChange) (readings : Readings) (verdict : Verdict) :
    let change : Call := ⟨readings, verdict, .change reference request⟩
    let update : Call := ⟨readings, verdict, .update reference request.toUpdate⟩
    let now := svc.wallClock readings.now
    (∀ r ∈ s.rows, r.reference = reference → ∀ d : Details, r.columns = d.columns →
      (d.status = .booked → ¬ d.starts.toDateTime < now →
        svc.next change s = svc.next update s ∧ svc.EndsAs .changed change update s) ∧
      (d.status ≠ .booked ∨ d.starts.toDateTime < now →
        (∃ reason, svc.Declines change s (.refused reason)) ∨
          ∃ fault, r.visit = .error fault ∧
            svc.Declines change s (.store (.unreadableRow fault)))) ∧
    ((∀ r ∈ s.rows, r.reference ≠ reference) → svc.Declines change s (.notFound reference) ∨
      ∃ reason, svc.Declines change s (.refused reason)) ∧
    List.Forall₂ Row.KeepsBooking s.rows (svc.next change s).rows := by
  intro change update now
  have wf : s.WellFormed := hs.wellFormed
  refine ⟨fun r hr href d hd => ⟨fun hbooked hcurrent => ?_, fun hnot => ?_⟩, fun hnone => ?_, ?_⟩
  · exact endsAs_of_booked wf rfl rfl rfl hr href hd hbooked hcurrent
  · exact declines_of_not_open wf rfl hr href hd hnot
  · have hop : change.operation.revision? (svc.wallClock change.readings.now) =
        some (reference, changeVisit now request) := rfl
    rcases exists_firstObstacle_or_clear (supportObstacles s.catalog change.operation.support) with
      ⟨reason, hfirst⟩ | hsupport
    · exact .inr ⟨reason, declines_of_unknownSupport hop hfirst⟩
    · exact .inl (declines_of_missing hop hsupport hnone)
  · exact keepsBooking_of_change wf rfl

/-- A booked visit gets another end, and the announcement is refused. -/
theorem slotChange_of_reachable_refused :
    let svc : Service := { (default : Service) with notifier.enabled := true }
    let ends : LocalTime := ⟨⟨⟨1970, 1, 2, by decide⟩, default⟩, by decide⟩
    let later : LocalTime := ⟨⟨⟨1970, 1, 3, by decide⟩, default⟩, by decide⟩
    let create : CreateRequest := { (default : CreateRequest) with ends, status := .booked }
    let s := svc.after [⟨default, .refused, .create create⟩] .empty
    let reference := svc.codec.encode 1
    let request : SlotChange := ⟨none, none, some later, none, none, none⟩
    let change : Call := ⟨default, .refused, .change reference request⟩
    let update : Call := ⟨default, .refused, .update reference request.toUpdate⟩
    s.Reachable ∧ svc.next change s = svc.next update s ∧ svc.EndsAs .changed change update s ∧
      (svc.report update s).result.isOk ∧ (svc.report change s).result =
        .error (.notPublished EventKind.changed.type svc.notifier.topic) := by
  intro svc ends later create s reference request change update
  have hs : s.Reachable := .call .empty svc ⟨default, .refused, .create create⟩
  have hrow : ∃ r ∈ s.rows, r.reference = reference ∧ r.columns = create.details.columns := by
    decide +kernel
  obtain ⟨r, hr, href, hd⟩ := hrow
  have hcurrent : ¬ create.details.starts.toDateTime < svc.wallClock change.readings.now := by
    decide +kernel
  obtain ⟨hstore, hends⟩ := ((slotChange_of_reachable svc hs reference request change.readings
    change.verdict).1 r hr href create.details hd).1 rfl hcurrent
  exact ⟨hs, hstore, hends, by decide +kernel, by decide +kernel⟩

/-- A visit is cancelled by a write in the year 10000. A change of its slot breaks a rule, but that
is not the failure. -/
theorem slotChange_of_cancelled_in_year_10000 :
    let svc : Service := default
    let ends : LocalTime := ⟨⟨⟨1970, 1, 2, by decide⟩, default⟩, by decide⟩
    let write : Instant := ⟨⟨⟨10000, 1, 1, by decide⟩, default⟩, by decide⟩
    let create : CreateRequest := { (default : CreateRequest) with ends }
    let reference := svc.codec.encode 1
    let cancel : Call := ⟨⟨default, write⟩, .refused, .cancel reference (some ⟨.notRecorded, none⟩)⟩
    let s := svc.after [⟨default, .refused, .create create⟩, cancel] .empty
    let change : Call := ⟨default, .refused, .change reference ⟨none, none, none, none, none, none⟩⟩
    (∃ r ∈ s.rows, r.reference = reference ∧
        r.columns.status = Enumeration.name VisitStatus.cancelled) ∧
      (svc.report change s).result = .error (.store (.unreadableRow .unreadableTime)) := by
  decide +kernel

end Service

end VisitBooking
