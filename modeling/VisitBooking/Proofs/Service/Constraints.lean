import VisitBooking.Proofs.Calendar.Order
import VisitBooking.Proofs.Service.Contents
import VisitBooking.Proofs.Service.Failures

/-!
# The store takes whatever the service lets through

The store has constraints of its own: references are unique, a visit has one entry for a person and
one for a type of support, and the text of the beginning comes before that of the end. Each of them
is met by something else. References differ because identities do. A visit that passes the checks is
sound, so it has no duplicates and its slot is in order, and the texts of its times order as the
times do if the years are written with four digits.

What is stored is read back for the same reason: the times of visits in every year, and the instants
of the store's own clock in the years 0 to 9999. So a fault of the store is never the answer while
the times in requests and the readings of that clock stay in these years.

## Main definitions

* `Operation.times`, `Call.Plain`: the times that an operation gives a visit, and years of four
  digits.
* `Row.Plain`: a row is read as a visit whose times are in these years.

## Main results

* `Details.Sound.valid`: a sound visit meets the constraints on its columns.
* `Service.plain_after`: what is stored is read back.
* `Service.constraints_of_run`: the headline.
* `Service.fault_in_year_10000`: why the clock of the store matters.
-/

namespace VisitBooking

open Calendar Reference

/-! ### Years of four digits -/

/-- The times that an operation gives a visit. -/
def Operation.times : Operation → List LocalTime
  | .create r => [r.starts, r.ends]
  | .migrate r => [r.starts, r.ends]
  | .update _ r => r.starts.toList ++ r.ends.toList
  | .change _ c => c.starts.toList ++ c.ends.toList
  | _ => []

/-- A call gives visits times in the years 0 to 9999, and writes in one of these years. -/
structure Call.Plain (c : Call) : Prop where
  times : ∀ t ∈ c.operation.times, t.HasPlainYear
  write : c.readings.write.HasPlainYear

instance (c : Call) : Decidable c.Plain :=
  decidable_of_iff ((∀ t ∈ c.operation.times, t.HasPlainYear) ∧ c.readings.write.HasPlainYear)
    ⟨fun h => ⟨h.1, h.2⟩, fun h => ⟨h.times, h.write⟩⟩

/-- Beginning and end are in the years 0 to 9999. -/
structure Details.Plain (d : Details) : Prop where
  starts : d.starts.HasPlainYear
  ends : d.ends.HasPlainYear

/-- A row is read as a visit with such times. -/
def Row.Plain (r : Row) : Prop := ∃ v, r.visit = .ok v ∧ v.details.Plain

theorem Operation.plain_insertion {op : Operation} {d : Details} (hop : op.insertion? = some d)
    (htimes : ∀ t ∈ op.times, t.HasPlainYear) : d.Plain := by
  cases op with
  | create r =>
    cases hop
    exact ⟨htimes r.starts (by simp [times]), htimes r.ends (by simp [times])⟩
  | migrate r =>
    cases hop
    exact ⟨htimes r.starts (by simp [times]), htimes r.ends (by simp [times])⟩
  | _ => cases hop

theorem Operation.times_of_edit? {op : Operation} {r : UpdateRequest} (hop : op.edit? = some r) :
    op.times = r.starts.toList ++ r.ends.toList := by
  cases op <;> cases hop <;> rfl

/-- A time that is replaced by one of those that an update gives, or not at all, keeps a property
that these have. -/
theorem getD_of_forall_mem_toList {α : Type} {p : α → Prop} {o : Option α} {a : α}
    (ho : ∀ x ∈ o.toList, p x) (ha : p a) : p (o.getD a) := by
  cases o with
  | none => exact ha
  | some x => exact ho x (List.mem_singleton_self x)

theorem Visit.Revision.plain {op : Operation} {reference : String} {now : DateTime} {v w : Visit}
    (h : v.Revision op reference now w) (htimes : ∀ t ∈ op.times, t.HasPlainYear)
    (hv : v.details.Plain) : w.details.Plain := by
  cases h with
  | edit r hop =>
    rw [Operation.times_of_edit? hop, List.forall_mem_append] at htimes
    rw [r.applyTo_eq]
    exact ⟨getD_of_forall_mem_toList htimes.1 hv.starts, getD_of_forall_mem_toList htimes.2 hv.ends⟩
  | cancellation =>
    rw [v.cancelFor_eq]
    exact ⟨hv.starts, hv.ends⟩

/-! ### Constraints on columns -/

/-- A sound visit meets the constraints on its columns, if its times are in the years 0 to 9999. -/
theorem Details.Sound.valid {catalog : List SupportType} {d : Details} (h : d.Sound catalog)
    (hplain : d.Plain) : d.columns.Valid :=
  Details.valid_columns_iff.2
    ⟨(LocalTime.column_lt_column_iff hplain.starts hplain.ends).2 h.slot, h.persons_nodup,
      h.support_nodup⟩

namespace Service

variable {svc : Service} {calls : List Call} {c : Call}

/-! ### What is stored is read back -/

theorem plain_of_commits {s s' : Store} (hc : c.Plain) (hrows : ∀ r ∈ s.rows, r.Plain) {r : Row}
    (wf : s.WellFormed) (h : svc.Commits c.readings c.operation s r s') : r.Plain := by
  cases h with
  | insertion d hop =>
    exact ⟨_, Store.visit_newRow hc.write d, Operation.plain_insertion hop hc.times⟩
  | revision r₀ hr₀ change hop hready v w hv hw =>
    obtain ⟨d, hd⟩ := wf.holds_details r₀ hr₀
    obtain ⟨v', hv', hplain⟩ := hrows r₀ hr₀
    obtain rfl : v = v' := Except.ok.inj (hv.symm.trans hv')
    have hrevision := c.operation.revision_of_eq_ok hop hw
    exact ⟨_, Row.visit_write hv hd w.details hc.write, hrevision.plain hc.times hplain⟩

theorem plain_after (svc : Service) (hcalls : ∀ c ∈ calls, c.Plain) :
    ∀ r ∈ (svc.after calls .empty).rows, r.Plain := by
  have hrows := svc.forall_row_after (P := fun calls r => (∀ c ∈ calls, c.Plain) → r.Plain) ?_ ?_
    calls
  · exact fun r hr => hrows r hr hcalls
  · intro calls c r hr hcalls
    exact hr fun c' hc' => hcalls c' (List.mem_append_left _ hc')
  · intro calls c r hs hrows hcommits hcalls
    rw [List.forall_mem_append] at hcalls
    exact plain_of_commits (hcalls.2 c (List.mem_singleton_self c))
      (fun old hold => hrows old hold hcalls.1) hs.toWellFormed hcommits

/-! ### No fault of the store -/

variable {s : Store}

/-- A visit to be put in that passes the checks is taken. -/
theorem admits_of_ready (hs : s.Keyed svc.codec) {op : Operation} {d : Details}
    (hop : op.insertion? = some d) (hready : op.Ready s.catalog)
    (htimes : ∀ t ∈ op.times, t.HasPlainYear) (write : Instant) :
    s.Admits (s.newRow svc.codec write d) :=
  (hs.admits_iff write d).2
    ((hready.sound_insertion hop).valid (Operation.plain_insertion hop htimes))

/-- A stored visit that is sound is taken again after a revision that passes the checks. -/
theorem valid_of_revision {op : Operation} {reference : String} {now : DateTime}
    {change : Visit → Except Refusal Visit} (hop : op.revision? now = some (reference, change))
    (hready : op.Ready s.catalog) (htimes : ∀ t ∈ op.times, t.HasPlainYear) {v w : Visit}
    (hsound : v.details.Sound s.catalog) (hplain : v.details.Plain) (hw : change v = .ok w) :
    w.details.columns.Valid := by
  have hrevision := op.revision_of_eq_ok hop hw
  exact (hrevision.sound hready hsound).valid (hrevision.plain htimes hplain)

/-- What is found in a row of a store is sound and in the years 0 to 9999, if its rows are. -/
theorem sound_and_plain_of_visit {r : Row} (hsound : ∃ d : Details, r.columns = d.columns ∧
    d.Sound s.catalog) (hplain : r.Plain) {v : Visit} (hv : r.visit = .ok v) :
    v.details.Sound s.catalog ∧ v.details.Plain := by
  obtain ⟨d, hd, hsound⟩ := hsound
  obtain ⟨v', hv', hplain⟩ := hplain
  obtain rfl : v = v' := Except.ok.inj (hv.symm.trans hv')
  obtain rfl : v.details = d := ((Row.visit_eq_ok_iff hd).1 hv).2.2.1
  exact ⟨hsound, hplain⟩

/-- The store takes what an operation puts in or writes again, so it reports no fault. -/
theorem Performed.no_fault {readings : Readings} {op : Operation} {outcome : Except Refusal Effect}
    {s' : Store} (h : svc.Performed readings op s outcome s')
    (hreadable : ∀ r ∈ s.rows, ∃ v, r.visit = .ok v)
    (hadmits : ∀ d, op.insertion? = some d → op.Ready s.catalog →
      s.Admits (s.newRow svc.codec readings.write d))
    (hvalid : ∀ r ∈ s.rows, ∀ change v w,
      op.revision? (svc.wallClock readings.now) = some (r.reference, change) →
      op.Ready s.catalog → r.visit = .ok v → change v = .ok w → w.details.columns.Valid)
    (hwritten : ∀ r, svc.Commits readings op s r s' → ∃ v, r.visit = .ok v)
    (verdict : Verdict) (fault : StoreFault) :
    (svc.conclude verdict op outcome).result ≠ .error (.store fault) := by
  cases h with
  | refused => exact nofun
  | missing => exact nofun
  | unreadable r hr fault' told hv =>
    obtain ⟨v, hv'⟩ := hreadable r hr
    cases hv.symm.trans hv'
  | declined => exact nofun
  | notAdmitted d hop hready h => exact absurd (hadmits d hop hready) h
  | notValid r hr change hop hready v w hv hw h =>
    exact absurd (hvalid r hr change v w hop hready hv hw) h
  | committed r _ hcommits =>
    obtain ⟨v, hv⟩ := hwritten r hcommits
    intro hfault
    rw [hv] at hfault
    obtain ⟨k, -, hnot, -⟩ := conclude_written_eq_error hfault
    cases hnot
  | answered => exact nofun

/-! ### The headline -/

/-- Whatever calls come, if they give visits times in the years 0 to 9999 and the clock shows such
a year whenever the store writes: what is stored is read back, and for any further call of this kind
the store takes each visit that it puts in and each visit that it revises, once it passes the checks
of the service; a fault of the store is never the answer. -/
theorem constraints_of_run (svc : Service) (calls : List Call) (c : Call)
    (hcalls : ∀ c' ∈ calls, c'.Plain) (hc : c.Plain) :
    let s := svc.after calls .empty
    (∀ r ∈ s.rows, ∃ v, r.visit = .ok v) ∧
    (∀ d, c.operation.insertion? = some d → c.operation.Ready s.catalog →
      s.Admits (s.newRow svc.codec c.readings.write d) ∧
        svc.next c s = s.add (s.newRow svc.codec c.readings.write d)) ∧
    (∀ r ∈ s.rows, ∀ change v w,
      c.operation.revision? (svc.wallClock c.readings.now) = some (r.reference, change) →
      c.operation.Ready s.catalog → r.visit = .ok v → change v = .ok w →
      w.details.columns.Valid ∧
        svc.next c s = s.writeRow r.id w.details.columns c.readings.write) ∧
    ∀ fault, (svc.report c s).result ≠ .error (.store fault) := by
  intro s
  have hs : s.Keyed svc.codec := keyed_after (Store.keyed_empty svc.codec) calls
  have hplain : ∀ r ∈ s.rows, r.Plain := svc.plain_after hcalls
  have hreadable : ∀ r ∈ s.rows, ∃ v, r.visit = .ok v := fun r hr =>
    (hplain r hr).imp fun _ h => h.1
  have hsound : ∀ r ∈ s.rows, ∃ d : Details, r.columns = d.columns ∧ d.Sound s.catalog := by
    intro r hr
    obtain ⟨_, _, d, _, hd, hsound, _⟩ := svc.accounted_after calls r hr
    exact ⟨d, hd, svc.catalog_after calls ▸ hsound⟩
  have hadmits : ∀ d, c.operation.insertion? = some d → c.operation.Ready s.catalog →
      s.Admits (s.newRow svc.codec c.readings.write d) :=
    fun d hop hready => admits_of_ready hs hop hready hc.times c.readings.write
  have hvalid : ∀ r ∈ s.rows, ∀ change v w,
      c.operation.revision? (svc.wallClock c.readings.now) = some (r.reference, change) →
      c.operation.Ready s.catalog → r.visit = .ok v → change v = .ok w →
      w.details.columns.Valid := by
    intro r hr change v w hop hready hv hw
    obtain ⟨hv_sound, hv_plain⟩ := sound_and_plain_of_visit (hsound r hr) (hplain r hr) hv
    exact valid_of_revision hop hready hc.times hv_sound hv_plain hw
  refine ⟨hreadable, fun d hop hready => ⟨hadmits d hop hready, ?_⟩, ?_, ?_⟩
  · have hcommits := Commits.insertion d hop hready (hadmits d hop hready)
    exact congrArg Prod.snd (perform_of_commits hs.toWellFormed hcommits)
  · intro r hr change v w hop hready hv hw
    have hcolumns := hvalid r hr change v w hop hready hv hw
    have hcommits := Commits.revision r hr change hop hready v w hv hw hcolumns
    exact ⟨hcolumns, congrArg Prod.snd (perform_of_commits hs.toWellFormed hcommits)⟩
  · have hperformed := svc.performed hs.toWellFormed c.readings c.operation
    exact hperformed.no_fault hreadable hadmits hvalid
      (fun r hcommits => hcommits.visit_eq_ok hs.toWellFormed hc.write) c.verdict

/-- An update that moves only the end of a booked visit. -/
theorem constraints_of_run_update_of_end :
    let svc : Service := default
    let ends : LocalTime := ⟨⟨⟨1970, 1, 2, by decide⟩, default⟩, by decide⟩
    let later : LocalTime := ⟨⟨⟨9999, 12, 31, by decide⟩, default⟩, by decide⟩
    let calls : List Call :=
      [⟨default, .refused, .create { (default : CreateRequest) with ends }⟩]
    let c : Call := ⟨default, .refused, .update (svc.codec.encode 1) { ends := some later }⟩
    (∀ c' ∈ calls, c'.Plain) ∧ c.Plain ∧
      (svc.report c (svc.after calls .empty)).result.isOk ∧
      (∀ r ∈ (svc.after calls .empty).rows, ∃ v, r.visit = .ok v) ∧
      ∀ fault, (svc.report c (svc.after calls .empty)).result ≠ .error (.store fault) := by
  intro svc ends later calls c
  have hcalls : ∀ c' ∈ calls, c'.Plain := by decide +kernel
  have hc : c.Plain := by decide +kernel
  have hok : (svc.report c (svc.after calls .empty)).result.isOk := by decide +kernel
  obtain ⟨hreadable, -, -, hfault⟩ := constraints_of_run svc calls c hcalls hc
  exact ⟨hcalls, hc, hok, hreadable, hfault⟩

/-- A booking in the years 0 to 9999 that the store writes in the year 10000 ends in a fault. -/
theorem fault_in_year_10000 :
    let svc : Service := default
    let ends : LocalTime := ⟨⟨⟨1970, 1, 2, by decide⟩, default⟩, by decide⟩
    let write : Instant := ⟨⟨⟨10000, 1, 1, by decide⟩, default⟩, by decide⟩
    let c : Call := ⟨⟨default, write⟩, .refused,
      .create { (default : CreateRequest) with ends }⟩
    (∀ t ∈ c.operation.times, t.HasPlainYear) ∧
      (svc.report c (svc.after [] .empty)).result = .error (.store .unreadableTime) ∧
      ∃ r ∈ (svc.after [c] .empty).rows, r.visit = .error .unreadableTime := by
  decide +kernel

end Service

end VisitBooking
