import VisitBooking.Proofs.Service.Step

/-!
# The life of a stored visit

Calls come one after the other, with any requests and any readings of the clock. A visit that has
been stored moves forward only: a reserved visit may be booked, and a visit that is reserved or
booked may be cancelled, by a cancellation and by nothing else. A cancelled visit is written no
more, and a visit of the past is not written by a call whose clock shows that it is past.

How a visit got its first status does not matter, nor whether its beginning was in the past when it
was put in or was moved there.

## Main definitions

* `Call`, `Service.report`, `Service.next`, `Service.after`: calls, what they report, and the store
  after them.
* `VisitStatus.Moves`: the moves of a status.
* `Details.NotesFollow`: how notes grow.

## Main results

* `Service.keyed_after`: every store that calls lead to is well-formed.
* `Service.holds_after`: what no revision breaks holds of a visit for good.
* `Service.lifecycle_of_run`: the headline.
-/

namespace VisitBooking

open Calendar Reference

/-- An operation, with what comes from outside during it. -/
structure Call where
  readings : Readings
  verdict : Verdict
  operation : Operation

namespace Service

/-- The store after a call. -/
def next (svc : Service) (c : Call) (s : Store) : Store :=
  (svc.run c.readings c.verdict c.operation s).2

/-- The report of a call. -/
def report (svc : Service) (c : Call) (s : Store) : Report :=
  (svc.run c.readings c.verdict c.operation s).1

/-- The store after calls one after the other. -/
def after (svc : Service) (calls : List Call) (s : Store) : Store :=
  calls.foldl (fun s c => svc.next c s) s

variable {svc : Service} {s : Store}

theorem report_eq (svc : Service) (c : Call) (s : Store) :
    svc.report c s =
      svc.conclude c.verdict c.operation (svc.perform c.readings c.operation s).1 := rfl

theorem step_next (svc : Service) (wf : s.WellFormed) (c : Call) :
    svc.Step c.readings c.operation s (svc.perform c.readings c.operation s).1 (svc.next c s) :=
  svc.step_of_perform wf c.readings c.operation

theorem keyed_next (hs : s.Keyed svc.codec) (c : Call) : (svc.next c s).Keyed svc.codec :=
  (svc.step_next hs.toWellFormed c).keyed hs

/-! ### Runs -/

theorem keyed_after (hs : s.Keyed svc.codec) (calls : List Call) :
    (svc.after calls s).Keyed svc.codec := by
  induction calls generalizing s with
  | nil => exact hs
  | cons c calls ih => exact ih (keyed_next hs c)

theorem lastId_le_after (hs : s.Keyed svc.codec) (calls : List Call) :
    s.lastId ≤ (svc.after calls s).lastId := by
  induction calls generalizing s with
  | nil => exact Nat.le_refl s.lastId
  | cons c calls ih =>
    have hstep := svc.step_next hs.toWellFormed c
    exact Nat.le_trans hstep.lastId_le (ih (hstep.keyed hs))

/-- What holds of the visit with a reference, and what no revision breaks, holds for good: once a
reference is given out, no other visit gets it. -/
theorem holds_after {P : Row → Prop}
    (hP : ∀ readings op r r', P r → svc.RevisesRow readings op r r' → P r')
    (hs : s.Keyed svc.codec) {n : Nat} (hn : n ≤ s.lastId)
    (h : ∀ r ∈ s.rows, r.reference = svc.codec.encode n → P r) (calls : List Call) :
    ∀ r ∈ (svc.after calls s).rows, r.reference = svc.codec.encode n → P r := by
  induction calls generalizing s with
  | nil => exact h
  | cons c calls ih =>
    have hstep := svc.step_next hs.toWellFormed c
    refine ih (hstep.keyed hs) (Nat.le_trans hn hstep.lastId_le) fun r' hr' href => ?_
    obtain ⟨r, hr, hr_ref, rfl | hrev⟩ :=
      hstep.eq_or_revises_of_reference hs.toWellFormed hn hr' href
    · exact h _ hr hr_ref
    · exact hP _ _ r r' (h r hr hr_ref) hrev

/-- A visit that is cancelled, or in the past whenever a call looks at the clock, stays as it is
until it is deleted. -/
theorem mem_after (hs : s.Keyed svc.codec) {r : Row} (hr : r ∈ s.rows) {d : Details}
    (hd : r.columns = d.columns) {calls : List Call}
    (hfinal : ∀ c ∈ calls,
      d.status = .cancelled ∨ d.starts.toDateTime < svc.wallClock c.readings.now)
    (hdel : ∀ c ∈ calls, r.reference ∉ c.operation.deletes) : r ∈ (svc.after calls s).rows := by
  induction calls generalizing s with
  | nil => exact hr
  | cons c calls ih =>
    have hstep := svc.step_next hs.toWellFormed c
    have hmem : r ∈ (svc.next c s).rows := by
      rcases hstep.survives hs.toWellFormed hr (hdel c (List.mem_cons_self ..)) with
        hmem | ⟨_, -, hrev⟩
      · exact hmem
      · exact absurd hrev (not_revisesRow hd (hfinal c (List.mem_cons_self ..)))
    exact ih (hstep.keyed hs) hmem (fun c' hc' => hfinal c' (List.mem_cons_of_mem c hc'))
      fun c' hc' => hdel c' (List.mem_cons_of_mem c hc')

end Service

/-! ### Status -/

/-- The moves of a status in one step; `cancels` tells whether the step is a cancellation. -/
inductive VisitStatus.Moves (cancels : Prop) : VisitStatus → VisitStatus → Prop where
  | stay (st : VisitStatus) : Moves cancels st st
  | book : Moves cancels .reserved .booked
  | cancelReserved (h : cancels) : Moves cancels .reserved .cancelled
  | cancelBooked (h : cancels) : Moves cancels .booked .cancelled

theorem VisitStatus.moves_cancelled {cancels : Prop} (h : cancels) :
    (st : VisitStatus) → st.Moves cancels .cancelled
  | .reserved => .cancelReserved h
  | .booked => .cancelBooked h
  | .cancelled => .stay .cancelled

theorem Details.Revised.moves {op : Operation} {reference : String} {now : DateTime}
    {d d' : Details} (h : d.Revised op reference now d') :
    d.status.Moves (∃ reason, op = .cancel reference reason) d'.status := by
  rcases h.edit with ⟨-, hstay | ⟨hreserved, hbooked⟩⟩ | ⟨reason, hop, hcancelled, -⟩
  · exact hstay ▸ .stay d'.status
  · exact hreserved ▸ hbooked ▸ .book
  · exact hcancelled ▸ VisitStatus.moves_cancelled ⟨some reason, hop⟩ d.status

/-! ### Notes -/

/-- How the notes of a visit have grown between two times: not at all, or by those of the one
cancellation of the visit. -/
def Details.NotesFollow (d d' : Details) : Prop :=
  (d'.notes = d.notes ∧ (d.status = .cancelled → d'.status = .cancelled)) ∨
    (d.status ≠ .cancelled ∧ d'.status = .cancelled ∧
      ∃ reason : CancelReason, d'.notes = d.notes ++ reason.notes)

theorem Details.NotesFollow.refl (d : Details) : d.NotesFollow d := .inl ⟨rfl, id⟩

theorem Details.NotesFollow.trans {a b c : Details} (hab : a.NotesFollow b)
    (hbc : b.NotesFollow c) : a.NotesFollow c := by
  rcases hab with ⟨hab, hkeep⟩ | ⟨hlive, hb, reason, hab⟩
  · rcases hbc with ⟨hbc, hkeep'⟩ | ⟨hlive, hc, reason, hbc⟩
    · exact .inl ⟨hbc.trans hab, fun h => hkeep' (hkeep h)⟩
    · exact .inr ⟨fun h => hlive (hkeep h), hc, reason, hab ▸ hbc⟩
  · rcases hbc with ⟨hbc, hkeep⟩ | ⟨hlive', -⟩
    · exact .inr ⟨hlive, hkeep hb, reason, hbc.trans hab⟩
    · exact absurd hb hlive'

/-- At most one note is new, one on the outcome. -/
theorem Details.NotesFollow.notes_eq {d d' : Details} (h : d.NotesFollow d') :
    d'.notes = d.notes ∨ ∃ text, d'.notes = d.notes ++ [⟨.visitOutcomes, text⟩] := by
  rcases h with ⟨hnotes, -⟩ | ⟨-, -, reason, hnotes⟩
  · exact .inl hnotes
  · rw [hnotes, CancelReason.notes]
    cases reason.text with
    | none => exact .inl (List.append_nil d.notes)
    | some text => exact .inr ⟨text, rfl⟩

theorem Details.Revised.notesFollow {op : Operation} {reference : String} {now : DateTime}
    {d d' : Details} (h : d.Revised op reference now d') : d.NotesFollow d' := by
  rcases h.edit with ⟨hnotes, -⟩ | ⟨reason, -, hcancelled, hnotes⟩
  · exact .inl ⟨hnotes, fun hc => absurd hc h.live⟩
  · exact .inr ⟨h.live, hcancelled, reason, hnotes⟩

namespace Service

variable {svc : Service} {s : Store}

theorem notesFollow_after (hs : s.Keyed svc.codec) {r : Row} (hr : r ∈ s.rows) {d : Details}
    (hd : r.columns = d.columns) (calls : List Call) :
    ∀ r' ∈ (svc.after calls s).rows, r'.reference = r.reference →
      ∃ d' : Details, r'.columns = d'.columns ∧ d.NotesFollow d' := by
  obtain ⟨n, hn, -, href⟩ := hs.reference_eq r hr
  rw [href]
  refine holds_after ?_ hs hn ?_ calls
  · rintro readings op r₁ r₂ ⟨d₁, hd₁, hfollow⟩ ⟨d₁', d₂, hd₁', hrevised, rfl⟩
    obtain rfl : d₁ = d₁' := Details.columns_injective (hd₁.symm.trans hd₁')
    exact ⟨d₂, rfl, hfollow.trans hrevised.notesFollow⟩
  · intro r' hr' href'
    obtain rfl : r' = r := hs.eq_of_reference_eq hr' hr (href'.trans href.symm)
    exact ⟨d, hd, .refl d⟩

end Service

/-! ### The headline -/

/-- Whatever calls come: each stored visit has a status; a call moves the status of a visit forward
or not at all, and to being cancelled only if it is a cancellation of that visit; and a call that
does not delete a visit leaves it as it is stored, down to the instant of the last write, if it is
cancelled or begins before the clock reading of the call. The last part says the same of many calls.
-/
theorem Service.lifecycle_of_run (svc : Service) (calls : List Call) :
    let s := svc.after calls .empty
    (∀ r ∈ s.rows, ∃ d : Details, r.columns = d.columns) ∧
    (∀ (c : Call), ∀ r ∈ s.rows, ∀ r' ∈ (svc.next c s).rows, r'.id = r.id →
      ∀ d d' : Details, r.columns = d.columns → r'.columns = d'.columns →
        d.status.Moves (∃ reason, c.operation = .cancel r.reference reason) d'.status) ∧
    (∀ (c : Call), ∀ r ∈ s.rows, ∀ d : Details, r.columns = d.columns →
      d.status = .cancelled ∨ d.starts.toDateTime < svc.wallClock c.readings.now →
      r.reference ∉ c.operation.deletes → r ∈ (svc.next c s).rows) ∧
    ∀ (later : List Call), ∀ r ∈ s.rows, ∀ d : Details, r.columns = d.columns →
      (∀ c ∈ later, (d.status = .cancelled ∨ d.starts.toDateTime < svc.wallClock c.readings.now) ∧
        r.reference ∉ c.operation.deletes) →
      r ∈ (svc.after later s).rows := by
  intro s
  have hs : s.Keyed svc.codec := keyed_after (Store.keyed_empty svc.codec) calls
  have hmem : ∀ (later : List Call), ∀ r ∈ s.rows, ∀ d : Details, r.columns = d.columns →
      (∀ c ∈ later, (d.status = .cancelled ∨ d.starts.toDateTime < svc.wallClock c.readings.now) ∧
        r.reference ∉ c.operation.deletes) → r ∈ (svc.after later s).rows :=
    fun later r hr d hd h => mem_after hs hr hd (fun c hc => (h c hc).1) fun c hc => (h c hc).2
  refine ⟨hs.holds_details, ?_, ?_, hmem⟩
  · intro c r hr r' hr' hid d d' hd hd'
    have hstep := svc.step_next hs.toWellFormed c
    rcases hstep.eq_or_revises_of_id_eq hs.toWellFormed hr hr' hid with rfl | hrev
    · obtain rfl : d = d' := Details.columns_injective (hd.symm.trans hd')
      exact .stay d.status
    · obtain ⟨d₀, d₁, hd₀, hrevised, rfl⟩ := hrev
      obtain rfl : d = d₀ := Details.columns_injective (hd.symm.trans hd₀)
      obtain rfl : d' = d₁ := Details.columns_injective hd'.symm
      exact hrevised.moves
  · intro c r hr d hd hfinal hdel
    refine hmem [c] r hr d hd fun c' hc' => ?_
    rw [List.mem_singleton.1 hc']
    exact ⟨hfinal, hdel⟩

/-- A visit that was imported as reserved and has begun before the clock reading of a cancellation
stays as it was imported. -/
theorem Service.lifecycle_of_run_cancel_of_past :
    let svc : Service := default
    let starts : LocalTime := ⟨⟨⟨1970, 1, 2, by decide⟩, default⟩, by decide⟩
    let ends : LocalTime := ⟨⟨⟨1970, 1, 3, by decide⟩, default⟩, by decide⟩
    let past : MigrateRequest := { (default : MigrateRequest) with starts, ends }
    let s := svc.after [⟨default, .refused, .migrate past⟩] .empty
    let c : Call := ⟨⟨⟨ends⟩, ⟨ends⟩⟩, .refused,
      .cancel (Codec.standard.encode 1) (some ⟨.notRecorded, none⟩)⟩
    past.details.status = .reserved ∧ s.rows.map Row.columns = [past.details.columns] ∧
      ∀ r ∈ s.rows, r ∈ (svc.next c s).rows := by
  intro svc starts ends past s c
  have hrows : s.rows.map Row.columns = [past.details.columns] := by decide +kernel
  refine ⟨rfl, hrows, fun r hr => ?_⟩
  have hd : r.columns = past.details.columns :=
    List.mem_singleton.1 (hrows ▸ List.mem_map_of_mem hr)
  exact (lifecycle_of_run svc [⟨default, .refused, .migrate past⟩]).2.2.1 c r hr past.details hd
    (.inr (by decide +kernel)) List.not_mem_nil

end VisitBooking
