import VisitBooking.Proofs.Service.Revision

/-!
# Writes that are committed, and everything else that may come of an operation

An operation that writes a visit *commits* a row: it puts in a new one, or writes one again. What
can keep it from that is told apart here case by case, so that a statement about failures, about
events or about faults of the store looks at these cases and never at the ten operations.

A committed row is the row that the store has from then on. What the operation answers, and what is
announced of it, is the visit that is read back from that row. This is the one place where reading a
column matters to a write: a row whose instant cannot be read back is in the store, and the
operation reports a fault nevertheless. Instants of the years 0 to 9999 are read back.

## Main definitions

* `Operation.Ready`: an operation passes the checks before its transaction.
* `Service.Commits`: an operation writes a row, and the store takes it.
* `Operation.written`: what comes of an operation that has written a row.
* `Service.Performed`: what may come of an operation, in eight cases.

## Main results

* `Service.performed`: the eight cases are all.
* `Service.perform_of_commits`: a write that can be committed is committed.
* `Service.Commits.visit_eq_ok`: the visit that is read back.
-/

namespace VisitBooking

open Calendar Reference

namespace Operation

/-- The visit that an operation puts in. -/
def insertion? : Operation → Option Details
  | .create r => some r.details
  | .migrate r => some r.details
  | _ => none

/-- The references whose visits an operation deletes. -/
def deletes : Operation → List String
  | .delete reference => [reference]
  | .deleteMany references => references
  | _ => []

/-- The kind of event that tells of an operation, if it is one that is announced. -/
def eventKind? : Operation → Option EventKind
  | .create _ => some .booked
  | .change _ _ => some .changed
  | .cancel _ _ => some .cancelled
  | _ => none

/-- An operation passes the checks before its transaction. -/
structure Ready (catalog : List SupportType) (op : Operation) : Prop where
  check : op.check = .ok ()
  support : checkSupport catalog op.support = .ok ()

/-- What comes of an operation that has written a row, once the row is read back. -/
def written (op : Operation) : Except StoreFault Visit → Effect
  | .error fault => .ofFailure (.store fault)
  | .ok v =>
    { result := .ok (match op with
        | .migrate _ => .reference v.reference
        | _ => .visit v)
      event := op.eventKind?.map fun k => (k, v)
      logs := match op with
        | .create _ => [.info "visit created" [("reference", v.reference)]]
        | .migrate _ => [migratedRecord v]
        | _ => [] }

end Operation

namespace Service

variable {svc : Service} {readings : Readings} {op : Operation} {s : Store}

/-- An operation writes a row, and the store takes it. -/
inductive Commits (svc : Service) (readings : Readings) (op : Operation) (s : Store) :
    Row → Store → Prop where
  /-- A new row is added. -/
  | insertion (d : Details) (hop : op.insertion? = some d) (hready : op.Ready s.catalog)
      (hadmits : s.Admits (s.newRow svc.codec readings.write d)) :
      Commits svc readings op s (s.newRow svc.codec readings.write d)
        (s.add (s.newRow svc.codec readings.write d))
  /-- A row is written again. -/
  | revision (r : Row) (hr : r ∈ s.rows) (change : Visit → Except Refusal Visit)
      (hop : op.revision? (svc.wallClock readings.now) = some (r.reference, change))
      (hready : op.Ready s.catalog) (v w : Visit) (hv : r.visit = .ok v) (hw : change v = .ok w)
      (hvalid : w.details.columns.Valid) :
      Commits svc readings op s (r.write w.details.columns readings.write)
        (s.writeRow r.id w.details.columns readings.write)

/-- What may come of an operation, and the store after it. -/
inductive Performed (svc : Service) (readings : Readings) (op : Operation) (s : Store) :
    Except Refusal Effect → Store → Prop where
  /-- The request is refused before its transaction. -/
  | refused (reason : Refusal) (h : svc.prepare s.catalog readings.now op = .error reason) :
      Performed svc readings op s (.error reason) s
  /-- No visit has the reference. -/
  | missing (reference : String) (h : s.rowByReference? reference = none) :
      Performed svc readings op s (.ok (.ofFailure (.notFound reference))) s
  /-- A row that is looked at cannot be read. This is told as it is, or, if the row was to be
  revised, as a fault of the database. -/
  | unreadable (r : Row) (hr : r ∈ s.rows) (fault told : StoreFault) (hv : r.visit = .error fault)
      (htold : told = fault ∨ told = .unreadableRow fault) :
      Performed svc readings op s (.ok (.ofFailure (.store told))) s
  /-- The visit is not open to the operation. -/
  | declined (r : Row) (hr : r ∈ s.rows) (change : Visit → Except Refusal Visit)
      (hop : op.revision? (svc.wallClock readings.now) = some (r.reference, change))
      (v : Visit) (hv : r.visit = .ok v) (reason : Refusal) (h : change v = .error reason) :
      Performed svc readings op s (.ok (.ofFailure (.refused reason))) s
  /-- The store does not take the new row. -/
  | notAdmitted (d : Details) (hop : op.insertion? = some d) (hready : op.Ready s.catalog)
      (h : ¬ s.Admits (s.newRow svc.codec readings.write d)) :
      Performed svc readings op s (.ok (.ofFailure (.store .constraint))) s
  /-- The store does not take the columns of the revised visit. -/
  | notValid (r : Row) (hr : r ∈ s.rows) (change : Visit → Except Refusal Visit)
      (hop : op.revision? (svc.wallClock readings.now) = some (r.reference, change))
      (hready : op.Ready s.catalog) (v w : Visit) (hv : r.visit = .ok v) (hw : change v = .ok w)
      (h : ¬ w.details.columns.Valid) :
      Performed svc readings op s (.ok (.ofFailure (.store .constraint))) s
  /-- A row is written. -/
  | committed (r : Row) (s' : Store) (h : svc.Commits readings op s r s') :
      Performed svc readings op s (.ok (op.written r.visit)) s'
  /-- A question is answered, or visits are deleted. -/
  | answered (a : Answer) (logs : List LogRecord) (hinsertion : op.insertion? = none)
      (hrevision : op.revision? (svc.wallClock readings.now) = none) :
      Performed svc readings op s (.ok (.ofAnswer a logs)) (s.without op.deletes)

/-! ### The first step -/

theorem prepare_eq_ok_iff {catalog : List SupportType} {now : Instant} {t : Transaction} :
    svc.prepare catalog now op = .ok t ↔ op.check = .ok () ∧
      checkSupport catalog op.support = .ok () ∧ svc.transaction now op = t := by
  rw [prepare, check_bind_eq_ok_iff, check_bind_eq_ok_iff]
  simp only [pure, Except.pure, Except.ok.injEq]

theorem perform_of_prepare_eq_error {reason : Refusal}
    (h : svc.prepare s.catalog readings.now op = .error reason) :
    svc.perform readings op s = (.error reason, s) := by
  rw [perform, h]

theorem perform_of_prepare_eq_ok {t : Transaction}
    (h : svc.prepare s.catalog readings.now op = .ok t) :
    svc.perform readings op s =
      (.ok (t.run svc.codec readings.write s).1, (t.run svc.codec readings.write s).2) := by
  rw [perform, h]

theorem perform_of_ready (h : op.Ready s.catalog) :
    svc.perform readings op s =
      (.ok ((svc.transaction readings.now op).run svc.codec readings.write s).1,
        ((svc.transaction readings.now op).run svc.codec readings.write s).2) :=
  perform_of_prepare_eq_ok (prepare_eq_ok_iff.2 ⟨h.check, h.support, rfl⟩)

/-! ### The second step -/

/-- An operation that puts a visit in does no more to the store than that. -/
theorem run_insertion {d : Details} (hop : op.insertion? = some d) :
    (svc.transaction readings.now op).run svc.codec readings.write s =
      (op.written (s.insert svc.codec readings.write d).1,
        (s.insert svc.codec readings.write d).2) := by
  cases op with
  | create r =>
    cases hop
    simp only [transaction, Transaction.run]
    rcases s.insert svc.codec readings.write r.details with ⟨_ | _, _⟩ <;> rfl
  | migrate r =>
    cases hop
    simp only [transaction, Transaction.run]
    rcases s.insert svc.codec readings.write r.details with ⟨_ | _, _⟩ <;> rfl
  | _ => cases hop

/-- An operation that revises a visit does no more to the store than that. -/
theorem run_revision {reference : String} {change : Visit → Except Refusal Visit}
    (hop : op.revision? (svc.wallClock readings.now) = some (reference, change)) :
    (svc.transaction readings.now op).run svc.codec readings.write s =
      (.ofWrite op.eventKind? (s.update readings.write reference change).1,
        (s.update readings.write reference change).2) := by
  cases op <;> cases hop <;> rfl

theorem ofWrite_mapError {reference : String} {change : Visit → Except Refusal Visit}
    {now : DateTime} (hop : op.revision? now = some (reference, change))
    (x : Except StoreFault Visit) :
    Effect.ofWrite op.eventKind? (x.mapError .store) = op.written x := by
  cases op <;> cases hop <;> cases x <;> rfl

theorem keeps_id_of_revision? {reference : String} {change : Visit → Except Refusal Visit}
    {now : DateTime} (hop : op.revision? now = some (reference, change)) {v w : Visit}
    (hw : change v = .ok w) : w.id = v.id :=
  (op.revision_of_eq_ok hop hw).id_eq

theorem performed_of_insertion {d : Details} (hop : op.insertion? = some d)
    (hready : op.Ready s.catalog) :
    svc.Performed readings op s (.ok (op.written (s.insert svc.codec readings.write d).1))
      (s.insert svc.codec readings.write d).2 := by
  by_cases hadmits : s.Admits (s.newRow svc.codec readings.write d)
  · rw [Store.insert_of_admits hadmits]
    exact .committed _ _ (.insertion d hop hready hadmits)
  · rw [Store.insert_of_not_admits hadmits]
    exact .notAdmitted d hop hready hadmits

theorem performed_of_revision (wf : s.WellFormed) {reference : String}
    {change : Visit → Except Refusal Visit}
    (hop : op.revision? (svc.wallClock readings.now) = some (reference, change))
    (hready : op.Ready s.catalog) :
    svc.Performed readings op s
      (.ok (.ofWrite op.eventKind? (s.update readings.write reference change).1))
      (s.update readings.write reference change).2 := by
  cases hr : s.rowByReference? reference with
  | none =>
    rw [Store.update_of_missing hr]
    exact .missing reference hr
  | some r =>
    obtain ⟨hmem, rfl⟩ := wf.rowByReference?_eq_some_iff.1 hr
    cases hv : r.visit with
    | error fault =>
      rw [Store.update_of_unreadable hr hv]
      exact .unreadable r hmem fault _ hv (.inr rfl)
    | ok v =>
      cases hw : change v with
      | error reason =>
        rw [Store.update_of_refused hr hv hw]
        exact .declined r hmem change hop v hv reason hw
      | ok w =>
        rw [wf.update_of_ok hmem hv hw (keeps_id_of_revision? hop hw)]
        by_cases hvalid : w.details.columns.Valid
        · rw [if_pos hvalid, ofWrite_mapError hop]
          exact .committed _ _ (.revision r hmem change hop hready v w hv hw hvalid)
        · rw [if_neg hvalid]
          exact .notValid r hmem change hop hready v w hv hw hvalid

theorem performed_of_answer (a : Answer) (logs : List LogRecord) (hinsertion : op.insertion? = none)
    (hrevision : op.revision? (svc.wallClock readings.now) = none) {s' : Store}
    (hs' : s' = s.without op.deletes) :
    svc.Performed readings op s (.ok (.ofAnswer a logs)) s' :=
  hs' ▸ .answered a logs hinsertion hrevision

/-- A search finds visits that can be read, or comes upon a row that cannot. -/
theorem mapM_visit_cases (rows : List Row) :
    (∃ vs, rows.mapM Row.visit = .ok vs) ∨
      ∃ r ∈ rows, ∃ fault, r.visit = .error fault ∧ rows.mapM Row.visit = .error fault := by
  induction rows with
  | nil => exact .inl ⟨[], rfl⟩
  | cons r rows ih =>
    rw [List.mapM_cons]
    cases hr : r.visit with
    | error fault => exact .inr ⟨r, List.mem_cons_self .., fault, hr, rfl⟩
    | ok v =>
      rcases ih with ⟨vs, hvs⟩ | ⟨r', hr', fault, hfault, hrows⟩
      · exact .inl ⟨v :: vs, by rw [hvs]; rfl⟩
      · exact .inr ⟨r', List.mem_cons_of_mem r hr', fault, hfault, by rw [hrows]; rfl⟩

theorem performed_of_get (wf : s.WellFormed) (reference : String) :
    svc.Performed readings (.get reference) s
      (.ok ((Transaction.find reference).run svc.codec readings.write s).1)
      ((Transaction.find reference).run svc.codec readings.write s).2 := by
  simp only [Transaction.run, Store.findByReference]
  cases hr : s.rowByReference? reference with
  | none => exact .missing reference hr
  | some r =>
    obtain ⟨hmem, -⟩ := wf.rowByReference?_eq_some_iff.1 hr
    simp only [Store.readRow]
    cases hv : r.visit with
    | error fault => exact .unreadable r hmem fault fault hv (.inl rfl)
    | ok v => exact performed_of_answer (.visit v) [] rfl rfl s.without_nil.symm

theorem performed_of_search (filter : VisitFilter) :
    svc.Performed readings (.search filter) s
      (.ok ((Transaction.findAll filter).run svc.codec readings.write s).1)
      ((Transaction.findAll filter).run svc.codec readings.write s).2 := by
  simp only [Transaction.run, Store.findAll]
  rcases mapM_visit_cases ((s.rows.filter (Store.matchesRow filter)).mergeSort Store.rowLE) with
    ⟨vs, hvs⟩ | ⟨r, hr, fault, hv, hvs⟩
  · rw [hvs]
    exact performed_of_answer (.visits vs) [] rfl rfl s.without_nil.symm
  · rw [hvs]
    have hmem : r ∈ s.rows := (List.mem_filter.1 (List.mem_mergeSort.1 hr)).1
    exact .unreadable r hmem fault fault hv (.inl rfl)

/-- An operation that writes no visit answers or fails. -/
theorem performed_of_transaction (wf : s.WellFormed) (hinsertion : op.insertion? = none)
    (hrevision : op.revision? (svc.wallClock readings.now) = none) :
    svc.Performed readings op s
      (.ok ((svc.transaction readings.now op).run svc.codec readings.write s).1)
      ((svc.transaction readings.now op).run svc.codec readings.write s).2 := by
  cases op with
  | get reference => exact performed_of_get wf reference
  | search filter => exact performed_of_search filter
  | supportTypes =>
    exact performed_of_answer (.supportTypes s.supportTypes) [] rfl rfl s.without_nil.symm
  | delete reference =>
    simp only [transaction, Transaction.run]
    exact performed_of_answer .deleted _ rfl rfl (Store.delete_snd reference s)
  | deleteMany references =>
    simp only [transaction, Transaction.run]
    exact performed_of_answer _ _ rfl rfl (Store.deleteMany_snd references s)
  | create => cases hinsertion
  | migrate => cases hinsertion
  | _ => cases hrevision

/-- The eight cases are all. -/
theorem performed (svc : Service) (wf : s.WellFormed) (readings : Readings) (op : Operation) :
    svc.Performed readings op s (svc.perform readings op s).1 (svc.perform readings op s).2 := by
  cases hprepare : svc.prepare s.catalog readings.now op with
  | error reason =>
    rw [perform_of_prepare_eq_error hprepare]
    exact .refused reason hprepare
  | ok t =>
    obtain ⟨hcheck, hsupport, rfl⟩ := prepare_eq_ok_iff.1 hprepare
    have hready : op.Ready s.catalog := ⟨hcheck, hsupport⟩
    rw [perform_of_ready hready]
    cases hinsertion : op.insertion? with
    | some d =>
      rw [run_insertion hinsertion]
      dsimp only
      exact performed_of_insertion hinsertion hready
    | none =>
      cases hrevision : op.revision? (svc.wallClock readings.now) with
      | some p =>
        obtain ⟨reference, change⟩ := p
        rw [run_revision hrevision]
        dsimp only
        exact performed_of_revision wf hrevision hready
      | none => exact performed_of_transaction wf hinsertion hrevision

/-! ### Committed writes -/

variable {r : Row} {s' : Store}

/-- A write that can be committed is committed. -/
theorem perform_of_commits (wf : s.WellFormed) (h : svc.Commits readings op s r s') :
    svc.perform readings op s = (.ok (op.written r.visit), s') := by
  cases h with
  | insertion d hop hready hadmits =>
    rw [perform_of_ready hready, run_insertion hop, Store.insert_of_admits hadmits]
  | revision r hr change hop hready v w hv hw hvalid =>
    rw [perform_of_ready hready, run_revision hop,
      wf.update_of_ok hr hv hw (keeps_id_of_revision? hop hw), if_pos hvalid, ofWrite_mapError hop]

/-- The row is in the store from then on. -/
theorem Commits.mem_rows (h : svc.Commits readings op s r s') : r ∈ s'.rows := by
  cases h with
  | insertion => exact Store.mem_add.2 (.inr rfl)
  | revision r hr => exact Store.mem_writeRow.2 (.inr ⟨r, hr, rfl, rfl⟩)

/-- Any other row is as it was. -/
theorem Commits.mem_or_eq (wf : s.WellFormed) (h : svc.Commits readings op s r s') {r' : Row}
    (hr' : r' ∈ s'.rows) : r' ∈ s.rows ∨ r' = r := by
  cases h with
  | insertion => exact Store.mem_add.1 hr'
  | revision r₀ hr₀ =>
    rcases Store.mem_writeRow.1 hr' with ⟨hr', -⟩ | ⟨old, hold, hid, rfl⟩
    · exact .inl hr'
    · obtain rfl : old = r₀ := wf.eq_of_id_eq hold hr₀ hid
      exact .inr rfl

theorem Commits.wellFormed (wf : s.WellFormed) (h : svc.Commits readings op s r s') :
    s'.WellFormed := by
  cases h with
  | insertion d hop hready hadmits => exact wf.add hadmits
  | revision r hr change hop hready v w => exact wf.writeRow r.id w.details readings.write

theorem Commits.reference_eq (wf : s.WellFormed) (h : svc.Commits readings op s r s') {v : Visit}
    (hv : r.visit = .ok v) : v.reference = r.reference :=
  (h.wellFormed wf).visit_reference h.mem_rows hv

/-- The visit that is read back is the one that is found under its reference from then on. -/
theorem Commits.findByReference_eq (wf : s.WellFormed) (h : svc.Commits readings op s r s')
    {v : Visit} (hv : r.visit = .ok v) : s'.findByReference v.reference = .ok (some v) := by
  have hfound : s'.rowByReference? r.reference = some r :=
    (h.wellFormed wf).rowByReference?_eq_some_iff.2 ⟨h.mem_rows, rfl⟩
  rw [h.reference_eq wf hv, Store.findByReference, hfound, Store.readRow, hv]
  rfl

/-- The row is read back as a visit, if the clock showed a year that is. -/
theorem Commits.visit_eq_ok (wf : s.WellFormed) (h : svc.Commits readings op s r s')
    (hclock : readings.write.HasPlainYear) :
    ∃ v, r.visit = .ok v := by
  cases h with
  | insertion d => exact ⟨_, Store.visit_newRow hclock d⟩
  | revision r hr change hop hready v w hv =>
    obtain ⟨d, hd⟩ := wf.holds_details r hr
    exact ⟨_, Row.visit_write hv hd w.details hclock⟩

end Service

end VisitBooking
