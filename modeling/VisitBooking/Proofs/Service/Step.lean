import VisitBooking.Proofs.Service.Commit

/-!
# What an operation does to the store

Ten operations do one of four things to a store: nothing, or one of the writes of an insert, a
revision and a delete. The statements about the life of visits split on those four and never look at
the operations again.

## Main definitions

* `Service.Step`: what an operation does to the store, and what comes of it.
* `Service.RevisesRow`: a row before and after it is written again.

## Main results

* `Service.step_of_perform`: the four cases are all.
* `Service.Step.row_cases`: where the rows come from.
-/

namespace VisitBooking

open Calendar Reference

namespace Service

variable {svc : Service} {readings : Readings} {op : Operation} {s : Store}

/-- What an operation does to the store, and what comes of it. -/
inductive Step (svc : Service) (readings : Readings) (op : Operation) (s : Store) :
    Except Refusal Effect → Store → Prop where
  /-- Nothing is written. An operation that revises visits has failed. -/
  | idle (outcome : Except Refusal Effect)
      (hfail : (op.revision? (svc.wallClock readings.now)).isSome →
        ∀ e, outcome = .ok e → ∃ f, e = .ofFailure f) :
      Step svc readings op s outcome s
  /-- A new row is added. -/
  | insertion (outcome : Except Refusal Effect) (d : Details) (hop : op.insertion? = some d)
      (hadmits : s.Admits (s.newRow svc.codec readings.write d)) :
      Step svc readings op s outcome (s.add (s.newRow svc.codec readings.write d))
  /-- A row is written again. -/
  | revision (r : Row) (hr : r ∈ s.rows) (d d' : Details) (hd : r.columns = d.columns)
      (change : Visit → Except Refusal Visit)
      (hop : op.revision? (svc.wallClock readings.now) = some (r.reference, change))
      (hrevised : d.Revised op r.reference (svc.wallClock readings.now) d') :
      Step svc readings op s
        (.ok (.ofWrite op.eventKind?
          ((r.write d'.columns readings.write).visit.mapError .store)))
        (s.writeRow r.id d'.columns readings.write)
  /-- Rows are taken out. -/
  | deletion (e : Effect) (hop : op.revision? (svc.wallClock readings.now) = none) :
      Step svc readings op s (.ok e) (s.without op.deletes)

theorem step_of_commits (wf : s.WellFormed) {r : Row} {s' : Store}
    (h : svc.Commits readings op s r s') :
    svc.Step readings op s (.ok (op.written r.visit)) s' := by
  cases h with
  | insertion d hop hready hadmits => exact .insertion _ d hop hadmits
  | revision r hr change hop hready v w hv hw hvalid =>
    rw [← ofWrite_mapError hop]
    exact .revision r hr v.details w.details (wf.visit_columns hr hv) change hop
      (op.revision_of_eq_ok hop hw).revised

theorem step_of_failure (f : Failure) : svc.Step readings op s (.ok (.ofFailure f)) s :=
  .idle _ fun _ _ he => ⟨f, (Except.ok.inj he).symm⟩

theorem Performed.step (wf : s.WellFormed) {outcome : Except Refusal Effect} {s' : Store}
    (h : svc.Performed readings op s outcome s') : svc.Step readings op s outcome s' := by
  cases h with
  | refused => exact .idle _ fun _ _ he => nomatch he
  | missing => exact step_of_failure _
  | unreadable => exact step_of_failure _
  | declined => exact step_of_failure _
  | notAdmitted => exact step_of_failure _
  | notValid => exact step_of_failure _
  | committed r _ hcommits => exact step_of_commits wf hcommits
  | answered _ _ _ hrevision => exact .deletion _ hrevision

/-- An operation does one of the four things. -/
theorem step_of_perform (svc : Service) (wf : s.WellFormed) (readings : Readings)
    (op : Operation) :
    svc.Step readings op s (svc.perform readings op s).1 (svc.perform readings op s).2 :=
  (svc.performed wf readings op).step wf

/-! ### Where rows come from -/

/-- An operation wrote a row again. -/
def RevisesRow (svc : Service) (readings : Readings) (op : Operation) (r r' : Row) : Prop :=
  ∃ d d' : Details, r.columns = d.columns ∧
    d.Revised op r.reference (svc.wallClock readings.now) d' ∧
    r' = r.write d'.columns readings.write

variable {s' : Store} {outcome : Except Refusal Effect}

theorem Step.keyed (h : svc.Step readings op s outcome s') (hs : s.Keyed svc.codec) :
    s'.Keyed svc.codec := by
  cases h with
  | idle => exact hs
  | insertion _ d _ hadmits => exact hs.add hadmits
  | revision r _ _ d' => exact hs.writeRow r.id d' readings.write
  | deletion => exact hs.without op.deletes

theorem Step.wellFormed (h : svc.Step readings op s outcome s') (wf : s.WellFormed) :
    s'.WellFormed := by
  cases h with
  | idle => exact wf
  | insertion _ d _ hadmits => exact wf.add hadmits
  | revision r _ _ d' => exact wf.writeRow r.id d' readings.write
  | deletion => exact wf.without op.deletes

/-- No operation touches the catalog. -/
theorem Step.catalog_eq (h : svc.Step readings op s outcome s') : s'.catalog = s.catalog := by
  cases h <;> rfl

theorem Step.lastId_le (h : svc.Step readings op s outcome s') : s.lastId ≤ s'.lastId := by
  cases h with
  | insertion => exact Nat.le_succ s.lastId
  | _ => exact Nat.le_refl s.lastId

/-- A row after an operation was there before, or is new, or was written again. -/
theorem Step.row_cases (h : svc.Step readings op s outcome s') (wf : s.WellFormed) {r' : Row}
    (hr' : r' ∈ s'.rows) :
    r' ∈ s.rows ∨
      (r'.id = (s.lastId + 1 : Nat) ∧ r'.reference = svc.codec.encode (s.lastId + 1)) ∨
      ∃ r ∈ s.rows, svc.RevisesRow readings op r r' := by
  cases h with
  | idle => exact .inl hr'
  | insertion _ d _ hadmits =>
    rcases Store.mem_add.1 hr' with hr' | rfl
    · exact .inl hr'
    · exact .inr (.inl ⟨rfl, rfl⟩)
  | revision r hr d d' hd _ _ hrevised =>
    rcases Store.mem_writeRow.1 hr' with ⟨hr', -⟩ | ⟨old, hold, hid, rfl⟩
    · exact .inl hr'
    · obtain rfl : old = r := wf.eq_of_id_eq hold hr hid
      exact .inr (.inr ⟨old, hold, d, d', hd, hrevised, rfl⟩)
  | deletion => exact .inl (List.mem_filter.1 hr').1

/-- A row that has the identity of a row before is that row, as it was or written again. -/
theorem Step.eq_or_revises_of_id_eq (h : svc.Step readings op s outcome s') (wf : s.WellFormed)
    {r r' : Row} (hr : r ∈ s.rows) (hr' : r' ∈ s'.rows) (hid : r'.id = r.id) :
    r' = r ∨ svc.RevisesRow readings op r r' := by
  rcases h.row_cases wf hr' with hold | ⟨hnew, -⟩ | ⟨old, hold, hrev⟩
  · exact .inl (wf.eq_of_id_eq hold hr hid)
  · have hle := (wf.id_mem r hr).2
    omega
  · obtain ⟨d, d', hd, hrevised, rfl⟩ := hrev
    obtain rfl : old = r := wf.eq_of_id_eq hold hr hid
    exact .inr ⟨d, d', hd, hrevised, rfl⟩

/-- A row that has a reference given out before goes back to the row that had it before. -/
theorem Step.eq_or_revises_of_reference (h : svc.Step readings op s outcome s')
    (wf : s.WellFormed) {n : Nat} (hn : n ≤ s.lastId) {r' : Row} (hr' : r' ∈ s'.rows)
    (href : r'.reference = svc.codec.encode n) :
    ∃ r ∈ s.rows, r.reference = svc.codec.encode n ∧
      (r' = r ∨ svc.RevisesRow readings op r r') := by
  rcases h.row_cases wf hr' with hold | ⟨-, hnew⟩ | ⟨old, hold, hrev⟩
  · exact ⟨r', hold, href, .inl rfl⟩
  · exact absurd (hnew.symm.trans href) (Store.encode_ne_encode_next hn)
  · obtain ⟨d, d', hd, hrevised, rfl⟩ := hrev
    exact ⟨old, hold, href, .inr ⟨d, d', hd, hrevised, rfl⟩⟩

/-- A visit that is cancelled or in the past is not written again. -/
theorem not_revisesRow {r r' : Row} {d : Details} (hd : r.columns = d.columns)
    (hfinal : d.status = .cancelled ∨ d.starts.toDateTime < svc.wallClock readings.now) :
    ¬ svc.RevisesRow readings op r r' := by
  rintro ⟨d₀, d', hd₀, hrevised, -⟩
  obtain rfl : d = d₀ := Details.columns_injective (hd.symm.trans hd₀)
  rcases hfinal with hcancelled | hpast
  · exact hrevised.live hcancelled
  · exact hrevised.current hpast

/-- A row that is not deleted is there after an operation, as it was or written again. -/
theorem Step.survives (h : svc.Step readings op s outcome s') (wf : s.WellFormed) {r : Row}
    (hr : r ∈ s.rows) (hdel : r.reference ∉ op.deletes) :
    r ∈ s'.rows ∨ ∃ r' ∈ s'.rows, svc.RevisesRow readings op r r' := by
  cases h with
  | idle => exact .inl hr
  | insertion => exact .inl (Store.mem_add.2 (.inl hr))
  | revision r₀ hr₀ d d' hd _ _ hrevised =>
    by_cases hid : r.id = r₀.id
    · obtain rfl : r = r₀ := wf.eq_of_id_eq hr hr₀ hid
      exact .inr ⟨_, Store.mem_writeRow.2 (.inr ⟨r, hr, rfl, rfl⟩), d, d', hd, hrevised, rfl⟩
    · exact .inl (Store.mem_writeRow.2 (.inl ⟨hr, hid⟩))
  | deletion => exact .inl (List.mem_filter.2 ⟨hr, by simpa using hdel⟩)

end Service

end VisitBooking
