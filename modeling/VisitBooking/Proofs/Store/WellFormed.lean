import Mathlib.Data.List.Nodup
import VisitBooking.Proofs.Store.Columns
import VisitBooking.Store.Basic

/-!
# Well-formed stores

What an operation on the store does depends on the first row with a reference, or with an identity.
The statements below make that *the* row: in a well-formed store no two rows have one identity or
one reference. Every operation keeps a store well-formed, and comes down to one of four writes:

* a row of a new identity is added at the end (`Store.add`);
* other columns are written into one row (`Store.writeRow`);
* rows are taken out (`Store.without`);
* the store is opened again (`Store.reopen`).

An operation that fails leaves the store as it was.

## Main definitions

* `Store.WellFormed`.
* `Store.without`: the store without the rows of some references.

## Main results

* `Store.WellFormed.rowByReference?_eq_some_iff`, `Store.WellFormed.rowById?_eq_some_iff`.
* `Store.WellFormed.add`, `.writeRow`, `.without`, `.reopen`: the four writes keep it.
* `Store.insert_of_admits`, `Store.save_cases`, `Store.WellFormed.update_cases`,
  `Store.deleteMany_snd`: what each operation comes down to. -/

namespace VisitBooking

open Calendar Reference

/-- A key that no two elements share finds each element. -/
theorem find?_key_eq_some_iff {α κ : Type} [BEq κ] [LawfulBEq κ] {key : α → κ} {xs : List α}
    (nodup : (xs.map key).Nodup) {k : κ} {x : α} :
    xs.find? (fun y => key y == k) = some x ↔ x ∈ xs ∧ key x = k := by
  constructor
  · intro h
    exact ⟨List.mem_of_find?_eq_some h, by simpa using List.find?_some h⟩
  · rintro ⟨hx, rfl⟩
    cases h : xs.find? (fun y => key y == key x) with
    | none => simpa using List.find?_eq_none.1 h x hx
    | some y =>
      have hy : key y = key x := by simpa using List.find?_some h
      rw [List.inj_on_of_nodup_map nodup (List.mem_of_find?_eq_some h) hx hy]

theorem Details.valid_columns_iff {d : Details} :
    d.columns.Valid ↔ d.starts.column < d.ends.column ∧
      (d.visitors.map Visitor.person).Nodup ∧ (d.support.map SupportNeed.type).Nodup := by
  have hsupport : d.columns.support.map Prod.fst = d.support.map SupportNeed.type := by
    simp only [Details.columns, List.map_map]
    rfl
  rw [Columns.Valid, hsupport]
  rfl

/-- A row that is read is read as well after it is written at an instant that is read. -/
theorem Row.visit_write {r : Row} {v : Visit} (hv : r.visit = .ok v) {d₀ : Details}
    (hd₀ : r.columns = d₀.columns) (d : Details) {now : Instant} (hnow : now.HasPlainYear) :
    (r.write d.columns now).visit = .ok { v with details := d, modified := now } := by
  obtain ⟨hid, href, -, hcreated, -⟩ := (Row.visit_eq_ok_iff hd₀).1 hv
  exact (Row.visit_eq_ok_iff rfl).2 ⟨hid, href, rfl, hcreated, readInstant_column hnow⟩

/-- Otherwise it is not read any more. -/
theorem Row.visit_write_eq_error {r : Row} (d : Details) {now : Instant}
    (hnow : ¬ now.HasPlainYear) : (r.write d.columns now).visit = .error .unreadableTime :=
  Row.visit_eq_error rfl (readInstant_column_eq_error hnow)

namespace Store

/-- The store without the rows of some references. -/
def without (references : List String) (s : Store) : Store :=
  { s with rows := s.rows.filter fun r => r.reference ∉ references }

/-- What holds of every store that the operations lead to. -/
structure WellFormed (s : Store) : Prop where
  /-- A row that comes later has a greater identity. -/
  ids_sorted : s.rows.Pairwise fun a b => a.id < b.id
  /-- Identities count from one up to the last one that was given out. -/
  id_mem : ∀ r ∈ s.rows, 1 ≤ r.id ∧ r.id ≤ s.lastId
  /-- No two rows have one reference. -/
  references_nodup : (s.rows.map Row.reference).Nodup
  /-- Each row holds the details of a visit. -/
  holds_details : ∀ r ∈ s.rows, ∃ d : Details, r.columns = d.columns

theorem wellFormed_empty : WellFormed .empty where
  ids_sorted := .nil
  id_mem := by simp [empty]
  references_nodup := by simp [empty]
  holds_details := by simp [empty]

variable {s : Store}

/-! ### Looking rows up -/

theorem WellFormed.ids_nodup (wf : s.WellFormed) : (s.rows.map Row.id).Nodup :=
  (List.pairwise_map.2 wf.ids_sorted).imp fun h => Int.ne_of_lt h

theorem WellFormed.rowById?_eq_some_iff (wf : s.WellFormed) {id : Int} {r : Row} :
    s.rowById? id = some r ↔ r ∈ s.rows ∧ r.id = id :=
  find?_key_eq_some_iff wf.ids_nodup

theorem WellFormed.rowByReference?_eq_some_iff (wf : s.WellFormed) {reference : String} {r : Row} :
    s.rowByReference? reference = some r ↔ r ∈ s.rows ∧ r.reference = reference :=
  find?_key_eq_some_iff wf.references_nodup

theorem rowByReference?_isNone_iff {reference : String} :
    (s.rowByReference? reference).isNone ↔ ∀ r ∈ s.rows, r.reference ≠ reference := by
  simp [rowByReference?]

theorem WellFormed.eq_of_id_eq (wf : s.WellFormed) {a b : Row} (ha : a ∈ s.rows) (hb : b ∈ s.rows)
    (h : a.id = b.id) : a = b :=
  List.inj_on_of_nodup_map wf.ids_nodup ha hb h

theorem WellFormed.eq_of_reference_eq (wf : s.WellFormed) {a b : Row} (ha : a ∈ s.rows)
    (hb : b ∈ s.rows) (h : a.reference = b.reference) : a = b :=
  List.inj_on_of_nodup_map wf.references_nodup ha hb h

/-! ### Reading rows -/

section Reading

variable {r : Row} {v : Visit}

/-- A visit that is read from a row has the details that the row holds. -/
theorem WellFormed.visit_columns (wf : s.WellFormed) (hr : r ∈ s.rows) (hv : r.visit = .ok v) :
    r.columns = v.details.columns := by
  obtain ⟨d, hd⟩ := wf.holds_details r hr
  rw [hd, ((Row.visit_eq_ok_iff hd).1 hv).2.2.1]

theorem WellFormed.visit_id (wf : s.WellFormed) (hr : r ∈ s.rows) (hv : r.visit = .ok v) :
    v.id = r.id :=
  ((Row.visit_eq_ok_iff (wf.visit_columns hr hv)).1 hv).1

theorem WellFormed.visit_reference (wf : s.WellFormed) (hr : r ∈ s.rows) (hv : r.visit = .ok v) :
    v.reference = r.reference :=
  ((Row.visit_eq_ok_iff (wf.visit_columns hr hv)).1 hv).2.1

end Reading

/-! ### The four writes -/

theorem mem_writeRow {id : Int} {c : Columns} {now : Instant} {r : Row} :
    r ∈ (s.writeRow id c now).rows ↔
      (r ∈ s.rows ∧ r.id ≠ id) ∨ ∃ old ∈ s.rows, old.id = id ∧ r = old.write c now := by
  simp only [writeRow, List.mem_map]
  constructor
  · rintro ⟨old, hold, rfl⟩
    split
    · exact .inr ⟨old, hold, ‹_›, rfl⟩
    · exact .inl ⟨hold, ‹_›⟩
  · rintro (⟨hr, hid⟩ | ⟨old, hold, hid, rfl⟩)
    · exact ⟨r, hr, if_neg hid⟩
    · exact ⟨old, hold, if_pos hid⟩

/-- Writing columns moves no row and touches neither identities nor references. -/
theorem map_writeRow {β : Type} (f : Row → β) (hf : ∀ c now r, f (Row.write c now r) = f r)
    (id : Int) (c : Columns) (now : Instant) :
    (s.writeRow id c now).rows.map f = s.rows.map f := by
  rw [writeRow, List.map_map]
  refine List.map_congr_left fun r _ => ?_
  simp only [Function.comp_apply]
  split
  · exact hf c now r
  · rfl

theorem WellFormed.writeRow (wf : s.WellFormed) (id : Int) (d : Details) (now : Instant) :
    (s.writeRow id d.columns now).WellFormed where
  ids_sorted := by
    have hids := map_writeRow (s := s) Row.id (fun _ _ _ => rfl) id d.columns now
    have hsorted : (s.rows.map Row.id).Pairwise (· < ·) := List.pairwise_map.2 wf.ids_sorted
    exact List.pairwise_map.1 (hids ▸ hsorted)
  id_mem r hr := by
    rcases mem_writeRow.1 hr with ⟨hr, -⟩ | ⟨old, hold, -, rfl⟩
    · exact wf.id_mem r hr
    · exact wf.id_mem old hold
  references_nodup := by
    rw [map_writeRow Row.reference fun _ _ _ => rfl]
    exact wf.references_nodup
  holds_details r hr := by
    rcases mem_writeRow.1 hr with ⟨hr, -⟩ | ⟨old, -, -, rfl⟩
    · exact wf.holds_details r hr
    · exact ⟨d, rfl⟩

@[simp] theorem without_nil (s : Store) : s.without [] = s := by
  simp [without]

theorem WellFormed.without (wf : s.WellFormed) (references : List String) :
    (s.without references).WellFormed where
  ids_sorted := wf.ids_sorted.filter _
  id_mem r hr := wf.id_mem r (List.mem_filter.1 hr).1
  references_nodup := wf.references_nodup.sublist (List.filter_sublist.map _)
  holds_details r hr := wf.holds_details r (List.mem_filter.1 hr).1

theorem WellFormed.reopen (wf : s.WellFormed) : s.reopen.WellFormed :=
  ⟨wf.ids_sorted, wf.id_mem, wf.references_nodup, wf.holds_details⟩

theorem mem_add {row r : Row} : r ∈ (s.add row).rows ↔ r ∈ s.rows ∨ r = row := by
  simp [add]

/-- The new identity is greater than all before, and the reference is one that no row has. -/
theorem WellFormed.add (wf : s.WellFormed) {scheme : Scheme} {now : Instant} {d : Details}
    (h : s.Admits (s.newRow scheme now d)) : (s.add (s.newRow scheme now d)).WellFormed where
  ids_sorted := by
    refine List.pairwise_append.2 ⟨wf.ids_sorted, List.pairwise_singleton .., ?_⟩
    intro a ha b hb
    have hle := (wf.id_mem a ha).2
    rw [List.mem_singleton.1 hb]
    simp only [newRow]
    omega
  id_mem r hr := by
    rcases mem_add.1 hr with hr | rfl
    · have hmem := wf.id_mem r hr
      simp only [Store.add]
      omega
    · simp only [Store.add, newRow]
      omega
  references_nodup := by
    have hfresh := rowByReference?_isNone_iff.1 h.2
    simp only [Store.add, List.map_append, List.map_cons, List.map_nil]
    refine List.nodup_append.2 ⟨wf.references_nodup, by simp, ?_⟩
    intro a ha b hb
    obtain ⟨r, hr, rfl⟩ := List.mem_map.1 ha
    rw [List.mem_singleton.1 hb]
    exact hfresh r hr
  holds_details r hr := by
    rcases mem_add.1 hr with hr | rfl
    · exact wf.holds_details r hr
    · exact ⟨d, rfl⟩

/-! ### What the operations come down to -/

theorem insert_of_admits {scheme : Scheme} {now : Instant} {d : Details}
    (h : s.Admits (s.newRow scheme now d)) :
    s.insert scheme now d = ((s.newRow scheme now d).visit, s.add (s.newRow scheme now d)) :=
  if_pos h

theorem insert_of_not_admits {scheme : Scheme} {now : Instant} {d : Details}
    (h : ¬ s.Admits (s.newRow scheme now d)) :
    s.insert scheme now d = (.error .constraint, s) :=
  if_neg h

/-- A new row is read back as it was meant, if its instant is. -/
theorem visit_newRow {scheme : Scheme} {now : Instant} (h : now.HasPlainYear) (d : Details) :
    (s.newRow scheme now d).visit =
      .ok ⟨(s.lastId + 1 : Nat), scheme.encode (s.lastId + 1), d, now, now⟩ :=
  (Row.visit_eq_ok_iff rfl).2 ⟨rfl, rfl, rfl, readInstant_column h, readInstant_column h⟩

/-- Otherwise it is not read back at all. -/
theorem visit_newRow_eq_error {scheme : Scheme} {now : Instant} (h : ¬ now.HasPlainYear)
    (d : Details) : (s.newRow scheme now d).visit = .error .unreadableTime :=
  Row.visit_eq_error rfl (readInstant_column_eq_error h)

/-- A copy whose last write is that of the row is written, unless a constraint does not hold. -/
theorem save_of_modified_eq {now : Instant} {v : Visit} {r : Row}
    (hr : s.rowById? v.id = some r) (hmodified : r.modified = v.modified.column) :
    s.save now v = if v.details.columns.Valid then
        ((r.write v.details.columns now).visit, s.writeRow v.id v.details.columns now)
      else (.error .constraint, s) := by
  simp only [save, hr, if_neg (not_not.2 hmodified)]

theorem save_cases (now : Instant) (v : Visit) (s : Store) :
    (∃ fault, s.save now v = (.error fault, s)) ∨
      ∃ r, s.rowById? v.id = some r ∧ v.details.columns.Valid ∧
        s.save now v = ((r.write v.details.columns now).visit,
          s.writeRow v.id v.details.columns now) := by
  unfold save
  split
  · exact .inl ⟨_, rfl⟩
  · rename_i r hr
    split
    · exact .inl ⟨_, rfl⟩
    · split
      · exact .inr ⟨r, hr, ‹_›, rfl⟩
      · exact .inl ⟨_, rfl⟩

theorem update_of_missing {now : Instant} {reference : String}
    {change : Visit → Except Refusal Visit} (h : s.rowByReference? reference = none) :
    s.update now reference change = (.error (.notFound reference), s) := by
  simp only [update, h]

theorem update_of_unreadable {now : Instant} {reference : String}
    {change : Visit → Except Refusal Visit} {r : Row} {fault : StoreFault}
    (hr : s.rowByReference? reference = some r) (hv : r.visit = .error fault) :
    s.update now reference change = (.error (.store (.unreadableRow fault)), s) := by
  simp only [update, hr, hv]

theorem update_of_refused {now : Instant} {reference : String}
    {change : Visit → Except Refusal Visit} {r : Row} {v : Visit} {reason : Refusal}
    (hr : s.rowByReference? reference = some r) (hv : r.visit = .ok v)
    (hchange : change v = .error reason) :
    s.update now reference change = (.error (.refused reason), s) := by
  simp only [update, hr, hv, hchange]

/-- A change that leaves the identity alone is written into the row it was read from, unless a
constraint on the columns does not hold. -/
theorem WellFormed.update_of_ok (wf : s.WellFormed) {now : Instant}
    {change : Visit → Except Refusal Visit} {r : Row} (hr : r ∈ s.rows) {v w : Visit}
    (hv : r.visit = .ok v) (hw : change v = .ok w) (hid : w.id = v.id) :
    s.update now r.reference change =
      if w.details.columns.Valid then
        ((r.write w.details.columns now).visit.mapError .store,
          s.writeRow r.id w.details.columns now)
      else (.error (.store .constraint), s) := by
  have hwid : w.id = r.id := hid.trans (wf.visit_id hr hv)
  have hfound : s.rowByReference? r.reference = some r :=
    wf.rowByReference?_eq_some_iff.2 ⟨hr, rfl⟩
  have hrow : s.rowById? r.id = some r := wf.rowById?_eq_some_iff.2 ⟨hr, rfl⟩
  simp only [update, hfound, hv, hw, hwid, hrow]

/-- A change that leaves the identity alone is written into the row it was read from. -/
theorem WellFormed.update_cases (wf : s.WellFormed) (now : Instant) (reference : String)
    {change : Visit → Except Refusal Visit} (keeps_id : ∀ v w, change v = .ok w → w.id = v.id) :
    (∃ failure, s.update now reference change = (.error failure, s)) ∨
      ∃ r ∈ s.rows, r.reference = reference ∧ ∃ v w, r.visit = .ok v ∧ change v = .ok w ∧
        w.details.columns.Valid ∧
        s.update now reference change = ((r.write w.details.columns now).visit.mapError .store,
          s.writeRow r.id w.details.columns now) := by
  cases hr : s.rowByReference? reference with
  | none => exact .inl ⟨_, update_of_missing hr⟩
  | some r =>
    obtain ⟨hmem, rfl⟩ := wf.rowByReference?_eq_some_iff.1 hr
    cases hv : r.visit with
    | error fault => exact .inl ⟨_, update_of_unreadable hr hv⟩
    | ok v =>
      cases hw : change v with
      | error reason => exact .inl ⟨_, update_of_refused hr hv hw⟩
      | ok w =>
        have hupdate : s.update now r.reference change = _ :=
          wf.update_of_ok hmem hv hw (keeps_id v w hw)
        by_cases hvalid : w.details.columns.Valid
        · rw [if_pos hvalid] at hupdate
          exact .inr ⟨r, hmem, rfl, v, w, hv, hw, hvalid, hupdate⟩
        · rw [if_neg hvalid] at hupdate
          exact .inl ⟨_, hupdate⟩

theorem delete_snd (reference : String) (s : Store) :
    (s.delete reference).2 = s.without [reference] := by
  simp only [delete, without, List.mem_singleton]
  congr 1
  refine List.filter_congr fun r _ => ?_
  by_cases h : r.reference = reference <;> simp [h]

theorem deleteMany_snd (references : List String) (s : Store) :
    (s.deleteMany references).2 = s.without references := by
  induction references generalizing s with
  | nil => simp [deleteMany, without]
  | cons reference references ih =>
    simp only [deleteMany, ih, delete_snd, without, List.filter_filter]
    congr 1
    refine List.filter_congr fun r _ => ?_
    by_cases h : r.reference = reference <;> simp [h]

end Store

end VisitBooking
