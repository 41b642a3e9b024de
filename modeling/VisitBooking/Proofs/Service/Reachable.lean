import VisitBooking.Proofs.Service.Contents
import VisitBooking.Proofs.Store.Command

/-!
# Stores that can be reached

A store is reached from the empty one by calls and by commands, in any order. The calls need not be
of one service, so codec and zone may change on the way, and an update among the commands may do
anything to its visit. Nothing is asked of the clocks, so there may be rows that cannot be read.

Only two kinds of write bring about a row that was not there before: a row is put in that the store
admits, or columns that meet the constraints are written into a row. So a property of every row in
every such store is a matter of these two.

## Main definitions

* `Store.Reachable`.

## Main results

* `Store.Reachable.wellFormed`, `.catalog_eq`.
* `Store.Reachable.forall_row`: the induction, for a property of rows.
* `Store.Reachable.valid_of_mem`: the constraints on a row hold of every stored visit.
* `Store.Reachable.modified_eq_column`: what a save compares is what is stored.
-/

namespace VisitBooking.Store

open Calendar

/-- A store that any commands and any calls, of any services, lead to. -/
inductive Reachable : Store → Prop where
  | empty : Reachable .empty
  | command {s : Store} (h : s.Reachable) (c : Command) : Reachable (c.apply s)
  | call {s : Store} (h : s.Reachable) (svc : Service) (c : Call) : Reachable (svc.next c s)

/-- What a command comes to, whatever the clock shows. What it writes meets the constraints on a row
by itself. -/
theorem Command.apply_cases (c : Command) (s : Store) :
    c.apply s = s ∨
      (∃ codec now d, s.Admits (s.newRow codec now d) ∧
        c.apply s = s.add (s.newRow codec now d)) ∨
      (∃ (id : Int) (d : Details) (now : Instant), d.columns.Valid ∧
        c.apply s = s.writeRow id d.columns now) ∨
      (∃ references, c.apply s = s.without references) ∨ c.apply s = s.reopen := by
  cases c with
  | insert codec now d =>
    by_cases hadmits : s.Admits (s.newRow codec now d)
    · exact .inr (.inl ⟨codec, now, d, hadmits, congrArg Prod.snd (insert_of_admits hadmits)⟩)
    · exact .inl (congrArg Prod.snd (insert_of_not_admits hadmits))
  | save now v =>
    rcases save_cases now v s with ⟨fault, hsave⟩ | ⟨r, -, hvalid, hsave⟩
    · exact .inl (congrArg Prod.snd hsave)
    · exact .inr (.inr (.inl ⟨v.id, v.details, now, hvalid, congrArg Prod.snd hsave⟩))
  | update now reference change =>
    rcases update_cases now reference change s with
      ⟨failure, hupdate⟩ | ⟨r, -, d, hvalid, hupdate⟩
    · exact .inl (congrArg Prod.snd hupdate)
    · exact .inr (.inr (.inl ⟨r.id, d, now, hvalid, congrArg Prod.snd hupdate⟩))
  | delete reference => exact .inr (.inr (.inr (.inl ⟨[reference], delete_snd reference s⟩)))
  | deleteMany references =>
    exact .inr (.inr (.inr (.inl ⟨references, deleteMany_snd references s⟩)))
  | reopen => exact .inr (.inr (.inr (.inr rfl)))
  | findByReference | findById | findAll => exact .inl rfl

variable {s : Store}

theorem Reachable.wellFormed (h : s.Reachable) : s.WellFormed := by
  induction h with
  | empty => exact wellFormed_empty
  | @command s _ c ih =>
    rcases c.apply_cases s with h | ⟨codec, now, d, hadmits, h⟩ | ⟨id, d, now, -, h⟩ |
      ⟨references, h⟩ | h
    · rwa [h]
    · exact h ▸ ih.add hadmits
    · exact h ▸ ih.writeRow id d now
    · exact h ▸ ih.without references
    · exact h ▸ ih.reopen
  | @call s _ svc c ih => exact (svc.step_next ih c).wellFormed ih

/-- Opening a store again finds the catalog complete. -/
theorem Reachable.catalog_eq (h : s.Reachable) : s.catalog = SupportType.all := by
  induction h with
  | empty => exact SupportType.seeded_nil
  | @command s _ c ih =>
    rcases c.apply_cases s with h | ⟨codec, now, d, -, h⟩ | ⟨id, d, now, -, h⟩ | ⟨references, h⟩ | h
    · rwa [h]
    · rwa [h]
    · rwa [h]
    · rwa [h]
    · rw [h, reopen, ih, SupportType.seeded_all]
  | @call s hs svc c ih => exact (svc.step_next hs.wellFormed c).catalog_eq.trans ih

/-- What holds of a row that the store admits, and what writing columns that meet the constraints
does not break, holds of every row that can come about. -/
theorem Reachable.forall_row {P : Row → Prop}
    (new : ∀ (s : Store) codec now d, s.Admits (s.newRow codec now d) → P (s.newRow codec now d))
    (write : ∀ (r : Row) (d : Details) now, P r → d.columns.Valid → P (r.write d.columns now))
    (h : s.Reachable) : ∀ r ∈ s.rows, P r := by
  induction h with
  | empty => exact nofun
  | @command s _ c ih =>
    rcases c.apply_cases s with h | ⟨codec, now, d, hadmits, h⟩ | ⟨id, d, now, hvalid, h⟩ |
      ⟨references, h⟩ | h
    · rwa [h]
    · rw [h]
      intro r hr
      rcases mem_add.1 hr with hr | rfl
      · exact ih r hr
      · exact new s codec now d hadmits
    · rw [h]
      intro r hr
      rcases mem_writeRow.1 hr with ⟨hr, -⟩ | ⟨old, hold, -, rfl⟩
      · exact ih r hr
      · exact write old d now (ih old hold) hvalid
    · rw [h]
      exact fun r hr => ih r (List.mem_filter.1 hr).1
    · rw [h]
      exact ih
  | @call s hs svc c ih =>
    intro r hr
    have hperformed := svc.performed hs.wellFormed c.readings c.operation
    change r ∈ (svc.perform c.readings c.operation s).2.rows at hr
    generalize (svc.perform c.readings c.operation s).2 = s' at hperformed hr
    rcases hperformed.mem_or_commits hs.wellFormed hr with hold | hcommits
    · exact ih r hold
    · cases hcommits with
      | insertion d _ _ hadmits => exact new s svc.codec c.readings.write d hadmits
      | revision old hold _ _ _ _ w _ _ hvalid =>
        exact write old w.details c.readings.write (ih old hold) hvalid

/-- The constraints on a row by itself hold of every row that can come about: whatever writes a row
checks them. -/
theorem Reachable.valid (hs : s.Reachable) : ∀ r ∈ s.rows, r.columns.Valid :=
  hs.forall_row (fun _ _ _ _ hadmits => hadmits.1) fun _ _ _ _ hvalid => hvalid

/-- The columns of a stored visit meet the constraints. -/
theorem Reachable.valid_of_mem (hs : s.Reachable) {v : Visit} (hv : v ∈ s) :
    v.details.columns.Valid := by
  obtain ⟨r, hr, hrv⟩ := hv
  rw [← hs.wellFormed.visit_columns hr hrv]
  exact hs.valid r hr

/-- The instant of the last write that is read from a row is the one that was written, so its column
is the one that is stored. -/
theorem Reachable.modified_eq_column (hs : s.Reachable) {r : Row} (hr : r ∈ s.rows) {v : Visit}
    (hv : r.visit = .ok v) : r.modified = v.modified.column := by
  have hwritten : ∀ r ∈ s.rows, ∃ t : Instant, r.modified = t.column :=
    hs.forall_row (fun _ _ now _ _ => ⟨now, rfl⟩) fun _ _ now _ _ => ⟨now, rfl⟩
  obtain ⟨t, ht⟩ := hwritten r hr
  obtain ⟨-, -, -, -, hmodified⟩ :=
    (Row.visit_eq_ok_iff (hs.wellFormed.visit_columns hr hv)).1 hv
  rw [ht] at hmodified ⊢
  rw [eq_of_readInstant_column hmodified]

end VisitBooking.Store
