import Mathlib.Data.Finset.Card
import VisitBooking.Proofs.Service.Reachable

/-!
# Deleting visits

A list of references is deleted one reference after the other, from a store that shrinks on the way.
What is left does not depend on the way: it is the store without the rows of the listed references.
Neither does the count. A reference is counted when its row is taken out, and then no row has it any
more, so however often it is listed it is counted once, wherever in the list that happens; and a
reference that no row has is not counted at all. So the count is the size of a finite set, that of
the listed references that are stored, and this set knows neither order nor repetition.

## Main definitions

* `Store.found`: the listed references that are stored.
* `Store.deleteEach`: one deletion for each reference.

## Main results

* `Store.deleteMany_eq`: what a deletion comes to, by this set.
* `Store.deleteEach_eq`: single deletions come to the same.
* `Store.WellFormed.length_without`: what is left and what is counted make up what there was.
* `Store.deleteMany_of_reachable`: the headline.
-/

namespace VisitBooking.Store

open Calendar

variable {s : Store} {reference : String} {references references' : List String}

/-- The listed references under which a visit is stored. -/
def found (references : List String) (s : Store) : Finset String :=
  references.toFinset.filter fun reference => ∃ r ∈ s.rows, r.reference = reference

theorem mem_found_iff :
    reference ∈ s.found references ↔
      reference ∈ references ∧ ∃ r ∈ s.rows, r.reference = reference := by
  rw [found, Finset.mem_filter, List.mem_toFinset]

/-- Only which references are listed is of account. -/
theorem found_congr (h : ∀ reference, reference ∈ references' ↔ reference ∈ references)
    (s : Store) : s.found references' = s.found references := by
  ext reference
  rw [mem_found_iff, mem_found_iff, h]

theorem without_congr (h : ∀ reference, reference ∈ references' ↔ reference ∈ references)
    (s : Store) : s.without references' = s.without references := by
  simp only [without, h]

/-- No row has a reference that was taken out. -/
theorem mem_found_without_iff {deleted : List String} :
    reference ∈ (s.without deleted).found references ↔
      reference ∉ deleted ∧ reference ∈ s.found references := by
  simp only [mem_found_iff, without, List.mem_filter, decide_eq_true_eq]
  constructor
  · rintro ⟨hlisted, r, ⟨hr, hkept⟩, rfl⟩
    exact ⟨hkept, hlisted, r, hr, rfl⟩
  · rintro ⟨hkept, hlisted, r, hr, rfl⟩
    exact ⟨hlisted, r, ⟨hr, hkept⟩, rfl⟩

theorem without_without_self :
    (s.without references).without references = s.without references := by
  simp only [without, List.filter_filter, Bool.and_self]

theorem found_without_self : (s.without references).found references = ∅ := by
  refine Finset.eq_empty_of_forall_notMem fun reference hmem => ?_
  obtain ⟨hkept, hfound⟩ := mem_found_without_iff.1 hmem
  exact hkept (mem_found_iff.1 hfound).1

/-! ### One reference -/

theorem delete_fst_iff : (s.delete reference).1 = true ↔ ∃ r ∈ s.rows, r.reference = reference := by
  have hmissing : (s.rowByReference? reference).isNone ↔ ∀ r ∈ s.rows, r.reference ≠ reference :=
    rowByReference?_isNone_iff
  simpa [delete, Option.isSome_iff_ne_none] using hmissing.not

/-- A reference that is stored counts once, and what is counted after it is counted without it. -/
theorem found_cons_of_mem (h : ∃ r ∈ s.rows, r.reference = reference) :
    s.found (reference :: references) =
      Insert.insert reference ((s.without [reference]).found references) := by
  ext x
  rw [Finset.mem_insert, mem_found_without_iff, mem_found_iff, mem_found_iff, List.mem_cons]
  by_cases hx : x = reference
  · simp [hx, h]
  · simp [hx]

theorem found_cons_of_not_mem (h : ¬ ∃ r ∈ s.rows, r.reference = reference) :
    s.found (reference :: references) = (s.without [reference]).found references := by
  ext x
  rw [mem_found_without_iff, mem_found_iff, mem_found_iff, List.mem_cons]
  by_cases hx : x = reference
  · simp [hx, h]
  · simp [hx]

theorem card_found_cons :
    (s.found (reference :: references)).card =
      (if (s.delete reference).1 then 1 else 0) +
        ((s.without [reference]).found references).card := by
  split <;> rename_i hstored <;> rw [delete_fst_iff] at hstored
  · have hnew : reference ∉ (s.without [reference]).found references := fun hmem =>
      (mem_found_without_iff.1 hmem).1 (List.mem_singleton_self reference)
    rw [found_cons_of_mem hstored, Finset.card_insert_of_notMem hnew, Nat.add_comm]
  · rw [found_cons_of_not_mem hstored, Nat.zero_add]

/-! ### A list of references -/

/-- The count of a deletion is the number of references that were listed and stored. -/
theorem deleteMany_fst (references : List String) (s : Store) :
    (s.deleteMany references).1 = (s.found references).card := by
  induction references generalizing s with
  | nil => rfl
  | cons reference references ih =>
    simp only [deleteMany, ih, delete_snd]
    exact card_found_cons.symm

theorem deleteMany_eq (references : List String) (s : Store) :
    s.deleteMany references = ((s.found references).card, s.without references) :=
  Prod.ext (deleteMany_fst references s) (deleteMany_snd references s)

/-- Delete references one at a time, and collect the answers. -/
def deleteEach (references : List String) : StateM Store (List Bool) :=
  references.mapM fun reference => (delete reference : StateM Store Bool)

theorem deleteEach_cons (reference : String) (references : List String) (s : Store) :
    (deleteEach (reference :: references)).run s =
      ((s.delete reference).1 :: ((deleteEach references).run (s.delete reference).2).1,
        ((deleteEach references).run (s.delete reference).2).2) := by
  rw [deleteEach, List.mapM_cons]
  rfl

theorem deleteEach_eq (references : List String) (s : Store) :
    ((deleteEach references).run s).1.count true = (s.found references).card ∧
      ((deleteEach references).run s).2 = s.without references := by
  induction references generalizing s with
  | nil => exact ⟨rfl, (without_nil s).symm⟩
  | cons reference references ih =>
    rw [deleteEach_cons]
    obtain ⟨hcount, hstore⟩ := ih (s.delete reference).2
    refine ⟨?_, ?_⟩
    · rw [List.count_cons, hcount, delete_snd, card_found_cons, Nat.add_comm, beq_true]
    · rw [hstore, ← deleteMany_snd, ← deleteMany_snd]
      rfl

/-- In a well-formed store each of the counted references had one row. -/
theorem WellFormed.length_without (wf : s.WellFormed) (references : List String) :
    (s.without references).rows.length + (s.found references).card = s.rows.length := by
  let taken := s.rows.filter fun r => !decide (r.reference ∉ references)
  have hnodup : (taken.map Row.reference).Nodup :=
    wf.references_nodup.sublist (List.filter_sublist.map _)
  have hfound : s.found references = (taken.map Row.reference).toFinset := by
    ext reference
    rw [mem_found_iff, List.mem_toFinset, List.mem_map]
    constructor
    · rintro ⟨hlisted, r, hr, rfl⟩
      exact ⟨r, List.mem_filter.2 ⟨hr, by simpa using hlisted⟩, rfl⟩
    · rintro ⟨r, hr, rfl⟩
      obtain ⟨hr, hlisted⟩ := List.mem_filter.1 hr
      exact ⟨by simpa using hlisted, r, hr, rfl⟩
  rw [hfound, List.toFinset_card_of_nodup hnodup, List.length_map, Store.without]
  exact (List.length_eq_length_filter_add _).symm

/-! ### The headline -/

/-- **What is deleted does not depend on how.** Deleting listed references from a store that can be
reached counts the distinct ones among them that were stored, and leaves just the rows whose
reference is not listed, as they were; each counted reference had one row. Any list with the same
members, so also the list in another order or with more or fewer repetitions, gives the same, and so
do single deletions of which those are counted that found something. Deleting the same list again
counts nothing and changes nothing. The service answers with this count and leaves this store. -/
theorem deleteMany_of_reachable (hs : s.Reachable) (references : List String) :
    let n := (s.deleteMany references).1
    let s' := (s.deleteMany references).2
    n = (references.toFinset.filter fun reference => ∃ r ∈ s.rows, r.reference = reference).card ∧
    s' = { s with rows := s.rows.filter fun r => r.reference ∉ references } ∧
    (∀ v, v ∈ s' ↔ v ∈ s ∧ v.reference ∉ references) ∧
    s'.rows.length + n = s.rows.length ∧
    (∀ references', (∀ reference, reference ∈ references' ↔ reference ∈ references) →
      s.deleteMany references' = (n, s')) ∧
    (((deleteEach references).run s).1.count true = n ∧
      ((deleteEach references).run s).2 = s') ∧
    s'.deleteMany references = (0, s') ∧
    ∀ (svc : Service) (c : Call), c.operation = .deleteMany references →
      (svc.report c s).result = .ok (.deletedCount n) ∧ svc.next c s = s' := by
  simp only [deleteMany_eq]
  have wf : s.WellFormed := hs.wellFormed
  refine ⟨rfl, rfl, fun v => wf.mem_without_iff, wf.length_without references, ?_,
    deleteEach_eq references s, ?_, ?_⟩
  · intro references' hsame
    rw [found_congr hsame, without_congr hsame]
  · rw [found_without_self, without_without_self]
    rfl
  · rintro svc ⟨readings, verdict, _⟩ rfl
    rw [← deleteMany_fst, ← deleteMany_snd]
    exact ⟨rfl, rfl⟩

/-- Of three visits the last one and the first one are listed, the last one twice, and also a
reference that nothing is stored under. -/
theorem deleteMany_of_reachable_repeated :
    let svc : Service := default
    let ends : LocalTime := ⟨⟨⟨1970, 1, 2, by decide⟩, default⟩, by decide⟩
    let create : Call :=
      ⟨default, .accepted "", .create { (default : CreateRequest) with ends }⟩
    let s := svc.after [create, create, create] .empty
    let third := svc.codec.encode 3
    let references := [third, "", svc.codec.encode 1, third]
    s.Reachable ∧
      ((s.deleteMany references).1 = 2 ∧ (s.deleteMany references).2.rows.map Row.id = [2] ∧
        ((deleteEach references).run s).1 = [true, false, true, false]) ∧
      s.deleteMany references.reverse = s.deleteMany references ∧
      (s.deleteMany references).2.deleteMany references = (0, (s.deleteMany references).2) := by
  intro svc ends create s third references
  have hs : s.Reachable := .call (.call (.call .empty svc create) svc create) svc create
  obtain ⟨-, -, -, -, hsame, -, hagain, -⟩ := deleteMany_of_reachable hs references
  have hreverse : ∀ reference, reference ∈ references.reverse ↔ reference ∈ references :=
    fun reference => List.mem_reverse
  exact ⟨hs, by decide +kernel, hsame references.reverse hreverse, hagain⟩

end VisitBooking.Store
