import VisitBooking.Proofs.Service.Reachable

/-!
# Putting a visit in

Nothing is asked of the details of a visit that is put in, and each insert may use a scheme of its
own. So all constraints of the store may be broken here, also the one that no two visits have one
reference: different schemes may make the same reference of different identities. What the
constraints come to is told by `Store.Takes`, in terms of the details and of the next identity.

Whether the store takes a visit does not depend on the clock, and once it has taken it the row can
be looked up by its identity and by its reference. What depends on the clock is whether the row is
read as a visit. The insert reads it for its answer and a lookup reads it for its own, so the three
answers are one: the visit as it was given, or the fault that a time cannot be read.

## Main definitions

* `Store.Takes`: the constraints on a visit to be put in.

## Main results

* `Store.admits_newRow_iff`: these are the constraints.
* `Store.insert_of_takes`, `Store.insert_of_not_takes`: what an insert comes to.
* `Store.findById_add_newRow`, `Store.findByReference_add_newRow`: what is found afterwards.
* `Store.insert_of_reachable`: the headline.
-/

namespace VisitBooking.Store

open Calendar Reference

/-- The store takes a visit with these details, if it makes the reference with this scheme. -/
structure Takes (scheme : Scheme) (d : Details) (s : Store) : Prop where
  /-- The text of the beginning is before that of the end. -/
  slot : d.starts.column < d.ends.column
  persons_nodup : (d.visitors.map Visitor.person).Nodup
  support_nodup : (d.support.map SupportNeed.type).Nodup
  /-- No stored visit has the reference of the next identity. -/
  reference_free : ∀ r ∈ s.rows, r.reference ≠ scheme.encode (s.lastId + 1)

variable {s : Store} {scheme : Scheme} {now : Instant} {d : Details}

theorem admits_newRow_iff : s.Admits (s.newRow scheme now d) ↔ s.Takes scheme d := by
  have hvalid : (s.newRow scheme now d).columns.Valid ↔ _ := Details.valid_columns_iff
  have hfree : (s.rowByReference? (s.newRow scheme now d).reference).isNone ↔ _ :=
    rowByReference?_isNone_iff
  rw [Admits, hvalid, hfree]
  constructor
  · rintro ⟨⟨hslot, hpersons, hsupport⟩, hreference⟩
    exact ⟨hslot, hpersons, hsupport, hreference⟩
  · rintro ⟨hslot, hpersons, hsupport, hreference⟩
    exact ⟨⟨hslot, hpersons, hsupport⟩, hreference⟩

instance (scheme : Scheme) (d : Details) (s : Store) : Decidable (s.Takes scheme d) :=
  decidable_of_iff (s.Admits (s.newRow scheme default d)) admits_newRow_iff

theorem insert_of_takes (h : s.Takes scheme d) (now : Instant) :
    s.insert scheme now d = ((s.newRow scheme now d).visit, s.add (s.newRow scheme now d)) :=
  insert_of_admits (admits_newRow_iff.2 h)

theorem insert_of_not_takes (h : ¬ s.Takes scheme d) (now : Instant) :
    s.insert scheme now d = (.error .constraint, s) :=
  insert_of_not_admits (mt admits_newRow_iff.1 h)

/-! ### Looking the visit up -/

section Lookup

variable (wf : s.WellFormed) (h : s.Takes scheme d)

include wf h

theorem wellFormed_add_newRow (now : Instant) : (s.add (s.newRow scheme now d)).WellFormed :=
  wf.add (admits_newRow_iff.2 h)

theorem findById_add_newRow (now : Instant) :
    (s.add (s.newRow scheme now d)).findById (s.lastId + 1 : Nat) =
      (s.newRow scheme now d).visit.map some := by
  have hrow : (s.add (s.newRow scheme now d)).rowById? (s.lastId + 1 : Nat) =
      some (s.newRow scheme now d) :=
    (wellFormed_add_newRow wf h now).rowById?_eq_some_iff.2 ⟨mem_add.2 (.inr rfl), rfl⟩
  rw [findById, hrow, readRow]

theorem findByReference_add_newRow (now : Instant) :
    (s.add (s.newRow scheme now d)).findByReference (scheme.encode (s.lastId + 1)) =
      (s.newRow scheme now d).visit.map some := by
  have hrow : (s.add (s.newRow scheme now d)).rowByReference? (scheme.encode (s.lastId + 1)) =
      some (s.newRow scheme now d) :=
    (wellFormed_add_newRow wf h now).rowByReference?_eq_some_iff.2 ⟨mem_add.2 (.inr rfl), rfl⟩
  rw [findByReference, hrow, readRow]

end Lookup

/-! ### The headline -/

/-- **What can be put in, and what is found afterwards.** In a store that can be reached, with any
scheme and any details, an insert succeeds just if the store takes the visit and the clock shows a
year of four digits. If the store does not take it, nothing changes. If it does, there is one row
more and the next identity is given out, and lookups by identity and by reference find what the
insert has answered: the visit as it was given, with both its instants that of the insert, or in any
other year that a time cannot be read. -/
theorem insert_of_reachable (hs : s.Reachable) (scheme : Scheme) (now : Instant) (d : Details) :
    let v : Visit := ⟨(s.lastId + 1 : Nat), scheme.encode (s.lastId + 1), d, now, now⟩
    let s' := s.add (s.newRow scheme now d)
    ((s.insert scheme now d).1.isOk ↔ s.Takes scheme d ∧ now.HasPlainYear) ∧
    (¬ s.Takes scheme d → s.insert scheme now d = (.error .constraint, s)) ∧
    (s.Takes scheme d → now.HasPlainYear →
      s.insert scheme now d = (.ok v, s') ∧ s'.findById v.id = .ok (some v) ∧
        s'.findByReference v.reference = .ok (some v)) ∧
    (s.Takes scheme d → ¬ now.HasPlainYear →
      s.insert scheme now d = (.error .unreadableTime, s') ∧
        s'.findById v.id = .error .unreadableTime ∧
        s'.findByReference v.reference = .error .unreadableTime) := by
  intro v s'
  have hrefused : ¬ s.Takes scheme d → s.insert scheme now d = (.error .constraint, s) :=
    fun htakes => insert_of_not_takes htakes now
  have htaken : s.Takes scheme d → ∀ answer, (s.newRow scheme now d).visit = answer →
      s.insert scheme now d = (answer, s') ∧ s'.findById v.id = answer.map some ∧
        s'.findByReference v.reference = answer.map some := by
    rintro htakes answer rfl
    exact ⟨insert_of_takes htakes now, findById_add_newRow hs.wellFormed htakes now,
      findByReference_add_newRow hs.wellFormed htakes now⟩
  refine ⟨?_, hrefused, fun htakes hnow => htaken htakes (.ok v) (visit_newRow hnow d),
    fun htakes hnow => htaken htakes (.error .unreadableTime) (visit_newRow_eq_error hnow d)⟩
  by_cases htakes : s.Takes scheme d
  · by_cases hnow : now.HasPlainYear
    · rw [(htaken htakes _ (visit_newRow hnow d)).1]
      exact iff_of_true rfl ⟨htakes, hnow⟩
    · rw [(htaken htakes _ (visit_newRow_eq_error hnow d)).1]
      exact iff_of_false Bool.false_ne_true fun h => hnow h.2
  · rw [hrefused htakes]
    exact iff_of_false Bool.false_ne_true fun h => htakes h.1

/-- A scheme with these symbols that writes each identity as briefly as it can. -/
def briefScheme (alphabet : List Char) (htwo : 2 ≤ alphabet.length) (hnodup : alphabet.Nodup) :
    Scheme where
  alphabet := alphabet
  minLength := 1
  chunkSize := 1
  delimiter := none
  two_le_length := htwo
  nodup := hnodup
  minLength_pos := Nat.one_pos
  chunkSize_pos := Nat.one_pos
  delimiter_not_mem := nofun

/-- After an insert with a scheme of two symbols, one of three symbols makes a reference that is not
free, and the next identity is not used up. The visit has a note twice. -/
theorem insert_of_reachable_codecs :
    let two : Scheme := briefScheme ['a', 'b'] (by decide) (by decide)
    let three : Scheme := briefScheme ['a', 'b', 'c'] (by decide) (by decide)
    let ends : LocalTime := ⟨⟨⟨1970, 1, 2, by decide⟩, default⟩, by decide⟩
    let d : Details := { (default : Details) with ends, notes := [default, default] }
    let s := (Command.insert two default d).apply .empty
    let v := s.newVisit two default d
    let s' := s.add (s.newRow two default d)
    s.Reachable ∧ (v.id = 2 ∧ three.encode 2 = two.encode 1) ∧
      s.insert three default d = (.error .constraint, s) ∧
      s.insert two default d = (.ok v, s') ∧ s'.findById v.id = .ok (some v) ∧
      s'.findByReference v.reference = .ok (some v) := by
  intro two three ends d s v s'
  have hs : s.Reachable := .command .empty (.insert two default d)
  obtain ⟨-, hrefused, -, -⟩ := insert_of_reachable hs three default d
  obtain ⟨-, -, htaken, -⟩ := insert_of_reachable hs two default d
  exact ⟨hs, by decide +kernel, hrefused (by decide +kernel),
    htaken (by decide +kernel) (by decide +kernel)⟩

/-- An insert in the year 10000 breaks no constraint and fails, and the row is there afterwards. -/
theorem insert_fails_in_year_10000 :
    let ends : LocalTime := ⟨⟨⟨1970, 1, 2, by decide⟩, default⟩, by decide⟩
    let d : Details := { (default : Details) with ends }
    let late : Instant := ⟨⟨⟨10000, 1, 1, by decide⟩, default⟩, by decide⟩
    Reachable .empty ∧ empty.Takes .standard d ∧ ¬ (empty.insert .standard late d).1.isOk ∧
      (empty.insert .standard late d).2 ≠ empty := by
  intro ends d late
  exact ⟨.empty, by decide +kernel⟩

end VisitBooking.Store
