import VisitBooking.Proofs.Reference.RoundTrip
import VisitBooking.Proofs.Store.WellFormed

/-!
# Stores under one codec

If every insert uses the same codec, then the reference of each stored visit is what the codec makes
of its identity. References of different identities differ, so the next reference is always free,
and a reference whose identity was given out never comes up for another one.

## Main definitions

* `Store.Keyed`: a well-formed store whose references are those of one codec.

## Main results

* `Store.Keyed.add`, `.writeRow`, `.without`: the writes keep it.
* `Store.Keyed.admits_iff`: no insert fails because of its reference.
* `Store.Keyed.decode_reference`: references are decoded to identities.
-/

namespace VisitBooking.Store

open Calendar Reference

/-- The reference of each row is the one that the codec makes of its identity. -/
structure Keyed (codec : Codec) (s : Store) : Prop extends s.WellFormed where
  reference_eq : ∀ r ∈ s.rows, ∃ n : Nat, n ≤ s.lastId ∧ r.id = n ∧ r.reference = codec.encode n

variable {codec : Codec} {s : Store}

theorem keyed_empty (codec : Codec) : Keyed codec .empty where
  toWellFormed := wellFormed_empty
  reference_eq := by simp [empty]

/-! ### Writes -/

theorem Keyed.writeRow (hs : s.Keyed codec) (id : Int) (d : Details) (now : Instant) :
    (s.writeRow id d.columns now).Keyed codec where
  toWellFormed := hs.toWellFormed.writeRow id d now
  reference_eq r hr := by
    rcases mem_writeRow.1 hr with ⟨hr, -⟩ | ⟨old, hold, -, rfl⟩
    · exact hs.reference_eq r hr
    · exact hs.reference_eq old hold

theorem Keyed.without (hs : s.Keyed codec) (references : List String) :
    (s.without references).Keyed codec where
  toWellFormed := hs.toWellFormed.without references
  reference_eq r hr := hs.reference_eq r (List.mem_filter.1 hr).1

theorem Keyed.add (hs : s.Keyed codec) {now : Instant} {d : Details}
    (h : s.Admits (s.newRow codec now d)) : (s.add (s.newRow codec now d)).Keyed codec where
  toWellFormed := hs.toWellFormed.add h
  reference_eq r hr := by
    rcases mem_add.1 hr with hr | rfl
    · obtain ⟨n, hn, hid, href⟩ := hs.reference_eq r hr
      exact ⟨n, Nat.le_succ_of_le hn, hid, href⟩
    · exact ⟨s.lastId + 1, Nat.le_refl _, rfl, rfl⟩

/-! ### References -/

/-- The next reference differs from all that were given out. -/
theorem encode_ne_encode_next {n : Nat} (hn : n ≤ s.lastId) :
    codec.encode (s.lastId + 1) ≠ codec.encode n := by
  intro h
  have heq : s.lastId + 1 = n := codec.encode_injective h
  omega

/-- No insert fails because of its reference. -/
theorem Keyed.admits_iff (hs : s.Keyed codec) (now : Instant) (d : Details) :
    s.Admits (s.newRow codec now d) ↔ d.columns.Valid := by
  refine ⟨And.left, fun hvalid => ⟨hvalid, rowByReference?_isNone_iff.2 fun r hr heq => ?_⟩⟩
  obtain ⟨n, hn, -, href⟩ := hs.reference_eq r hr
  exact encode_ne_encode_next hn (heq.symm.trans href)

/-- A reference is decoded to the identity of its visit. -/
theorem Keyed.decode_reference (hs : s.Keyed codec) {r : Row} (hr : r ∈ s.rows) (n : Nat) :
    codec.decode r.reference = .ok n ↔ r.id = n ∧ n < identityBound := by
  obtain ⟨k, -, hid, href⟩ := hs.reference_eq r hr
  rw [codec.decode_eq_ok_iff, href, codec.encode_injective.eq_iff, hid, and_comm, eq_comm,
    Int.ofNat_inj]

end VisitBooking.Store
