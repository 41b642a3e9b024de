import VisitBooking.Proofs.Store.Keyed
import VisitBooking.Service.Basic

/-!
# Revisions

A *revision* is what an update, a change of slot and a cancellation have in common. The three check
a visit in different orders and with different words, but each of them lets a visit through only if
it is neither cancelled nor in the past, and what they make of it is one of two things: an edit of
its parts, or its cancellation.

## Main definitions

* `Operation.revision?`, `Operation.edit?`: the operations that revise, and those of them that edit.
* `Visit.Revision`: a visit before and after a revision.
* `Details.Revised`: the same, as far as status and notes go.

## Main results

* `updateVisit_eq_ok_iff`, `changeVisit_eq_ok_iff`, `cancelVisit_eq_ok_iff`: when a visit is let
  through.
* `Operation.revision_of_eq_ok`: the two things are all.
-/

namespace VisitBooking

open Calendar Reference

/-! ### Checks in a row -/

theorem check_bind_eq_ok_iff {ε α : Type} {check : Except ε Unit} {next : Except ε α} {a : α} :
    (check >>= fun _ => next) = .ok a ↔ check = .ok () ∧ next = .ok a := by
  cases check with
  | error e => simp [bind, Except.bind]
  | ok u => simp [bind, Except.bind]

theorem ite_error_eq_ok_iff {ε : Type} {p : Prop} [Decidable p] {e : ε} :
    (if p then .error e else .ok () : Except ε Unit) = .ok () ↔ ¬ p := by
  by_cases h : p <;> simp [h]

theorem VisitStatus.isTerminal_iff {st : VisitStatus} : st.isTerminal = true ↔ st = .cancelled := by
  cases st <;> simp [isTerminal]

theorem checkNotExpired_eq_ok_iff (now : DateTime) (action : PastAction) (v : Visit) :
    checkNotExpired now action v = .ok () ↔ ¬ v.details.starts.toDateTime < now := by
  rw [checkNotExpired, ite_error_eq_ok_iff, Visit.isExpired, decide_eq_true_iff]

/-- A status that an update asks for is that of the visit, or it books a reserved visit. -/
theorem status_of_checkMove {v : Visit} {next : Option VisitStatus}
    (h : checkMove v next = .ok ()) :
    next.getD v.details.status = v.details.status ∨
      v.details.status = .reserved ∧ next.getD v.details.status = .booked := by
  cases next with
  | none => exact .inl rfl
  | some next =>
    have hcan : v.details.status.canBecome next = true := by
      by_contra hcan
      rw [checkMove, if_neg hcan] at h
      cases h
    revert hcan
    cases v.details.status <;> cases next <;> simp [VisitStatus.canBecome]

/-! ### Revisions -/

theorem applyUpdate_eq_ok_iff {r : UpdateRequest} {v w : Visit} :
    applyUpdate r v = .ok w ↔ checkMove v r.status = .ok () ∧
      checkSlot (r.applyTo v.details) = .ok () ∧ { v with details := r.applyTo v.details } = w := by
  rw [applyUpdate, check_bind_eq_ok_iff, check_bind_eq_ok_iff]
  simp only [pure, Except.pure, Except.ok.injEq]

theorem updateVisit_eq_ok_iff {now : DateTime} {r : UpdateRequest} {v w : Visit} :
    updateVisit now r v = .ok w ↔ v.details.status ≠ .cancelled ∧
      ¬ v.details.starts.toDateTime < now ∧ applyUpdate r v = .ok w := by
  unfold updateVisit
  rw [← VisitStatus.isTerminal_iff.ne, ← checkNotExpired_eq_ok_iff now .changed v,
    ← check_bind_eq_ok_iff]
  split
  · simp [*, bind, Except.bind]
  · simp [*, bind, Except.bind]

theorem changeVisit_eq_ok_iff {now : DateTime} {c : SlotChange} {v w : Visit} :
    changeVisit now c v = .ok w ↔ ¬ v.details.starts.toDateTime < now ∧
      v.details.status = .booked ∧ applyUpdate c.toUpdate v = .ok w := by
  unfold changeVisit
  rw [check_bind_eq_ok_iff, checkNotExpired_eq_ok_iff]
  refine and_congr_right fun _ => ?_
  by_cases h : v.details.status = .booked <;> simp [h, bind, Except.bind]

theorem cancelVisit_eq_ok_iff {now : DateTime} {reason : Option CancelReason} {v w : Visit} :
    cancelVisit now reason v = .ok w ↔ ¬ v.details.starts.toDateTime < now ∧
      v.details.status ≠ .cancelled ∧ ∃ r, reason = some r ∧ v.cancelFor r = w := by
  unfold cancelVisit
  rw [check_bind_eq_ok_iff, checkNotExpired_eq_ok_iff]
  refine and_congr_right fun _ => ?_
  cases reason with
  | none => simp
  | some r =>
    by_cases h : v.details.status = .cancelled
    · simp [h, VisitStatus.isTerminal]
    · simp [h, VisitStatus.isTerminal_iff]

/-- The notes that a reason adds: one if a text is given, be it empty or not. -/
def CancelReason.notes (r : CancelReason) : List Note :=
  r.text.toList.map fun text => ⟨.visitOutcomes, text⟩

/-- What a cancellation makes of a visit. -/
theorem Visit.cancelFor_eq (r : CancelReason) (v : Visit) :
    v.cancelFor r = { v with details := { v.details with
      status := .cancelled
      outcome := some r.outcome
      notes := v.details.notes ++ r.notes } } := by
  unfold cancelFor CancelReason.notes
  cases r.text with
  | none => rw [Option.toList_none, List.map_nil, List.append_nil]; rfl
  | some text => rfl

/-! ### Operations that revise -/

namespace Operation

/-- What an operation makes of the visit with a reference, if it is one that revises. -/
def revision? (now : DateTime) : Operation → Option (String × (Visit → Except Refusal Visit))
  | .update reference r => some (reference, updateVisit now r)
  | .change reference c => some (reference, changeVisit now c)
  | .cancel reference reason => some (reference, cancelVisit now reason)
  | _ => none

/-- The parts that an operation puts in the place of those of a visit. -/
def edit? : Operation → Option UpdateRequest
  | .update _ r => some r
  | .change _ c => some c.toUpdate
  | _ => none

theorem support_of_edit? {op : Operation} {r : UpdateRequest} (h : op.edit? = some r) :
    op.support = r.support.getD [] := by
  cases op <;> cases h <;> rfl

end Operation

/-- A visit before and after an operation on the visits with a reference that revises it at `now`.
-/
inductive Visit.Revision (op : Operation) (reference : String) (now : DateTime) (v : Visit) :
    Visit → Prop where
  /-- Parts of the visit are replaced; its status may move, and its slot stays in order. -/
  | edit (r : UpdateRequest) (hop : op.edit? = some r) (live : v.details.status ≠ .cancelled)
      (current : ¬ v.details.starts.toDateTime < now) (hmove : checkMove v r.status = .ok ())
      (hslot : checkSlot (r.applyTo v.details) = .ok ()) :
      Revision op reference now v { v with details := r.applyTo v.details }
  /-- The visit is cancelled. -/
  | cancellation (reason : CancelReason) (hop : op = .cancel reference (some reason))
      (live : v.details.status ≠ .cancelled) (current : ¬ v.details.starts.toDateTime < now) :
      Revision op reference now v (v.cancelFor reason)

theorem Visit.Revision.id_eq {op : Operation} {reference : String} {now : DateTime} {v w : Visit}
    (h : v.Revision op reference now w) : w.id = v.id := by
  cases h with
  | edit => rfl
  | cancellation reason => rw [cancelFor_eq]

/-- Whatever the order of its checks, an operation that revises a visit edits or cancels it. -/
theorem Operation.revision_of_eq_ok {op : Operation} {now : DateTime} {reference : String}
    {change : Visit → Except Refusal Visit} (hop : op.revision? now = some (reference, change))
    {v w : Visit} (h : change v = .ok w) : v.Revision op reference now w := by
  cases op with
  | update _ r =>
    obtain ⟨rfl, rfl⟩ := Prod.mk.inj (Option.some.inj hop)
    obtain ⟨hlive, hcurrent, happly⟩ := updateVisit_eq_ok_iff.1 h
    obtain ⟨hmove, hslot, rfl⟩ := applyUpdate_eq_ok_iff.1 happly
    exact .edit r rfl hlive hcurrent hmove hslot
  | change _ c =>
    obtain ⟨rfl, rfl⟩ := Prod.mk.inj (Option.some.inj hop)
    obtain ⟨hcurrent, hbooked, happly⟩ := changeVisit_eq_ok_iff.1 h
    obtain ⟨hmove, hslot, rfl⟩ := applyUpdate_eq_ok_iff.1 happly
    exact .edit c.toUpdate rfl (by simp [hbooked]) hcurrent hmove hslot
  | cancel _ reason =>
    obtain ⟨rfl, rfl⟩ := Prod.mk.inj (Option.some.inj hop)
    obtain ⟨hcurrent, hlive, r, rfl, rfl⟩ := cancelVisit_eq_ok_iff.1 h
    exact .cancellation r rfl hlive hcurrent
  | _ => cases hop

/-! ### Status and notes -/

/-- The details of the visit with a reference before and after an operation that revises it at
`now`. -/
structure Details.Revised (op : Operation) (reference : String) (now : DateTime) (d d' : Details) :
    Prop where
  /-- The visit was not cancelled. -/
  live : d.status ≠ .cancelled
  /-- The visit was not in the past. -/
  current : ¬ d.starts.toDateTime < now
  /-- An update leaves the notes alone and may book the visit; a cancellation adds its notes. -/
  edit : (d'.notes = d.notes ∧
      (d'.status = d.status ∨ d.status = .reserved ∧ d'.status = .booked)) ∨
    ∃ reason, op = .cancel reference (some reason) ∧ d'.status = .cancelled ∧
      d'.notes = d.notes ++ reason.notes
  /-- A cancellation cancels. -/
  cancels : ∀ reason, op = .cancel reference reason → d'.status = .cancelled

theorem Visit.Revision.revised {op : Operation} {reference : String} {now : DateTime}
    {v w : Visit} (h : v.Revision op reference now w) :
    v.details.Revised op reference now w.details := by
  cases h with
  | edit r hop live current hmove =>
    rw [r.applyTo_eq]
    refine ⟨live, current, .inl ⟨rfl, status_of_checkMove hmove⟩, ?_⟩
    rintro reason rfl
    cases hop
  | cancellation reason hop live current =>
    rw [v.cancelFor_eq]
    exact ⟨live, current, .inr ⟨reason, hop, rfl, rfl⟩, fun _ _ => rfl⟩

end VisitBooking
