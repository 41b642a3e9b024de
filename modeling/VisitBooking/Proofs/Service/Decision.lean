import VisitBooking.Proofs.Service.Reachable

/-!
# How a call on one visit is decided

Three operations revise a stored visit: an update, a change of slot and a cancellation. Each of them
has its own checks in its own order, and more than one of them may fail at once. What counts is the
first. So the checks of an operation are told here as a table of *obstacles*, and one statement per
operation says that it decides by its table: it is refused with the first obstacle that holds, and
if none does, it makes of the visit what it is meant to make of it.

A table speaks of a visit. Before it come the support that is asked for, which is looked up in the
catalog, and the question whether there is such a visit. After it comes the store, which takes what
it gets if the columns meet its constraints. In a store that can be reached every row does.

## Main definitions

* `Obstacle`, `FirstObstacle`, `Clear`, `Decides`: tables of checks, and deciding by one.
* `supportObstacles`, `UpdateRequest.obstacles`, `SlotChange.obstacles`, `cancelObstacles`: the
  tables.
* `Service.Declines`: a call fails and leaves nothing behind.
* `Service.Rewrites`: a call writes a visit again.

## Main results

* `decides_updateVisit`, `decides_changeVisit`, `decides_cancelVisit`: what the tables are for.
* `Service.declines_of_unknownSupport`, `.declines_of_missing`, `.declines_of_unreadable`,
  `.declines_of_obstacle`: the failures of a call, from the first to the last.
* `Service.rewrites_of_ok`: what it does otherwise.
-/

namespace VisitBooking

open Calendar Reference

/-! ### Deciding by a table -/

/-- Something that may stand in the way of a request, and the rule that it breaks if it does. -/
structure Obstacle where
  holds : Prop
  refusal : Refusal

/-- The rule that is broken by the first of the obstacles that hold. -/
inductive FirstObstacle : List Obstacle → Refusal → Prop where
  | here {o : Obstacle} {rest : List Obstacle} (h : o.holds) : FirstObstacle (o :: rest) o.refusal
  | later {o : Obstacle} {rest : List Obstacle} {reason : Refusal} (h : ¬ o.holds)
      (hrest : FirstObstacle rest reason) : FirstObstacle (o :: rest) reason

/-- None of the obstacles holds. -/
def Clear (obstacles : List Obstacle) : Prop := ∀ o ∈ obstacles, ¬ o.holds

/-- A computation is refused with the first obstacle that holds, and comes to `a` if none does. -/
structure Decides {α : Type} (obstacles : List Obstacle) (x : Except Refusal α) (a : α) :
    Prop where
  refused : ∀ reason, FirstObstacle obstacles reason → x = .error reason
  accepted : Clear obstacles → x = .ok a

section Tables

variable {α : Type} {a : α} {o : Obstacle} {obstacles rest : List Obstacle} {reason : Refusal}

@[simp] theorem clear_nil : Clear [] := fun _ ho => absurd ho List.not_mem_nil

@[simp] theorem clear_cons_iff : Clear (o :: rest) ↔ ¬ o.holds ∧ Clear rest := List.forall_mem_cons

/-- A table has a first obstacle that holds, or none. -/
theorem exists_firstObstacle_or_clear (obstacles : List Obstacle) :
    (∃ reason, FirstObstacle obstacles reason) ∨ Clear obstacles := by
  induction obstacles with
  | nil => exact .inr clear_nil
  | cons o rest ih =>
    by_cases ho : o.holds
    · exact .inl ⟨o.refusal, .here ho⟩
    · rcases ih with ⟨reason, hfirst⟩ | hclear
      · exact .inl ⟨reason, .later ho hfirst⟩
      · exact .inr (clear_cons_iff.2 ⟨ho, hclear⟩)

/-- The first obstacle of two tables is that of the first one, unless this one is clear. -/
theorem FirstObstacle.of_append (h : FirstObstacle (obstacles ++ rest) reason) :
    FirstObstacle obstacles reason ∨ Clear obstacles ∧ FirstObstacle rest reason := by
  induction obstacles with
  | nil => exact .inr ⟨clear_nil, h⟩
  | cons o obstacles ih =>
    cases h with
    | here ho => exact .inl (.here ho)
    | later ho h =>
      rcases ih h with hfirst | ⟨hclear, hrest⟩
      · exact .inl (.later ho hfirst)
      · exact .inr ⟨clear_cons_iff.2 ⟨ho, hclear⟩, hrest⟩

/-- The first obstacle is one of them. -/
theorem FirstObstacle.exists_mem (h : FirstObstacle obstacles reason) :
    ∃ o ∈ obstacles, o.holds ∧ o.refusal = reason := by
  induction h with
  | here ho => exact ⟨_, List.mem_cons_self .., ho, rfl⟩
  | later _ _ ih =>
    obtain ⟨o, ho, hholds⟩ := ih
    exact ⟨o, List.mem_cons_of_mem _ ho, hholds⟩

theorem decides_ok (a : α) : Decides [] (.ok a) a where
  refused _ hfirst := by cases hfirst
  accepted _ := rfl

theorem Decides.cons {x : Except Refusal α} (hrefused : o.holds → x = .error o.refusal)
    (hrest : ¬ o.holds → Decides rest x a) : Decides (o :: rest) x a where
  refused reason hfirst := by
    cases hfirst with
    | here ho => exact hrefused ho
    | later ho hfirst => exact (hrest ho).refused reason hfirst
  accepted hclear := by
    obtain ⟨ho, hclear⟩ := clear_cons_iff.1 hclear
    exact (hrest ho).accepted hclear

/-- A computation that comes to something was accepted. -/
theorem Decides.clear_of_eq_ok {x : Except Refusal α} {b : α} (h : Decides obstacles x a)
    (hx : x = .ok b) : Clear obstacles ∧ b = a := by
  rcases exists_firstObstacle_or_clear obstacles with ⟨reason, hfirst⟩ | hclear
  · cases (h.refused reason hfirst).symm.trans hx
  · exact ⟨hclear, Except.ok.inj (hx.symm.trans (h.accepted hclear))⟩

/-- A computation that is refused was refused by one of the obstacles. -/
theorem Decides.exists_of_eq_error {x : Except Refusal α} (h : Decides obstacles x a)
    (hx : x = .error reason) : ∃ o ∈ obstacles, o.holds ∧ o.refusal = reason := by
  rcases exists_firstObstacle_or_clear obstacles with ⟨reason', hfirst⟩ | hclear
  · obtain rfl : reason = reason' := Except.error.inj (hx.symm.trans (h.refused reason' hfirst))
    exact hfirst.exists_mem
  · cases hx.symm.trans (h.accepted hclear)

/-- Checks in a row decide by their tables in a row. -/
theorem Decides.bind {check : Except Refusal Unit} {next : Except Refusal α}
    (hcheck : Decides obstacles check ()) (hnext : Decides rest next a) :
    Decides (obstacles ++ rest) (check >>= fun _ => next) a where
  refused reason hfirst := by
    rcases hfirst.of_append with hfirst | ⟨hclear, hfirst⟩
    · rw [hcheck.refused reason hfirst]
      rfl
    · rw [hcheck.accepted hclear]
      exact hnext.refused reason hfirst
  accepted hclear := by
    obtain ⟨hobstacles, hrest⟩ := List.forall_mem_append.1 hclear
    rw [hcheck.accepted hobstacles]
    exact hnext.accepted hrest

/-- A single check. -/
theorem decides_ite {p q : Prop} [Decidable p] (h : p ↔ q) (reason : Refusal) :
    Decides [⟨q, reason⟩] (if p then .error reason else .ok ()) () :=
  .cons (fun hq => if_pos (h.2 hq)) fun hq => by
    rw [if_neg fun hp => hq (h.1 hp)]
    exact decides_ok ()

/-- The same with the alternatives the other way round. -/
theorem decides_ite_not {p q : Prop} [Decidable p] (h : p ↔ q) (reason : Refusal) :
    Decides [⟨¬ q, reason⟩] (if p then .ok () else .error reason) () :=
  .cons (fun hq => if_neg fun hp => hq (h.1 hp)) fun hq => by
    rw [if_pos (h.2 (not_not.1 hq))]
    exact decides_ok ()

end Tables

/-! ### The tables of the operations -/

/-- Each kind of support that is asked for and is not in the catalog is in the way. -/
def supportObstacles (catalog : List SupportType) (needs : List SupportNeed) : List Obstacle :=
  needs.map fun need =>
    ⟨¬ ∃ t ∈ catalog, t.name = need.type, .unknownSupport need.type⟩

/-- What is in the way of an update. -/
def UpdateRequest.obstacles (now : DateTime) (r : UpdateRequest) (v : Visit) : List Obstacle :=
  let d := r.applyTo v.details
  [ ⟨v.details.status = .cancelled, .updateOfCancelled v.reference⟩,
    ⟨v.details.starts.toDateTime < now, .expired v.reference .changed⟩,
    ⟨∃ next, r.status = some next ∧ ¬ v.details.status.canBecome next,
      .illegalMove v.reference v.details.status d.status⟩,
    ⟨¬ d.starts < d.ends, .badSlot d.starts d.ends⟩ ]

/-- What is in the way of a change of slot. It does not ask for another status. -/
def SlotChange.obstacles (now : DateTime) (c : SlotChange) (v : Visit) : List Obstacle :=
  let d := c.toUpdate.applyTo v.details
  [ ⟨v.details.starts.toDateTime < now, .expired v.reference .changed⟩,
    ⟨¬ v.details.status = .booked, .notBooked v.reference v.details.status⟩,
    ⟨¬ d.starts < d.ends, .badSlot d.starts d.ends⟩ ]

/-- What is in the way of a cancellation. -/
def cancelObstacles (now : DateTime) (reason : Option CancelReason) (v : Visit) : List Obstacle :=
  [ ⟨v.details.starts.toDateTime < now, .expired v.reference .cancelled⟩,
    ⟨reason = none, .outcomeMissing v.reference⟩,
    ⟨v.details.status = .cancelled, .alreadyCancelled v.reference⟩ ]

theorem clear_supportObstacles_iff {catalog : List SupportType} {needs : List SupportNeed} :
    Clear (supportObstacles catalog needs) ↔
      ∀ need ∈ needs, ∃ t ∈ catalog, t.name = need.type := by
  simp only [Clear, supportObstacles, List.forall_mem_map, not_not]

theorem decides_checkSupport (catalog : List SupportType) (needs : List SupportNeed) :
    Decides (supportObstacles catalog needs) (checkSupport catalog needs) () := by
  induction needs with
  | nil => exact decides_ok ()
  | cons need needs ih =>
    have hunknown : (SupportType.named? need.type catalog).isNone ↔
        ¬ ∃ t ∈ catalog, t.name = need.type := by
      simp [SupportType.named?]
    rw [checkSupport]
    exact .cons (fun h => if_pos (hunknown.2 h)) fun h => by
      rw [if_neg (mt hunknown.1 h)]
      exact ih

theorem decides_checkNotExpired (now : DateTime) (action : PastAction) (v : Visit) :
    Decides [⟨v.details.starts.toDateTime < now, .expired v.reference action⟩]
      (checkNotExpired now action v) () :=
  decides_ite decide_eq_true_iff _

theorem decides_checkSlot (d : Details) :
    Decides [⟨¬ d.starts < d.ends, .badSlot d.starts d.ends⟩] (checkSlot d) () :=
  decides_ite_not decide_eq_true_iff _

theorem decides_checkCreate (r : CreateRequest) :
    Decides [⟨r.status = .cancelled, .bornTerminal r.status⟩,
        ⟨¬ r.starts < r.ends, .badSlot r.starts r.ends⟩]
      (checkCreate r) () := by
  unfold checkCreate
  refine .cons (fun hcancelled => ?_) fun hlive => ?_
  · rw [if_pos (VisitStatus.isTerminal_iff.2 hcancelled)]
    rfl
  · rw [if_neg (mt VisitStatus.isTerminal_iff.1 hlive)]
    exact decides_checkSlot r.details

theorem decides_checkMove (v : Visit) (status : Option VisitStatus) :
    Decides [⟨∃ next, status = some next ∧ ¬ v.details.status.canBecome next,
        .illegalMove v.reference v.details.status (status.getD v.details.status)⟩]
      (checkMove v status) () := by
  cases status with
  | none => exact .cons (fun ⟨_, h, _⟩ => nomatch h) fun _ => decides_ok ()
  | some next =>
    refine .cons ?_ fun hcan => ?_
    · rintro ⟨next', hnext, hcan⟩
      cases hnext
      exact if_neg hcan
    · have hcan : v.details.status.canBecome next := by simpa using hcan
      rw [checkMove, if_pos hcan]
      exact decides_ok ()

/-- The last checks of an update, which a change of slot shares. -/
theorem decides_applyUpdate (r : UpdateRequest) (v : Visit) :
    Decides
      [ ⟨∃ next, r.status = some next ∧ ¬ v.details.status.canBecome next,
          .illegalMove v.reference v.details.status (r.applyTo v.details).status⟩,
        ⟨¬ (r.applyTo v.details).starts < (r.applyTo v.details).ends,
          .badSlot (r.applyTo v.details).starts (r.applyTo v.details).ends⟩ ]
      (applyUpdate r v) { v with details := r.applyTo v.details } := by
  rw [r.status_applyTo]
  exact (decides_checkMove v r.status).bind
    ((decides_checkSlot (r.applyTo v.details)).bind (decides_ok _))

theorem decides_updateVisit (now : DateTime) (r : UpdateRequest) (v : Visit) :
    Decides (r.obstacles now v) (updateVisit now r v)
      { v with details := r.applyTo v.details } := by
  unfold updateVisit
  refine .cons (fun hcancelled => ?_) fun hlive => ?_
  · rw [if_pos (VisitStatus.isTerminal_iff.2 hcancelled)]
    rfl
  · rw [if_neg (mt VisitStatus.isTerminal_iff.1 hlive)]
    exact (decides_checkNotExpired now .changed v).bind (decides_applyUpdate r v)

theorem decides_changeVisit (now : DateTime) (c : SlotChange) (v : Visit) :
    Decides (c.obstacles now v) (changeVisit now c v)
      { v with details := c.toUpdate.applyTo v.details } := by
  refine (decides_checkNotExpired now .changed v).bind (.cons (fun hstatus => ?_) fun hbooked => ?_)
  · rw [if_neg hstatus]
    rfl
  · rw [if_pos (not_not.1 hbooked)]
    have hmove : Decides [] (checkMove v c.toUpdate.status) () := decides_ok ()
    exact hmove.bind ((decides_checkSlot (c.toUpdate.applyTo v.details)).bind (decides_ok _))

/-- Without a reason a cancellation is always refused, so what it would come to is of no account. -/
theorem decides_cancelVisit (now : DateTime) (reason : Option CancelReason) (v : Visit) :
    Decides (cancelObstacles now reason v) (cancelVisit now reason v)
      (reason.elim v fun r => v.cancelFor r) := by
  refine (decides_checkNotExpired now .cancelled v).bind ?_
  cases reason with
  | none => exact .cons (fun _ => rfl) fun h => absurd rfl h
  | some r =>
    refine .cons nofun fun _ => .cons (fun h => ?_) fun h => ?_
    · exact if_pos (VisitStatus.isTerminal_iff.2 h)
    · simp only [if_neg (mt VisitStatus.isTerminal_iff.1 h)]
      exact decides_ok _

/-! ### Calls that fail -/

namespace Service

/-- The checks on a request by itself come before those on its support. -/
theorem decides_prepare {svc : Service} {op : Operation} {obstacles : List Obstacle}
    (h : Decides obstacles op.check ()) (catalog : List SupportType) (now : Instant) :
    Decides (obstacles ++ supportObstacles catalog op.support) (svc.prepare catalog now op)
      (svc.transaction now op) := by
  have hsupport := (decides_checkSupport catalog op.support).bind
    (decides_ok (svc.transaction now op))
  rw [List.append_nil] at hsupport
  exact h.bind hsupport

/-- A call fails; the store is as it was, and nothing is handed to the transport. -/
structure Declines (svc : Service) (c : Call) (s : Store) (f : Failure) : Prop where
  result : (svc.report c s).result = .error f
  attempt : (svc.report c s).attempt = none
  store : svc.next c s = s

variable {svc : Service} {c : Call} {s : Store} {reference : String}
  {change : Visit → Except Refusal Visit}

theorem next_eq (svc : Service) (c : Call) (s : Store) :
    svc.next c s = (svc.perform c.readings c.operation s).2 := rfl

theorem declines_of_perform_eq_error {reason : Refusal}
    (h : svc.perform c.readings c.operation s = (.error reason, s)) :
    svc.Declines c s (.refused reason) :=
  ⟨by rw [report_eq, h]; rfl, by rw [report_eq, h]; rfl, congrArg Prod.snd h⟩

theorem declines_of_perform_eq_failure {f : Failure}
    (h : svc.perform c.readings c.operation s = (.ok (.ofFailure f), s)) : svc.Declines c s f :=
  ⟨by rw [report_eq, h]; rfl, by rw [report_eq, h]; rfl, congrArg Prod.snd h⟩

theorem Declines.not_isOk {f : Failure} (h : svc.Declines c s f) :
    ¬ (svc.report c s).result.isOk := by
  rw [h.result]
  exact Bool.false_ne_true

theorem revision?_of_update {request : UpdateRequest}
    (hc : c.operation = .update reference request) (now : DateTime) :
    c.operation.revision? now = some (reference, updateVisit now request) := by
  rw [hc]
  rfl

theorem revision?_of_change {request : SlotChange}
    (hc : c.operation = .change reference request) (now : DateTime) :
    c.operation.revision? now = some (reference, changeVisit now request) := by
  rw [hc]
  rfl

/-- Of a request to revise a visit, nothing but the support is looked at before the visit. -/
theorem check_of_revision? {op : Operation} {now : DateTime}
    (hop : op.revision? now = some (reference, change)) : op.check = .ok () := by
  cases op <;> first | rfl | cases hop

theorem insertion?_of_revision? {op : Operation} {now : DateTime}
    (hop : op.revision? now = some (reference, change)) : op.insertion? = none := by
  cases op <;> first | rfl | cases hop

section Revises

variable (hop : c.operation.revision? (svc.wallClock c.readings.now) = some (reference, change))

include hop

/-- Support that is not in the catalog is told before anything is asked about the visit. -/
theorem declines_of_unknownSupport {reason : Refusal}
    (h : FirstObstacle (supportObstacles s.catalog c.operation.support) reason) :
    svc.Declines c s (.refused reason) := by
  have hprepare : svc.prepare s.catalog c.readings.now c.operation = .error reason := by
    rw [prepare, check_of_revision? hop, (decides_checkSupport ..).refused reason h]
    rfl
  exact declines_of_perform_eq_error (perform_of_prepare_eq_error hprepare)

variable (hsupport : Clear (supportObstacles s.catalog c.operation.support))

include hsupport

theorem ready_of_revision? : c.operation.Ready s.catalog where
  check := check_of_revision? hop
  support := (decides_checkSupport ..).accepted hsupport

/-- With known support, a call on one visit is what it does to the store. -/
theorem perform_of_revision? :
    svc.perform c.readings c.operation s =
      (.ok (.ofWrite c.operation.eventKind? (s.update c.readings.write reference change).1),
        (s.update c.readings.write reference change).2) := by
  rw [perform_of_ready (ready_of_revision? hop hsupport), run_revision hop]

/-- A call that the store fails has failed. -/
theorem declines_of_update_eq_error {f : Failure}
    (h : s.update c.readings.write reference change = (.error f, s)) : svc.Declines c s f := by
  refine declines_of_perform_eq_failure ?_
  rw [perform_of_revision? hop hsupport, h]
  rfl

theorem declines_of_missing (h : ∀ r ∈ s.rows, r.reference ≠ reference) :
    svc.Declines c s (.notFound reference) := by
  have hrow : s.rowByReference? reference = none :=
    Option.isNone_iff_eq_none.1 (Store.rowByReference?_isNone_iff.2 h)
  exact declines_of_update_eq_error hop hsupport (Store.update_of_missing hrow)

theorem declines_of_unreadable (wf : s.WellFormed) {r : Row} (hr : r ∈ s.rows)
    (href : r.reference = reference) {fault : StoreFault} (hfault : r.visit = .error fault) :
    svc.Declines c s (.store (.unreadableRow fault)) := by
  have hrow : s.rowByReference? reference = some r := wf.rowByReference?_eq_some_iff.2 ⟨hr, href⟩
  exact declines_of_update_eq_error hop hsupport (Store.update_of_unreadable hrow hfault)

theorem declines_of_obstacle (wf : s.WellFormed) {v : Visit} (hv : v ∈ s)
    (href : v.reference = reference) {reason : Refusal} (h : change v = .error reason) :
    svc.Declines c s (.refused reason) := by
  have hfound : s.findByReference reference = .ok (some v) :=
    wf.findByReference_eq_ok_some_iff.2 ⟨hv, href⟩
  obtain ⟨r, hrow, hrv⟩ := Store.readRow_eq_ok_some_iff.1 hfound
  exact declines_of_update_eq_error hop hsupport (Store.update_of_refused hrow hrv h)

end Revises

/-! ### Calls that write -/

/-- A call has written `v` again, with the details `d`. Its row keeps the identity, the reference
and the instant of its creation, and no other row is written. -/
structure Rewrites (svc : Service) (c : Call) (s : Store) (v : Visit) (d : Details) : Prop where
  store : svc.next c s = s.writeRow v.id d.columns c.readings.write
  /-- Afterwards there is the visit as it was written, and all others are as they were. -/
  mem_iff : c.readings.write.HasPlainYear → ∀ u, u ∈ svc.next c s ↔
    u = { v with details := d, modified := c.readings.write } ∨ u ∈ s ∧ u.id ≠ v.id
  /-- The visit is read back as it was written. -/
  outcome : c.readings.write.HasPlainYear → (svc.perform c.readings c.operation s).1 =
    .ok (c.operation.written (.ok { v with details := d, modified := c.readings.write }))

section Revises

variable (hop : c.operation.revision? (svc.wallClock c.readings.now) = some (reference, change))
  (wf : s.WellFormed)

include hop wf

/-- A call on one visit has failed and left nothing behind, or it has written the row of the visit
again. -/
theorem declines_or_commits :
    (∃ f, svc.Declines c s f) ∨ ∃ r ∈ s.rows, r.reference = reference ∧
      c.operation.Ready s.catalog ∧ ∃ v w, r.visit = .ok v ∧ change v = .ok w ∧
        w.details.columns.Valid ∧ svc.Commits c.readings c.operation s
          (r.write w.details.columns c.readings.write)
          (s.writeRow r.id w.details.columns c.readings.write) := by
  have hperformed := svc.performed wf c.readings c.operation
  generalize hperform : svc.perform c.readings c.operation s = p at hperformed
  obtain ⟨outcome, s'⟩ := p
  cases hperformed with
  | refused => exact .inl ⟨_, declines_of_perform_eq_error hperform⟩
  | missing | unreadable | declined | notAdmitted | notValid =>
    exact .inl ⟨_, declines_of_perform_eq_failure hperform⟩
  | answered _ _ _ hrevision => cases hop.symm.trans hrevision
  | committed _ _ hcommits =>
    have hagain := hcommits
    cases hcommits with
    | insertion d hinsertion => cases hinsertion.symm.trans (insertion?_of_revision? hop)
    | revision r hr change' hop' hready v w hv hw hvalid =>
      obtain ⟨rfl, rfl⟩ := Prod.mk.inj (Option.some.inj (hop.symm.trans hop'))
      exact .inr ⟨r, hr, rfl, hready, v, w, hv, hw, hvalid, hagain⟩

/-- Where nothing is in the way and the store takes the columns, the visit is written. -/
theorem rewrites_of_ok (hsupport : Clear (supportObstacles s.catalog c.operation.support))
    {v : Visit} (hv : v ∈ s) (href : v.reference = reference) {d : Details}
    (hd : change v = .ok { v with details := d }) (hvalid : d.columns.Valid) :
    svc.Rewrites c s v d := by
  obtain ⟨r, hr, hrv⟩ := id hv
  have hreference : r.reference = reference := (wf.visit_reference hr hrv).symm.trans href
  have hcommits := Commits.revision r hr change (hreference ▸ hop)
    (ready_of_revision? hop hsupport) v _ hrv hd hvalid
  have hperform := perform_of_commits wf hcommits
  have hstore : svc.next c s = s.writeRow v.id d.columns c.readings.write := by
    rw [wf.visit_id hr hrv]
    exact congrArg Prod.snd hperform
  refine ⟨hstore, fun hwrite u => hstore ▸ wf.mem_writeRow_iff hv d hwrite, fun hwrite => ?_⟩
  rw [hperform, Row.visit_write hrv (wf.visit_columns hr hrv) d hwrite]

end Revises

end Service

end VisitBooking
