import VisitBooking.Proofs.Service.Lifecycle

/-!
# Calls one after the other

A serial run is told in two ways: by the reports of all calls (`Service.serve`), and by the effects
of those calls alone that come to a transaction (`Service.Trace`). A call that is refused before it
comes to one leaves the store as it is, and so do the calls around it not see it.

The facts about cancellations hold along a trace. After a cancellation that succeeds the visit is
*settled*: under its reference the cancelled visit is found, as it is, or no visit at all, and no
second cancellation succeeds.

## Main definitions

* `Service.serve`, `Service.Trace`: serial runs.
* `Store.Settled`: the visit with a reference is cancelled for good.
* `SuccessfulCancel`: an effect is that of a cancellation that succeeded.

## Main results

* `Service.serve_of_trace`: from the trace to the reports of all calls.
* `Service.Trace.eq_of_successfulCancel`: at most one cancellation of a visit succeeds.
* `Service.Trace.visit_of_cancel`: what it answers is what stays stored.
-/

namespace VisitBooking

open Calendar Reference

theorem Effect.ofWrite_mapError_eq_ok {kind : Option EventKind} {x : Except StoreFault Visit}
    {a : Answer} (h : (Effect.ofWrite kind (x.mapError .store)).result = .ok a) :
    ∃ v, x = .ok v ∧ a = .visit v := by
  cases x with
  | error fault => cases h
  | ok v =>
    cases h
    exact ⟨v, rfl, rfl⟩

/-! ### Cancelled for good -/

/-- Whatever is found under a reference that was given out is the cancelled visit of a row. -/
structure Store.Settled (codec : Codec) (reference : String) (r : Row) (s : Store) : Prop where
  issued : ∃ n ≤ s.lastId, reference = codec.encode n
  cancelled : ∃ d : Details, r.columns = d.columns ∧ d.status = .cancelled
  only : ∀ r' ∈ s.rows, r'.reference = reference → r' = r

namespace Service

variable {svc : Service} {readings : Readings} {s s' : Store} {reference : String}

theorem settled_after (hs : s.Keyed svc.codec) {r : Row} (h : s.Settled svc.codec reference r)
    (calls : List Call) : (svc.after calls s).Settled svc.codec reference r := by
  obtain ⟨n, hn, href⟩ := h.issued
  obtain ⟨d, hd, hcancelled⟩ := h.cancelled
  have honly := h.only
  rw [href] at honly
  refine ⟨⟨n, Nat.le_trans hn (lastId_le_after hs calls), href⟩, h.cancelled, ?_⟩
  rw [href]
  refine holds_after ?_ hs hn honly calls
  rintro readings op r₁ r₂ rfl hrev
  exact absurd hrev (not_revisesRow hd (.inl hcancelled))

/-- A cancellation that succeeds finds a visit that is not cancelled, and leaves it cancelled for
good, as the visit that it answers. -/
theorem Step.of_cancel {reason : Option CancelReason} {e : Effect} {a : Answer}
    (h : svc.Step readings (.cancel reference reason) s (.ok e) s') (hs : s.Keyed svc.codec)
    (ha : e.result = .ok a) :
    (∃ r ∈ s.rows, r.reference = reference ∧ ∃ d : Details, r.columns = d.columns ∧
      d.status ≠ .cancelled) ∧
    ∃ r v, s'.Settled svc.codec reference r ∧ r.visit = .ok v ∧ a = .visit v := by
  have hs' := h.keyed hs
  generalize hout : (Except.ok e : Except Refusal Effect) = outcome at h
  cases h with
  | idle _ hfail =>
    obtain ⟨f, rfl⟩ := hfail rfl e hout.symm
    cases ha
  | insertion _ _ hop => cases hop
  | deletion _ hop => cases hop
  | revision r hr d d' hd change hop hrevised =>
    obtain ⟨rfl, -⟩ := Prod.mk.inj (Option.some.inj hop)
    cases hout
    obtain ⟨v, hv, rfl⟩ := Effect.ofWrite_mapError_eq_ok ha
    obtain ⟨n, hn, -, href⟩ := hs.reference_eq r hr
    have hmem : r.write d'.columns readings.write ∈
        (s.writeRow r.id d'.columns readings.write).rows :=
      Store.mem_writeRow.2 (.inr ⟨r, hr, rfl, rfl⟩)
    exact ⟨⟨r, hr, rfl, d, hd, hrevised.live⟩, _, v,
      ⟨⟨n, hn, href⟩, ⟨d', rfl, hrevised.cancels reason rfl⟩,
        fun r' hr' href' => hs'.eq_of_reference_eq hr' hmem href'⟩, hv, rfl⟩

/-- No cancellation succeeds on a visit that is cancelled. -/
theorem not_ok_of_settled {r : Row} (hr : s.Settled svc.codec reference r)
    {reason : Option CancelReason} {e : Effect} {a : Answer}
    (h : svc.Step readings (.cancel reference reason) s (.ok e) s') (hs : s.Keyed svc.codec) :
    e.result ≠ .ok a := by
  intro ha
  obtain ⟨⟨r', hr', href, d', hd', hlive⟩, -⟩ := h.of_cancel hs ha
  obtain rfl : r' = r := hr.only r' hr' href
  obtain ⟨d, hd, hcancelled⟩ := hr.cancelled
  obtain rfl : d = d' := Details.columns_injective (hd.symm.trans hd')
  exact hlive hcancelled

/-! ### Traces -/

variable {ι : Type} {calls : ι → Call}

/-- Calls made one after the other, and their effects, lead from one store to another. The calls are
given by their names. -/
inductive Trace (svc : Service) (calls : ι → Call) : List (ι × Effect) → Store → Store → Prop where
  | nil (s : Store) : Trace svc calls [] s s
  | cons {i : ι} {e : Effect} {log : List (ι × Effect)} {s mid s' : Store}
      (head : svc.perform (calls i).readings (calls i).operation s = (.ok e, mid))
      (tail : Trace svc calls log mid s') : Trace svc calls ((i, e) :: log) s s'

variable {log more : List (ι × Effect)} {i : ι} {e : Effect} {mid : Store}

theorem Trace.append (h : svc.Trace calls log s mid) (h' : svc.Trace calls more mid s') :
    svc.Trace calls (log ++ more) s s' := by
  induction h with
  | nil => exact h'
  | cons head _ ih => exact .cons head (ih h')

theorem Trace.single
    (h : svc.perform (calls i).readings (calls i).operation s = (.ok e, s')) :
    svc.Trace calls [(i, e)] s s' :=
  .cons h (.nil s')

theorem Trace.after_eq (h : svc.Trace calls log s s') :
    svc.after (log.map fun p => calls p.1) s = s' := by
  induction h with
  | nil => rfl
  | @cons i e log s mid s' head tail ih =>
    have hmid : svc.next (calls i) s = mid := congrArg Prod.snd head
    rw [List.map_cons, after, List.foldl_cons, hmid]
    exact ih

theorem step_of_head (hs : s.Keyed svc.codec)
    (head : svc.perform (calls i).readings (calls i).operation s = (.ok e, mid)) :
    svc.Step (calls i).readings (calls i).operation s (.ok e) mid := by
  have hstep := svc.step_of_perform hs.toWellFormed (calls i).readings (calls i).operation
  rwa [head] at hstep

theorem Trace.keyed (h : svc.Trace calls log s s') (hs : s.Keyed svc.codec) :
    s'.Keyed svc.codec :=
  h.after_eq ▸ keyed_after hs _

theorem Trace.catalog_eq (h : svc.Trace calls log s s') (hs : s.Keyed svc.codec) :
    s'.catalog = s.catalog := by
  induction h with
  | nil => rfl
  | cons head _ ih =>
    have hstep := step_of_head hs head
    exact (ih (hstep.keyed hs)).trans hstep.catalog_eq

/-! ### Cancellations along a trace -/

/-- An entry of a trace tells of a cancellation of the visit with the reference, and it succeeded.
-/
def SuccessfulCancel (calls : ι → Call) (reference : String) (p : ι × Effect) : Prop :=
  (∃ reason, (calls p.1).operation = .cancel reference reason) ∧ ∃ a, p.2.result = .ok a

/-- After the visit is cancelled no cancellation of it succeeds. -/
theorem Trace.not_successfulCancel (h : svc.Trace calls log s s') (hs : s.Keyed svc.codec) {r : Row}
    (hr : s.Settled svc.codec reference r) :
    ∀ p ∈ log, ¬ SuccessfulCancel calls reference p := by
  induction h with
  | nil => simp
  | @cons i e log s mid s' head tail ih =>
    have hstep := step_of_head hs head
    rintro p hp ⟨⟨reason, hop⟩, a, ha⟩
    rcases List.mem_cons.1 hp with rfl | hp
    · exact not_ok_of_settled hr (hop ▸ hstep) hs ha
    · have hmid : svc.after [calls i] s = mid := congrArg Prod.snd head
      exact ih (hstep.keyed hs) (hmid ▸ settled_after hs hr [calls i]) p hp ⟨⟨reason, hop⟩, a, ha⟩

theorem Trace.pairwise_cancel (h : svc.Trace calls log s s') (hs : s.Keyed svc.codec)
    (reference : String) :
    log.Pairwise fun p q =>
      SuccessfulCancel calls reference p → ¬ SuccessfulCancel calls reference q := by
  induction h with
  | nil => exact .nil
  | @cons i e log s mid s' head tail ih =>
    have hstep := step_of_head hs head
    refine .cons ?_ (ih (hstep.keyed hs))
    rintro q hq ⟨⟨reason, hop⟩, a, ha⟩
    obtain ⟨-, r, v, hr, -⟩ := (hop ▸ hstep : svc.Step _ (.cancel reference reason) _ _ _).of_cancel
      hs ha
    exact tail.not_successfulCancel (hstep.keyed hs) hr q hq

/-- At most one cancellation of a visit succeeds. -/
theorem Trace.eq_of_successfulCancel (h : svc.Trace calls log s s') (hs : s.Keyed svc.codec)
    {p q : ι × Effect} (hp : p ∈ log) (hq : q ∈ log) (hpc : SuccessfulCancel calls reference p)
    (hqc : SuccessfulCancel calls reference q) : p = q := by
  have hpair := h.pairwise_cancel hs reference
  have hone : ∀ ⦃x⦄, x ∈ log → ∀ ⦃y⦄, y ∈ log → SuccessfulCancel calls reference x →
      SuccessfulCancel calls reference y → x = y :=
    List.Pairwise.forall_of_forall_of_flip (fun _ _ _ _ => rfl)
      (hpair.imp fun hxy hx hy => absurd hy (hxy hx))
      (hpair.imp fun hxy hy hx => absurd hy (hxy hx))
  exact hone hp hq hpc hqc

/-- What a cancellation answers stays stored until it is deleted. -/
theorem Trace.visit_of_cancel (h : svc.Trace calls log s s') (hs : s.Keyed svc.codec)
    {p : ι × Effect} (hp : p ∈ log) {reason : Option CancelReason}
    (hop : (calls p.1).operation = .cancel reference reason) {a : Answer}
    (ha : p.2.result = .ok a) :
    ∃ v, a = .visit v ∧ v.details.status = .cancelled ∧
      ∀ r ∈ s'.rows, r.reference = reference → r.visit = .ok v := by
  induction h with
  | nil => cases hp
  | @cons i e log s mid s' head tail ih =>
    have hstep := step_of_head hs head
    rcases List.mem_cons.1 hp with rfl | hp
    · obtain ⟨-, r, v, hr, hv, rfl⟩ :=
        (hop ▸ hstep : svc.Step _ (.cancel reference reason) _ _ _).of_cancel hs ha
      have hr' : s'.Settled svc.codec reference r :=
        tail.after_eq ▸ settled_after (hstep.keyed hs) hr _
      obtain ⟨d, hd, hcancelled⟩ := hr.cancelled
      obtain ⟨-, -, rfl, -⟩ := (Row.visit_eq_ok_iff hd).1 hv
      exact ⟨v, rfl, hcancelled, fun r' hr'_mem href => hr'.only r' hr'_mem href ▸ hv⟩
    · exact ih (hstep.keyed hs) hp

/-! ### Publications -/

/-- What is announced has succeeded. -/
theorem result_of_event {codec : Codec} {write : Instant} {t : Transaction} {p : EventKind × Visit}
    (h : (t.run codec write s).1.event = some p) : ∃ a, (t.run codec write s).1.result = .ok a := by
  have hwrite : ∀ (kind : Option EventKind) (x : Except Failure Visit),
      (Effect.ofWrite kind x).event = some p → ∃ a, (Effect.ofWrite kind x).result = .ok a := by
    rintro kind (f | v) hx
    · cases hx
    · exact ⟨.visit v, rfl⟩
  revert h
  cases t with
  | insertBooked d =>
    simp only [Transaction.run]
    rcases s.insert codec write d with ⟨fault | v, _⟩
    · intro h
      cases h
    · exact fun _ => ⟨.visit v, rfl⟩
  | insertMigrated d =>
    simp only [Transaction.run]
    rcases s.insert codec write d with ⟨fault | v, _⟩ <;> intro h <;> cases h
  | update reference now r =>
    simp only [Transaction.run]
    exact hwrite _ _
  | change reference now c =>
    simp only [Transaction.run]
    exact hwrite _ _
  | cancel reference now reason =>
    simp only [Transaction.run]
    exact hwrite _ _
  | find reference =>
    simp only [Transaction.run]
    rcases s.findByReference reference with fault | _ | v <;> intro h <;> cases h
  | findAll filter =>
    simp only [Transaction.run]
    rcases s.findAll filter with fault | vs <;> intro h <;> cases h
  | delete reference => intro h; cases h
  | deleteMany references => intro h; cases h
  | listSupport => intro h; cases h

theorem result_of_perform {op : Operation} (h : svc.perform readings op s = (.ok e, s'))
    {p : EventKind × Visit} (hp : e.event = some p) : ∃ a, e.result = .ok a := by
  cases hprepare : svc.prepare s.catalog readings.now op with
  | error reason =>
    rw [perform_of_prepare_eq_error hprepare] at h
    cases h
  | ok t =>
    rw [perform_of_prepare_eq_ok hprepare] at h
    obtain rfl := Except.ok.inj (Prod.mk.inj h).1
    exact result_of_event hp

/-- A publication is attempted only for what is announced. -/
theorem event_of_attempt {verdict : Verdict} {op : Operation} {outcome : Except Refusal Effect}
    {attempt : Attempt} (h : (svc.conclude verdict op outcome).attempt = some attempt) :
    ∃ e p, outcome = .ok e ∧ e.event = some p := by
  cases outcome with
  | error reason => cases h
  | ok e =>
    cases hevent : e.event with
    | some p => exact ⟨e, p, rfl, hevent⟩
    | none => simp [conclude, announce, hevent] at h

theorem Trace.result_of_event (h : svc.Trace calls log s s') {p : ι × Effect} (hp : p ∈ log)
    {event : EventKind × Visit} (hevent : p.2.event = some event) : ∃ a, p.2.result = .ok a := by
  induction h with
  | nil => cases hp
  | cons head _ ih =>
    rcases List.mem_cons.1 hp with rfl | hp
    · exact result_of_perform head hevent
    · exact ih hp

/-! ### Reports of all calls -/

/-- The reports of calls made one after the other, and the store in the end. -/
def serve (svc : Service) : List Call → Store → List Report × Store
  | [], s => ([], s)
  | c :: calls, s =>
    let (report, mid) := svc.run c.readings c.verdict c.operation s
    let (reports, s') := svc.serve calls mid
    (report :: reports, s')

theorem serve_cons {c : Call} {outcome : Except Refusal Effect}
    (h : svc.perform c.readings c.operation s = (outcome, mid)) (rest : List Call) :
    svc.serve (c :: rest) s =
      (svc.conclude c.verdict c.operation outcome :: (svc.serve rest mid).1,
        (svc.serve rest mid).2) := by
  simp only [serve, run, h]

/-- The calls of a trace, and among them any calls that are refused before they come to a
transaction, made one after the other, lead to the store at the end of the trace, each with the
report that its effect or its refusal leads to. -/
theorem serve_of_trace (h : svc.Trace calls log s s') (hs : s.Keyed svc.codec)
    {ran : ι → Bool} {report : ι → Report} {order : List ι}
    (horder : order.filter ran = log.map Prod.fst)
    (hran : ∀ p ∈ log, report p.1 =
      svc.conclude (calls p.1).verdict (calls p.1).operation (.ok p.2))
    (hrefused : ∀ i ∈ order, ran i = false → ∃ reason,
      svc.prepare s.catalog (calls i).readings.now (calls i).operation = .error reason ∧
      report i = svc.conclude (calls i).verdict (calls i).operation (.error reason)) :
    svc.serve (order.map calls) s = (order.map report, s') := by
  induction order generalizing log s with
  | nil =>
    obtain rfl : log = [] := List.map_eq_nil_iff.1 horder.symm
    cases h
    rfl
  | cons i order ih =>
    by_cases hi : ran i = true
    · -- The call is the next one of the trace.
      rw [List.filter_cons_of_pos hi] at horder
      cases h with
      | nil => cases horder
      | @cons j e log _ mid _ head tail =>
        obtain ⟨rfl, hrest⟩ := List.cons.inj horder
        have hstep := step_of_head hs head
        have htail := ih tail (hstep.keyed hs) hrest
          (fun p hp => hran p (List.mem_cons_of_mem _ hp)) fun k hk hk_ran => by
            rw [hstep.catalog_eq]
            exact hrefused k (List.mem_cons_of_mem _ hk) hk_ran
        rw [List.map_cons, serve_cons head, htail, List.map_cons,
          hran (i, e) (List.mem_cons_self ..)]
    · -- The call is refused and leaves the trace and the store as they are.
      have hfalse : ran i = false := by simpa using hi
      rw [List.filter_cons_of_neg hi] at horder
      obtain ⟨reason, hprepare, hreport⟩ := hrefused i (List.mem_cons_self ..) hfalse
      have htail := ih h hs horder hran fun k hk => hrefused k (List.mem_cons_of_mem _ hk)
      have hperform := perform_of_prepare_eq_error hprepare
      rw [List.map_cons, serve_cons hperform, htail, List.map_cons, hreport]

end Service

end VisitBooking
